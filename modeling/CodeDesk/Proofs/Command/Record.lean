import CodeDesk.Proofs.Command.Stages
import CodeDesk.Proofs.Command.Workshop
import CodeDesk.Proofs.Data.Table
import Mathlib.Data.List.Basic
/-!
# Record — which runs were registered, and the lines that come from them

A run stands in the running table from its registration until its worker has
struck it off, and under its own label only. `Books` says so of the table,
with the runs in the order in which they were registered: the table has a
run under a label exactly if the run was registered and its worker has not
come past its entry. So there is at most one such run for each label
(`Books.alone`), and it is the one that was registered last
(`Books.latest`). The books are kept when a run goes on (`Books.goes`), when
its worker strikes it off (`Books.strike`), when a run is set up
(`Books.found`) and when it is registered under a label that is free
(`Books.register`).

`Written` says what the record of a workshop tells about the sinks: a sink
shows the last of the lines that were added to it, each of them comes from a
registered run with the name of the sink, those of a run that was registered
before come first, and the last line of a run that has ended is its status
line. A run writes as long as it is the last of its label that was registered
(`Written.goes`). What callers do adds no line (`Written.clear`).
-/

namespace CodeDesk

/-! ## The running table and the order of registration -/

namespace Command

variable {runs : List Run} {table : Table String RunId} {roll : List RunId}
variable {id j : RunId} {run run' : Run} {name : String}

/-- There is a run, and it has a label. -/
def Labelled (runs : List Run) (id : RunId) (name : String) : Prop :=
  ∃ run, runs[id]? = some run ∧ run.plan.label = name

/-- There is a run with a label, and its worker has not struck it off. -/
def Standing (runs : List Run) (id : RunId) (name : String) : Prop :=
  ∃ run, runs[id]? = some run ∧ run.plan.label = name ∧ run.stage.isListed

/-- The running table agrees with what was registered. -/
structure Books (runs : List Run) (table : Table String RunId) (roll : List RunId) : Prop where
  /-- Only runs that there are were registered. -/
  known : ∀ id ∈ roll, id < runs.length
  /-- A run that was not registered has not begun. -/
  idle : ∀ id run, runs[id]? = some run → id ∉ roll → run.stage = .idle
  /-- The table has the runs that were registered and not struck off. -/
  listed : ∀ name id, table.get? name = some id ↔ id ∈ roll ∧ Standing runs id name
  /-- Of the runs of a label it has the last. -/
  latest : ∀ name id, table.get? name = some id → ∀ j ∈ roll, Labelled runs j name →
    roll.idxOf j ≤ roll.idxOf id

/-- What holds of a run after another has taken the place of one. -/
theorem exists_set_iff (hrun : runs[id]? = some run) {P : Run → Prop} :
    (∃ x, (runs.set id run')[j]? = some x ∧ P x) ↔
      if j = id then P run' else ∃ x, runs[j]? = some x ∧ P x := by
  by_cases h : j = id
  · rw [if_pos h, h, List.getElem?_set_self (List.getElem?_eq_some_iff.1 hrun).1]
    exact ⟨fun ⟨x, hx, hP⟩ => by cases hx; exact hP, fun hP => ⟨run', rfl, hP⟩⟩
  · rw [if_neg h, List.getElem?_set_ne (Ne.symm h)]

theorem labelled_set (hrun : runs[id]? = some run) (hplan : run'.plan = run.plan) :
    Labelled (runs.set id run') j name ↔ Labelled runs j name := by
  unfold Labelled
  rw [exists_set_iff hrun]
  split
  · next h =>
    rw [h, hrun, hplan]
    exact ⟨fun hname => ⟨run, rfl, hname⟩, fun ⟨x, hx, hname⟩ => by cases hx; exact hname⟩
  · rfl

theorem standing_set (hrun : runs[id]? = some run) (hplan : run'.plan = run.plan)
    (hlisted : run'.stage.isListed = run.stage.isListed) :
    Standing (runs.set id run') j name ↔ Standing runs j name := by
  unfold Standing
  rw [exists_set_iff hrun]
  split
  · next h =>
    rw [h, hrun, hplan, hlisted]
    exact ⟨fun hname => ⟨run, rfl, hname⟩, fun ⟨x, hx, hname⟩ => by cases hx; exact hname⟩
  · rfl

/-- A run that is struck off stands no longer. -/
theorem standing_set_gone (hrun : runs[id]? = some run) (hgone : run'.stage.isListed = false) :
    Standing (runs.set id run') j name ↔ j ≠ id ∧ Standing runs j name := by
  unfold Standing
  rw [exists_set_iff hrun]
  split
  · next h =>
    rw [hgone]
    exact ⟨fun hgone => absurd hgone.2 Bool.false_ne_true, fun hne => absurd h hne.1⟩
  · next h => exact ⟨fun hx => ⟨h, hx⟩, And.right⟩

theorem labelled_append (hlt : j < runs.length) (new : List Run) :
    Labelled (runs ++ new) j name ↔ Labelled runs j name := by
  unfold Labelled
  rw [List.getElem?_append_left hlt]

theorem standing_append (hlt : j < runs.length) (new : List Run) :
    Standing (runs ++ new) j name ↔ Standing runs j name := by
  unfold Standing
  rw [List.getElem?_append_left hlt]

/-- A run has one label. -/
theorem Labelled.eq {other : String} (h : Labelled runs id name) (h' : Labelled runs id other) :
    name = other := by
  obtain ⟨run, hrun, rfl⟩ := h
  obtain ⟨run', hrun', rfl⟩ := h'
  rw [hrun] at hrun'
  cases hrun'
  rfl

theorem Standing.labelled (h : Standing runs id name) : Labelled runs id name := by
  obtain ⟨run, hrun, hname, -⟩ := h
  exact ⟨run, hrun, hname⟩

namespace Books

/-- No run was set up. -/
theorem nil : Books [] Table.empty [] where
  known _ h := nomatch h
  idle _ _ h := nomatch h
  listed _ _ := ⟨fun h => (nomatch h), fun h => absurd h.1 List.not_mem_nil⟩
  latest _ _ h := nomatch h

/-- **At most one run of a label was registered and not struck off.** -/
theorem alone (h : Books runs table roll) (hid : id ∈ roll) (hj : j ∈ roll)
    (hstands : Standing runs id name) (hstands' : Standing runs j name) : id = j := by
  have hfirst := (h.listed name id).2 ⟨hid, hstands⟩
  have hsecond := (h.listed name j).2 ⟨hj, hstands'⟩
  rw [hfirst] at hsecond
  exact Option.some.inj hsecond

/-- A run that has begun was registered. -/
theorem mem_of_ne_idle (h : Books runs table roll) (hrun : runs[id]? = some run)
    (hbegun : run.stage ≠ .idle) : id ∈ roll :=
  Classical.byContradiction fun hnot => hbegun (h.idle id run hrun hnot)

theorem lt_of_get? (h : Books runs table roll) (hget : table.get? name = some id) :
    id < runs.length :=
  h.known id ((h.listed name id).1 hget).1

/-- A run that is over is not in the table. -/
theorem get?_ne_of_isOver (h : Books runs table roll) (hrun : runs[id]? = some run)
    (hover : run.isOver) : table.get? name ≠ some id := by
  intro hget
  obtain ⟨-, run', hrun', -, hlisted⟩ := (h.listed name id).1 hget
  rw [hrun] at hrun'
  cases hrun'
  have hgone : run.stage = .gone := eq_of_beq hover
  rw [hgone] at hlisted
  cases hlisted

theorem goes (h : Books runs table roll) (hrun : runs[id]? = some run)
    (hplan : run'.plan = run.plan) (hlisted : run'.stage.isListed = run.stage.isListed)
    (hidle : id ∉ roll → run'.stage = .idle) : Books (runs.set id run') table roll where
  known j hj := by
    rw [List.length_set]
    exact h.known j hj
  idle j old hold hj := by
    rw [List.getElem?_set] at hold
    split at hold
    · next heq =>
      rw [if_pos (List.getElem?_eq_some_iff.1 hrun).1] at hold
      cases hold
      exact hidle (heq ▸ hj)
    · exact h.idle j old hold hj
  listed name j := by
    rw [standing_set hrun hplan hlisted]
    exact h.listed name j
  latest name j hget k hk hlabel := h.latest name j hget k hk ((labelled_set hrun hplan).1 hlabel)

/-- A worker that strikes its run off finds it in the table. -/
theorem strike (h : Books runs table roll) (hrun : runs[id]? = some run) (hid : id ∈ roll)
    (hplan : run'.plan = run.plan) (hlisted : run.stage.isListed)
    (hgone : run'.stage.isListed = false) :
    table.get? run.plan.label = some id ∧
      Books (runs.set id run') (table.erase run.plan.label) roll := by
  have hown : table.get? run.plan.label = some id :=
    (h.listed _ id).2 ⟨hid, run, hrun, rfl, hlisted⟩
  have hget : ∀ name, (table.erase run.plan.label).get? name =
      if name = run.plan.label then none else table.get? name := fun name => Table.get?_erase
  refine ⟨hown, ?_, ?_, ?_, ?_⟩
  · intro j hj
    rw [List.length_set]
    exact h.known j hj
  · intro j old hold hj
    have hne : id ≠ j := fun heq => hj (heq ▸ hid)
    rw [List.getElem?_set_ne hne] at hold
    exact h.idle j old hold hj
  · intro name j
    rw [hget, standing_set_gone hrun hgone]
    split
    · next hname =>
      -- Under its label no other run stands.
      refine ⟨fun hnone => (nomatch hnone), fun ⟨hj, hne, hstands⟩ => ?_⟩
      exact absurd (h.alone hj hid hstands ⟨run, hrun, hname.symm, hlisted⟩) hne
    · next hname =>
      rw [h.listed]
      refine ⟨fun ⟨hj, hstands⟩ => ⟨hj, fun heq => ?_, hstands⟩, fun ⟨hj, _, hstands⟩ => ⟨hj, hstands⟩⟩
      exact hname (hstands.labelled.eq (heq ▸ ⟨run, hrun, rfl⟩))
  · intro name j hj k hk hlabel
    rw [hget] at hj
    split at hj
    · cases hj
    · exact h.latest name j hj k hk ((labelled_set hrun hplan).1 hlabel)

theorem found (h : Books runs table roll) (hidle : run.stage = .idle) :
    Books (runs ++ [run]) table roll where
  known id hid := by
    have hlt := h.known id hid
    rw [List.length_append]
    exact Nat.lt_add_right _ hlt
  idle id old hold hid := by
    rw [List.getElem?_append] at hold
    split at hold
    · exact h.idle id old hold hid
    · rw [List.mem_singleton.1 (List.mem_of_getElem? hold)]
      exact hidle
  listed name id := by
    rw [h.listed]
    refine and_congr_right fun hid => ?_
    rw [standing_append (h.known id hid)]
  latest name id hget j hj hlabel :=
    h.latest name id hget j hj ((labelled_append (h.known j hj) _).1 hlabel)

/-- The run that is registered is the last, and its label was free. -/
theorem register (h : Books runs table roll) (hnew : id ∉ roll) (hstands : Standing runs id name)
    (hfree : table.get? name = none) : Books runs (table.set name id) (roll ++ [id]) := by
  have hget : ∀ other, (table.set name id).get? other =
      if other = name then some id else table.get? other := fun other => Table.get?_set
  have hmem : ∀ {j}, j ∈ roll ++ [id] ↔ j ∈ roll ∨ j = id := by
    intro j
    rw [List.mem_append, List.mem_singleton]
  refine ⟨?_, ?_, ?_, ?_⟩
  · intro j hj
    rcases hmem.1 hj with hj | rfl
    · exact h.known j hj
    · obtain ⟨run, hrun, -⟩ := hstands
      exact (List.getElem?_eq_some_iff.1 hrun).1
  · intro j old hold hj
    exact h.idle j old hold fun hin => hj (hmem.2 (Or.inl hin))
  · intro other j
    rw [hget, hmem]
    split
    · next hother =>
      subst hother
      refine ⟨fun heq => ?_, fun ⟨hj, hstands'⟩ => ?_⟩
      · rw [← Option.some.inj heq]
        exact ⟨Or.inr rfl, hstands⟩
      · rcases hj with hj | rfl
        · rw [(h.listed _ j).2 ⟨hj, hstands'⟩] at hfree
          cases hfree
        · rfl
    · next hother =>
      rw [h.listed]
      refine ⟨fun ⟨hj, hstands'⟩ => ⟨Or.inl hj, hstands'⟩, fun ⟨hj, hstands'⟩ => ?_⟩
      rcases hj with hj | rfl
      · exact ⟨hj, hstands'⟩
      · exact absurd (hstands'.labelled.eq hstands.labelled) hother
  · intro other k hk j hj hlabel
    -- The places of the others stay, and the new run comes behind them.
    have hold : ∀ j ∈ roll, (roll ++ [id]).idxOf j = roll.idxOf j :=
      fun j hj => List.idxOf_append_of_mem hj
    have hlast : (roll ++ [id]).idxOf id = roll.length := by
      rw [List.idxOf_append_of_notMem hnew, List.idxOf_cons_self, Nat.add_zero]
    rw [hget] at hk
    split at hk
    · cases hk
      rw [hlast]
      rcases hmem.1 hj with hj | rfl
      · rw [hold j hj]
        exact Nat.le_of_lt (List.idxOf_lt_length_of_mem hj)
      · exact Nat.le_of_eq hlast
    · next hother =>
      have hkroll : k ∈ roll := ((h.listed other k).1 hk).1
      rcases hmem.1 hj with hj | rfl
      · rw [hold j hj, hold k hkroll]
        exact h.latest other k hk j hj hlabel
      · exact absurd (hlabel.eq hstands.labelled) hother

end Books

end Command

/-! ## The run that a line comes from -/

namespace Command

open Workshop

variable {runs : List Run} {sinks sinks' : Sinks} {roll : List RunId}
variable {record : List (Option RunId × SinkEvent)} {new : List SinkEvent}
variable {id : RunId} {run run' : Run}

/-- How a run has ended, once its status line is written. -/
def Run.EndedAs (run : Run) (o : Outcome) : Prop :=
  match run.stage with
  | .settle o' => o' = o
  | .strike o' => o' = o ∧ run.outcome = some o
  | .announce o' => o' = o ∧ run.outcome = some o
  | .leave => run.outcome = some o
  | .gone => run.outcome = some o
  | _ => False

/-- The status line of a run that took some time. -/
def Run.statusLine (run : Run) (span : Stamp) (o : Outcome) : Line :=
  Sinks.lineOf .status none (Command.statusLine run.plan.label run.plan.steps span o)

/-- The last line of a run is its status line. -/
def Concluded (record : List (Option RunId × SinkEvent)) (id : RunId) (run : Run) (o : Outcome) :
    Prop :=
  ∃ span, ((linesIn record run.plan.label).filter (·.1 == id)).getLast? =
    some (id, run.statusLine span o)

/-- What the record tells about the sinks. -/
structure Written (runs : List Run) (sinks : Sinks) (roll : List RunId)
    (record : List (Option RunId × SinkEvent)) : Prop where
  /-- A sink shows the last of the lines that were added to it. -/
  shown : ∀ name, sinks.shown name <:+ (linesIn record name).map Prod.snd
  /-- They come from registered runs with its name. -/
  authors : ∀ name, ∀ e ∈ linesIn record name, e.1 ∈ roll ∧ Labelled runs e.1 name
  /-- The lines of a run come before those of the runs registered after it. -/
  order : ∀ name, (linesIn record name).Pairwise fun e e' => roll.idxOf e.1 ≤ roll.idxOf e'.1
  /-- A run that has ended has written its status line. -/
  closed : ∀ id run, runs[id]? = some run → run.stage.isReported →
    ∃ o, run.EndedAs o ∧ Concluded record id run o

/-! ## The lines of a change -/

theorem linesIn_append (record more : List (Option RunId × SinkEvent)) (name : String) :
    linesIn (record ++ more) name = linesIn record name ++ linesIn more name :=
  List.filterMap_append

/-- What a caller changes is no line. -/
theorem linesIn_none (new : List SinkEvent) (name : String) :
    linesIn (new.map (none, ·)) name = [] := by
  rw [linesIn, List.filterMap_map]
  exact List.filterMap_eq_nil_iff.2 fun _ _ => rfl

theorem linesIn_some (id : RunId) (new : List SinkEvent) (name : String) :
    linesIn (new.map (some id, ·)) name =
      (new.filterMap (SinkEvent.lineIn? name)).map (id, ·) := by
  rw [linesIn, List.filterMap_map, List.map_filterMap]
  rfl

/-- What is added to one sink is not added to another. -/
theorem filterMap_lineIn?_of_ne {name other : String}
    (hown : ∀ e ∈ new, ∃ l, e = .line name l) (hne : other ≠ name) :
    new.filterMap (SinkEvent.lineIn? other) = [] := by
  refine List.filterMap_eq_nil_iff.2 fun e he => ?_
  obtain ⟨l, rfl⟩ := hown e he
  exact if_neg (Ne.symm hne)

/-- The lines of a run among those of a change that comes from a run. -/
theorem filter_linesIn_some (id j : RunId) (new : List SinkEvent) (name : String) :
    (linesIn (new.map (some id, ·)) name).filter (·.1 == j) =
      if id = j then linesIn (new.map (some id, ·)) name else [] := by
  rw [linesIn_some]
  split
  · next h =>
    refine List.filter_eq_self.2 fun e he => ?_
    obtain ⟨l, -, rfl⟩ := List.mem_map.1 he
    exact beq_iff_eq.2 h
  · next h =>
    refine List.filter_eq_nil_iff.2 fun e he => ?_
    obtain ⟨l, -, rfl⟩ := List.mem_map.1 he
    exact fun hj => h (beq_iff_eq.1 hj)

/-! ## What keeps the record -/

/-- **A run that goes on keeps the record**, if it writes only while it is the
last of its label, and ends with its status line. -/
theorem Written.goes (h : Written runs sinks roll record) (hrun : runs[id]? = some run)
    (hplan : run'.plan = run.plan) (hadds : Sinks.Adds run.plan.label sinks sinks' new)
    (hlast : new ≠ [] → id ∈ roll ∧
      ∀ j ∈ roll, Labelled runs j run.plan.label → roll.idxOf j ≤ roll.idxOf id)
    (hend : run'.stage.isReported →
      (new = [] ∧ run.stage.isReported ∧ ∀ o, run.EndedAs o → run'.EndedAs o) ∨
      ∃ o span, run'.EndedAs o ∧ new = [.line run.plan.label (run.statusLine span o)]) :
    Written (runs.set id run') sinks' roll (record ++ new.map (some id, ·)) := by
  have hnew : ∀ name, ∀ e ∈ linesIn (new.map (some id, ·)) name,
      e.1 = id ∧ name = run.plan.label ∧ new ≠ [] := by
    intro name e he
    rw [linesIn_some] at he
    obtain ⟨l, hl, rfl⟩ := List.mem_map.1 he
    obtain ⟨event, hevent, -⟩ := List.mem_filterMap.1 hl
    refine ⟨rfl, Classical.byContradiction fun hne => ?_, List.ne_nil_of_mem hevent⟩
    rw [filterMap_lineIn?_of_ne hadds.own hne] at hl
    cases hl
  refine ⟨fun name => ?_, fun name e he => ?_, fun name => ?_, fun j old hold hreported => ?_⟩
  · -- The lines that are new in the sink are those that are new in the record.
    have hgrown := hadds.lines name _ (h.shown name)
    have hlines : (linesIn (new.map (some id, ·)) name).map Prod.snd =
        new.filterMap (SinkEvent.lineIn? name) := by
      rw [linesIn_some, List.map_map]
      exact List.map_id _
    rwa [linesIn_append, List.map_append, hlines]
  · rw [linesIn_append] at he
    rw [labelled_set hrun hplan]
    rcases List.mem_append.1 he with he | he
    · exact h.authors name e he
    · obtain ⟨hid, rfl, hsome⟩ := hnew name e he
      rw [hid]
      exact ⟨(hlast hsome).1, run, hrun, rfl⟩
  · rw [linesIn_append]
    refine List.pairwise_append.2 ⟨h.order name, ?_, fun e he e' he' => ?_⟩
    · refine List.pairwise_of_forall_mem_list fun e he e' he' => ?_
      have hsame : e.1 = e'.1 := (hnew name e he).1.trans (hnew name e' he').1.symm
      exact Nat.le_of_eq (congrArg roll.idxOf hsame)
    · -- Whoever wrote before was registered before, or is the same run.
      obtain ⟨hroll, hlabel⟩ := h.authors name e he
      obtain ⟨hid, rfl, hsome⟩ := hnew name e' he'
      rw [hid]
      exact (hlast hsome).2 e.1 hroll hlabel
  · have hfilter : ∀ name, (linesIn (record ++ new.map (some id, ·)) name).filter (·.1 == j) =
        (linesIn record name).filter (·.1 == j) ++
          if id = j then linesIn (new.map (some id, ·)) name else [] := by
      intro name
      rw [linesIn_append, List.filter_append, filter_linesIn_some]
    rw [List.getElem?_set] at hold
    split at hold
    · next heq =>
      subst heq
      rw [if_pos (List.getElem?_eq_some_iff.1 hrun).1] at hold
      cases hold
      have hstatus : run'.statusLine = run.statusLine := by
        unfold Run.statusLine
        rw [hplan]
      unfold Concluded
      rw [hplan, hstatus]
      rcases hend hreported with ⟨rfl, hbefore, hends⟩ | ⟨o, span, hended, rfl⟩
      · obtain ⟨o, ho, hline⟩ := h.closed id run hrun hbefore
        rw [List.map_nil, List.append_nil]
        exact ⟨o, hends o ho, hline⟩
      · refine ⟨o, hended, span, ?_⟩
        have hown : SinkEvent.lineIn? run.plan.label
            (.line run.plan.label (run.statusLine span o)) = some (run.statusLine span o) :=
          if_pos rfl
        rw [hfilter, if_pos rfl, linesIn_some, List.filterMap_cons_some hown]
        exact List.getLast?_concat
    · next hne =>
      obtain ⟨o, ho, span, hline⟩ := h.closed j old hold hreported
      refine ⟨o, ho, span, ?_⟩
      rw [hfilter, if_neg hne, List.append_nil]
      exact hline

/-- Taking lines out of a sink keeps the record. -/
theorem Written.clear {name : String} (h : Written runs sinks roll record)
    (hgrows : Sinks.Grows sinks sinks' new) (hnew : ∀ e ∈ new, e = .cleared name) :
    Written runs sinks' roll (record ++ new.map (none, ·)) := by
  have hsame : ∀ other, linesIn (record ++ new.map (none, ·)) other = linesIn record other := by
    intro other
    rw [linesIn_append, linesIn_none, List.append_nil]
  have hnone : ∀ other, new.filterMap (SinkEvent.lineIn? other) = [] := by
    refine fun other => List.filterMap_eq_nil_iff.2 fun e he => ?_
    rw [hnew e he]
    rfl
  refine ⟨fun other => ?_, fun other => ?_, fun other => ?_, fun id run hrun hreported => ?_⟩
  · have hshown := hgrows.lines other _ (h.shown other)
    rwa [hnone, List.append_nil, ← hsame] at hshown
  · rw [hsame]
    exact h.authors other
  · rw [hsame]
    exact h.order other
  · obtain ⟨o, ho, span, hline⟩ := h.closed id run hrun hreported
    refine ⟨o, ho, span, ?_⟩
    rw [hsame]
    exact hline

/-- A run that is set up has written nothing. -/
theorem Written.found (h : Written runs sinks roll record) (hknown : ∀ id ∈ roll, id < runs.length)
    (hidle : run.stage = .idle) : Written (runs ++ [run]) sinks roll record := by
  refine ⟨h.shown, fun name e he => ?_, h.order, fun id old hold hreported => ?_⟩
  · obtain ⟨hroll, hlabel⟩ := h.authors name e he
    exact ⟨hroll, (labelled_append (hknown _ hroll) _).2 hlabel⟩
  · rw [List.getElem?_append] at hold
    split at hold
    · exact h.closed id old hold hreported
    · rw [List.mem_singleton.1 (List.mem_of_getElem? hold), hidle] at hreported
      cases hreported

/-- Nothing changes about the runs that were registered before. -/
theorem Written.register (h : Written runs sinks roll record) (id : RunId) :
    Written runs sinks (roll ++ [id]) record := by
  have hold : ∀ name, ∀ e ∈ linesIn record name, (roll ++ [id]).idxOf e.1 = roll.idxOf e.1 :=
    fun name e he => List.idxOf_append_of_mem (h.authors name e he).1
  refine ⟨h.shown, fun name e he => ?_, fun name => ?_, h.closed⟩
  · obtain ⟨hroll, hlabel⟩ := h.authors name e he
    exact ⟨List.mem_append_left _ hroll, hlabel⟩
  · refine (h.order name).imp_of_mem fun he he' hle => ?_
    rwa [hold name _ he, hold name _ he']

end Command
end CodeDesk
