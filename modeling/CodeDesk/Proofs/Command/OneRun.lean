import CodeDesk.Proofs.Command.Calls
/-!
# One run — at most one run of a label at any time

Callers dispatch and kill, workers work and processes print, in any order.
At every moment of every history of a workshop at most one run of a label is
at work, a run leaves the running table only when its processes have ended
and were waited for and its status line is written, and in a sink all lines
of a run come before those of the next one (`exclusive_run`).

It follows from what every move keeps (`Sane.after`): the runner is
consistent, and every call can rely on what its steps need. No step spoils
this for anybody else, since what a call relies on stays so.
-/

namespace CodeDesk
namespace Command
namespace Workshop

open Runner

variable {M : Machine} {s : Workshop} {es : List Errand} {id : RunId} {run : Run}

/-- At every moment the runner is consistent and the calls can go on. -/
structure Sane (s : Workshop) : Prop where
  consistent : Consistent s.runner s.roll s.record
  calls : Calls s.runner s.roll s.callers

/-- A run was registered, and it is not at its end or has a process that has
not ended. -/
structure AtWork (s : Workshop) (id : RunId) (run : Run) : Prop where
  registered : id ∈ s.roll
  there : s.runner.runs[id]? = some run
  works : run.stage.isWorking ∨ ∃ p ∈ run.processes, p.isAlive

/-- The runs of a label take place one after the other. -/
structure Exclusive (M : Machine) (s : Workshop) : Prop where
  /-- At most one run of a label is at work. -/
  alone : ∀ (id id' : RunId) (run run' : Run), s.AtWork id run → s.AtWork id' run' →
    run.plan.label = run'.plan.label → id = id'
  /-- The running table has it. -/
  listed : ∀ (id : RunId) (run : Run), s.AtWork id run →
    s.runner.table.get? run.plan.label = some id
  /-- A run that leaves the running table, whatever the move, has ended with
  all its processes, which were waited for, and its last line is the status
  line. -/
  struck : ∀ (m : Move) (name : String) (id : RunId), s.runner.table.get? name = some id →
    (s.after M m).runner.table.get? name ≠ some id →
    ∃ run o, s.runner.runs[id]? = some run ∧ run.plan.label = name ∧ run.outcome = some o ∧
      (∀ p ∈ run.processes, p.Finished) ∧ Concluded s.record id run o
  /-- A sink shows the last of the lines that were added to it. -/
  shown : ∀ name, s.runner.sinks.shown name <:+ (linesIn s.record name).map Prod.snd
  /-- Each of them comes from a registered run of that name. -/
  authors : ∀ name, ∀ e ∈ linesIn s.record name,
    e.1 ∈ s.roll ∧ Labelled s.runner.runs e.1 name
  /-- All lines of a run come before those of a run that was registered
  later. -/
  order : ∀ name, (linesIn s.record name).Pairwise fun e e' =>
    s.roll.idxOf e.1 ≤ s.roll.idxOf e'.1

/-! ## What every move keeps -/

/-- Noting a change that is announced as it should be. -/
theorem note_eq {who : Option RunId} {r : Runner} {new : List SinkEvent}
    (h : r.sinks.events = s.runner.sinks.events ++ new) :
    s.note who r = { s with runner := r, record := s.record ++ new.map (who, ·) } := by
  rw [note, h, List.drop_left]

theorem Sane.ofDisk (d : Disk) (env : Table String String) : (Workshop.ofDisk d env).Sane :=
  ⟨.ofDisk d env, .nil, fun _ h => absurd h List.not_mem_nil⟩

theorem Sane.call (h : s.Sane) (horderly : Orderly (Holds s.runner s.roll) es)
    (hes : ∀ e ∈ es, e.isStart = false) : (s.call es).Sane :=
  ⟨h.consistent, h.calls.call horderly hes⟩

/-- A run goes on, and no other changes. -/
theorem Sane.note {r : Runner} {run' : Run} {new : List SinkEvent} (h : s.Sane)
    (hevents : r.sinks.events = s.runner.sinks.events ++ new)
    (hconsistent : Consistent r s.roll (s.record ++ new.map (some id, ·)))
    (honward : Onward s.runner r) (hrun : s.runner.runs[id]? = some run)
    (hruns : r.runs = s.runner.runs.set id run') (hidle : run.stage = .idle → run'.stage = .idle) :
    (s.note (some id) r).Sane := by
  rw [note_eq hevents]
  refine ⟨hconsistent, h.calls.onward honward fun j old hold hstage => ?_⟩
  rw [hruns, List.getElem?_set]
  split
  · next heq =>
    subst heq
    rw [hrun] at hold
    cases hold
    rw [if_pos (List.getElem?_eq_some_iff.1 hrun).1]
    exact ⟨run', rfl, hidle hstage⟩
  · exact ⟨old, hold, hstage⟩

/-- The worker of a run takes its next step. -/
theorem Sane.work (h : s.Sane) (M : Machine) (id : RunId) : (s.after M (.work id)).Sane := by
  rw [Workshop.after]
  cases hwork : s.runner.work? M id with
  | none => exact h
  | some r =>
    obtain ⟨run, hrun, hlabour⟩ := labour_of_work? hwork
    obtain ⟨new, hevents, hconsistent⟩ := h.consistent.labour hrun hlabour
    have hhoused := h.consistent.housed run (List.mem_of_getElem? hrun)
    have hruns : ∃ run', r.runs = s.runner.runs.set id run' := by
      cases hlabour <;> exact ⟨_, rfl⟩
    obtain ⟨run', hruns⟩ := hruns
    exact h.note hevents hconsistent (hlabour.onward hrun hhoused) hrun hruns fun hidle =>
      absurd hidle hlabour.underway.1

/-- Something happens to a process. -/
theorem Sane.happen (h : s.Sane) (M : Machine) (id : RunId) (i : Nat) (happening : Happening) :
    (s.after M (.happen id i happening)).Sane := by
  rw [Workshop.after]
  cases hp : (s.runner.runs[id]?).bind (·.processes[i]?) with
  | none => exact h
  | some p =>
    dsimp only
    split
    · next hpossible =>
      obtain ⟨run, hrun, hprocess⟩ := Option.bind_eq_some_iff.1 hp
      obtain ⟨new, hpasses, hquiet⟩ := passes_happen hrun i happening
      have hprints : new ≠ [] → run.stage.isBusy := by
        intro hsome
        -- It is a process that prints, so its output is open.
        have hprint : ∃ c bytes, happening = .does (.print c bytes) := by
          refine Classical.byContradiction fun hnone => hsome (hquiet fun c bytes heq => ?_)
          exact hnone ⟨c, bytes, heq⟩
        obtain ⟨c, bytes, rfl⟩ := hprint
        have hopen : p.closed = false := Bool.not_eq_true' _ ▸ hpossible
        exact h.consistent.isBusy_of_open hrun hprocess hopen
      have hconsistent := h.consistent.passes hrun hpasses hprints
      have honward := hpasses.onward hrun
      generalize s.runner.happen id i happening = r at hpasses hconsistent honward ⊢
      cases hpasses with
      | intro run' sinks disk ht hadds =>
        exact h.note hadds.events hconsistent honward hrun rfl fun hidle => ht.stage.trans hidle
    · exact h

/-- A caller takes its next step. -/
theorem Sane.attend (h : s.Sane) (M : Machine) (k : Nat) : (s.after M (.attend k)).Sane := by
  rw [Workshop.after]
  cases hk : s.callers[k]? with
  | none => exact h
  | some es =>
    dsimp only
    cases ha : s.runner.attend? es with
    | none => exact h
    | some next =>
      obtain ⟨r, es'⟩ := next
      have hmem : es ∈ s.callers := List.mem_of_getElem? hk
      obtain ⟨new, hevents, hconsistent⟩ := h.consistent.attends (h.calls.orderly es hmem)
        (fun id run hid hrun => h.calls.launch_idle hmem hid hrun)
        (h.calls.starts.register es hmem) (attends_of_attend? ha)
      dsimp only
      rw [note_eq hevents]
      exact ⟨hconsistent, h.calls.attend h.consistent.books hk ha⟩

/-- **Every move keeps the workshop sane.** -/
theorem Sane.after (h : s.Sane) (M : Machine) (m : Move) : (s.after M m).Sane := by
  have hnone : ∀ {K : Fact → Prop}, ∀ f ∈ ([] : List Fact), K f :=
    fun f hf => absurd hf List.not_mem_nil
  cases m with
  | dispatch p =>
    refine h.call ⟨hnone, trivial, hnone, trivial, fun f hf => Or.inr hf, rfl, trivial⟩ ?_
    intro e he
    simp only [starting, List.mem_cons, List.not_mem_nil, or_false] at he
    rcases he with rfl | rfl | rfl <;> rfl
  | kill name =>
    refine h.call ⟨hnone, trivial, trivial⟩ fun e he => ?_
    rw [List.mem_singleton.1 he]
    rfl
  | killAll =>
    refine h.call (orderly_evict _) fun e he => ?_
    obtain ⟨name, -, rfl⟩ := List.mem_map.1 he
    rfl
  | killRun id =>
    rw [Workshop.after]
    split
    · next hlt =>
      have hknown : ∀ f ∈ [Fact.known id], Holds s.runner s.roll f := by
        intro f hf
        rw [List.mem_singleton.1 hf]
        exact hlt
      refine h.call ⟨hknown, trivial, fun f hf => Or.inl (hknown f hf), trivial, trivial⟩ ?_
      intro e he
      simp only [killing, List.mem_cons, List.not_mem_nil, or_false] at he
      rcases he with rfl | rfl <;> rfl
    · exact h
  | attend k => exact h.attend M k
  | work id => exact h.work M id
  | happen id i happening => exact h.happen M id i happening
  | pass d =>
    rw [Workshop.after]
    split
    · exact ⟨⟨h.consistent.sound, h.consistent.housed, h.consistent.books, h.consistent.written⟩,
        h.calls.onward ⟨(Onward.refl _).runs, (Onward.refl _).sinks⟩
          fun _ run hrun hidle => ⟨run, hrun, hidle⟩⟩
    · exact h

theorem Sane.moves (h : s.Sane) (M : Machine) (ms : List Move) : (s.run M ms).Sane := by
  induction ms generalizing s with
  | nil => exact h
  | cons m ms ih => exact ih (h.after M m)

/-! ## One run at a time -/

/-- A run that is at work stands in the running table. -/
theorem Sane.standing (h : s.Sane) (hwork : s.AtWork id run) :
    Standing s.runner.runs id run.plan.label := by
  refine ⟨run, hwork.there, rfl, ?_⟩
  have hsound := h.consistent.sound run (List.mem_of_getElem? hwork.there)
  have hworking : run.stage.isWorking := by
    rcases hwork.works with hworking | ⟨p, hp, halive⟩
    · exact hworking
    · refine Classical.byContradiction fun hthrough => ?_
      have hfinished := hsound.finished (Bool.eq_false_iff.2 hthrough) p hp
      rw [hfinished.not_isAlive] at halive
      cases halive
  exact Stage.isListed_of_isWorking hworking

/-- A worker takes at most its own run out of the running table, and only at
one stage. -/
theorem strikes_of_labour {r r' : Runner} {j : RunId} {name : String} (h : Labour r id run r')
    (hlisted : r.table.get? name = some j) (hgone : r'.table.get? name ≠ some j) :
    j = id ∧ run.plan.label = name ∧ ∃ o, run.stage = .strike o := by
  cases h with
  | strikes o hs =>
    dsimp only at hgone
    by_cases hown : r.table.get? run.plan.label = some id
    · rw [strike, if_pos hown, Table.get?_erase] at hgone
      by_cases hname : name = run.plan.label
      · rw [hname, hown] at hlisted
        exact ⟨(Option.some.inj hlisted).symm, hname.symm, o, hs⟩
      · rw [if_neg hname] at hgone
        exact absurd hlisted hgone
    · rw [strike, if_neg hown] at hgone
      exact absurd hlisted hgone
  | proceeds | reports | settles | announces => exact absurd hlisted hgone
  | leaves => exact absurd hlisted hgone

/-- A caller takes no run out of the running table: it strikes off only what
is over. -/
theorem Sane.get?_of_attends {r : Runner} {es' : List Errand} {new : List RunId} {name : String}
    (h : s.Sane) (hmem : es ∈ s.callers) (ha : Attends s.runner es r es' new)
    (hlisted : s.runner.table.get? name = some id) : r.table.get? name = some id := by
  cases ha with
  | strikes other j =>
    obtain ⟨run, hrun, hover⟩ := (h.calls.orderly _ hmem).1 (.ended j) (List.mem_singleton_self _)
    have hsame : s.runner.strike other j = s.runner :=
      if_neg (h.consistent.books.get?_ne_of_isOver hrun hover)
    rw [hsame]
    exact hlisted
  | registers other j _ hfree =>
    have hother : name ≠ other := by
      rintro rfl
      rw [hfree] at hlisted
      cases hlisted
    dsimp only
    rw [Table.get?_set, if_neg hother]
    exact hlisted
  | looks | prepares | founds => exact hlisted
  | touches | launches => exact hlisted

/-- **Only the worker of a run takes it out of the running table**, and it is
through with it then. -/
theorem Sane.strikes (h : s.Sane) {m : Move} {name : String}
    (hlisted : s.runner.table.get? name = some id)
    (hgone : (s.after M m).runner.table.get? name ≠ some id) :
    ∃ run o, s.runner.runs[id]? = some run ∧ run.plan.label = name ∧ run.stage = .strike o := by
  cases m with
  | dispatch | kill | killAll => exact absurd hlisted hgone
  | killRun j =>
    rw [Workshop.after] at hgone
    split at hgone <;> exact absurd hlisted hgone
  | attend k =>
    refine absurd ?_ hgone
    rw [Workshop.after]
    split
    · exact hlisted
    · next es hk =>
      split
      · exact hlisted
      · next r es' ha =>
        exact h.get?_of_attends (List.mem_of_getElem? hk) (attends_of_attend? ha) hlisted
  | work j =>
    rw [Workshop.after] at hgone
    split at hgone
    · exact absurd hlisted hgone
    · next r hwork =>
      obtain ⟨run, hrun, hlabour⟩ := labour_of_work? hwork
      obtain ⟨rfl, hlabel, o, hstage⟩ := strikes_of_labour hlabour hlisted hgone
      exact ⟨run, o, hrun, hlabel, hstage⟩
  | happen j i happening =>
    refine absurd ?_ hgone
    rw [Workshop.after]
    split
    · exact hlisted
    · next p hp =>
      split
      · obtain ⟨run, hrun, -⟩ := Option.bind_eq_some_iff.1 hp
        obtain ⟨new, hpasses, -⟩ := passes_happen hrun i happening
        generalize s.runner.happen j i happening = r at hpasses ⊢
        cases hpasses
        exact hlisted
      · exact hlisted
  | pass d =>
    rw [Workshop.after] at hgone
    split at hgone <;> exact absurd hlisted hgone

theorem Sane.exclusive (h : s.Sane) (M : Machine) : s.Exclusive M where
  alone id id' run run' hwork hwork' hlabel :=
    h.consistent.books.alone hwork.registered hwork'.registered (h.standing hwork)
      (hlabel ▸ h.standing hwork')
  listed id run hwork :=
    (h.consistent.books.listed _ id).2 ⟨hwork.registered, h.standing hwork⟩
  struck m name id hlisted hgone := by
    obtain ⟨run, o, hrun, hlabel, hstage⟩ := h.strikes hlisted hgone
    have hsound := h.consistent.sound run (List.mem_of_getElem? hrun)
    obtain ⟨o', hended, hline⟩ := h.consistent.written.closed id run hrun (by rw [hstage]; rfl)
    have houtcome : run.outcome = some o' := by
      rw [Run.EndedAs, hstage] at hended
      exact hended.2
    exact ⟨run, o', hrun, hlabel, houtcome, hsound.finished (by rw [hstage]; rfl), hline⟩
  shown := h.consistent.written.shown
  authors := h.consistent.written.authors
  order := h.consistent.written.order

/-- **The runs of a label take place one after the other, whatever the order
of the steps.** At every moment of every history at most one run of a label
is between its registration and the end of its last process, a run is taken
out of the running table only when its processes were waited for and its
status line is written, and a sink shows the lines of its runs one run after
the other. -/
theorem exclusive_run (M : Machine) (d : Disk) (env : Table String String) (ms : List Move) :
    ((ofDisk d env).run M ms).Exclusive M :=
  ((Sane.ofDisk d env).moves M ms).exclusive M

/-- Two callers dispatch the same command at once and take turns. The second
one finds its label taken, kills the first run and waits for its end. -/
example :
    let p : Plan := ⟨"make", [], default, true, false, .plain, true⟩
    let begun : List Move := .dispatch p :: .dispatch p ::
      (List.replicate 4 [.attend 0, .attend 1]).flatten
    let killed : List Move := .attend 0 :: .work 0 :: List.replicate 3 (.attend 1)
    let ended : List Move := List.replicate 5 (.work 0)
    let again : List Move := List.replicate 4 (.attend 1) ++ List.replicate 6 (.work 1)
    let s := (ofDisk default Table.empty).run ⟨fun _ _ => .error default⟩
      (begun ++ killed ++ ended ++ again)
    s.roll = [0, 1] ∧ (linesIn s.record "make").map (·.1) = [0, 1] ∧ s.callers = [[], []] := by
  decide +kernel

end Workshop
end Command
end CodeDesk
