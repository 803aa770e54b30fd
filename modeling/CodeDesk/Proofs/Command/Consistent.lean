import CodeDesk.Proofs.Command.Errands
import CodeDesk.Proofs.Command.Record
/-!
# Consistent — what every step leaves of a runner

A runner is `Consistent` with the order of registration and with the record
when its table and its sinks agree with them, every run has its sink, and
every stage says what it should about the processes. What a worker does
keeps this (`Consistent.labour`), and so does what happens to a process that
can happen (`Consistent.passes`) and what a caller does when it can rely on
what it needs (`Consistent.attends`).

Almost all of these let one run go on under the same label while it stays
where it was in the table, so they are cases of `Consistent.goes`.
-/

namespace CodeDesk
namespace Command

open Workshop Runner

variable {r r' : Runner} {roll : List RunId} {record : List (Option RunId × SinkEvent)}
variable {id : RunId} {run run' : Run} {new : List SinkEvent}

/-- A runner agrees with the order of registration and with the record. -/
structure Consistent (r : Runner) (roll : List RunId) (record : List (Option RunId × SinkEvent)) :
    Prop where
  /-- The stages say what they should about the processes. -/
  sound : ∀ run ∈ r.runs, run.Sound
  /-- Every run has its sink. -/
  housed : ∀ run ∈ r.runs, (r.sinks.get? run.plan.label).isSome
  /-- The table has the runs that were registered and not struck off. -/
  books : Books r.runs r.table roll
  /-- The sinks show what the record says. -/
  written : Written r.runs r.sinks roll record

namespace Consistent

theorem ofDisk (d : Disk) (env : Table String String) :
    Consistent (Workshop.ofDisk d env).runner [] [] where
  sound _ hmem := absurd hmem List.not_mem_nil
  housed _ hmem := absurd hmem List.not_mem_nil
  books := .nil
  written := ⟨fun _ => List.nil_suffix, fun _ _ he => absurd he List.not_mem_nil,
    fun _ => .nil, fun _ _ hrun => nomatch hrun⟩

/-- A run that may write is the last of its label that was registered. -/
theorem last (h : Consistent r roll record) (hrun : r.runs[id]? = some run)
    (hbegun : run.stage ≠ .idle) (hlisted : run.stage.isListed) :
    id ∈ roll ∧ ∀ j ∈ roll, Labelled r.runs j run.plan.label → roll.idxOf j ≤ roll.idxOf id := by
  have hroll := h.books.mem_of_ne_idle hrun hbegun
  have hget := (h.books.listed _ id).2 ⟨hroll, run, hrun, rfl, hlisted⟩
  exact ⟨hroll, h.books.latest _ id hget⟩

/-- **A run goes on under its label**, and its place in the table is what it
was. -/
theorem goes (h : Consistent r roll record) (hrun : r.runs[id]? = some run)
    (hruns : r'.runs = r.runs.set id run') (htable : r'.table = r.table)
    (hadds : Sinks.Adds run.plan.label r.sinks r'.sinks new) (hplan : run'.plan = run.plan)
    (hsound : run'.Sound) (hlisted : run'.stage.isListed = run.stage.isListed)
    (hidle : id ∉ roll → run'.stage = .idle)
    (hwrites : new ≠ [] → run.stage ≠ .idle ∧ run.stage.isListed)
    (hend : run'.stage.isReported →
      (new = [] ∧ run.stage.isReported ∧ ∀ o, run.EndedAs o → run'.EndedAs o) ∨
      ∃ o span, run'.EndedAs o ∧ new = [.line run.plan.label (run.statusLine span o)]) :
    Consistent r' roll (record ++ new.map (some id, ·)) := by
  have hlast : new ≠ [] → id ∈ roll ∧
      ∀ j ∈ roll, Labelled r.runs j run.plan.label → roll.idxOf j ≤ roll.idxOf id := by
    intro hsome
    obtain ⟨hbegun, hstands⟩ := hwrites hsome
    exact h.last hrun hbegun hstands
  have hmem := List.mem_of_getElem? hrun
  refine ⟨fun old hold => ?_, fun old hold => ?_, ?_, ?_⟩
  · rw [hruns] at hold
    rcases List.mem_or_eq_of_mem_set hold with hold | rfl
    · exact h.sound old hold
    · exact hsound
  · rw [hruns] at hold
    rcases List.mem_or_eq_of_mem_set hold with hold | rfl
    · exact hadds.keeps _ (h.housed old hold)
    · rw [hplan]
      exact hadds.keeps _ (h.housed run hmem)
  · rw [hruns, htable]
    exact h.books.goes hrun hplan hlisted hidle
  · rw [hruns]
    exact h.written.goes hrun hplan hadds hlast hend

/-- A run goes on and writes nothing. -/
theorem goes_quiet (h : Consistent r roll record) (hrun : r.runs[id]? = some run)
    (hruns : r'.runs = r.runs.set id run') (htable : r'.table = r.table)
    (hsinks : r'.sinks = r.sinks) (hplan : run'.plan = run.plan)
    (hsound : run'.Sound) (hlisted : run'.stage.isListed = run.stage.isListed)
    (hidle : id ∉ roll → run'.stage = .idle)
    (hend : run'.stage.isReported →
      run.stage.isReported ∧ ∀ o, run.EndedAs o → run'.EndedAs o) :
    Consistent r' roll record := by
  have hadds : Sinks.Adds run.plan.label r.sinks r'.sinks [] := hsinks ▸ .refl _ _
  have hgoes := h.goes hrun hruns htable hadds hplan hsound hlisted hidle
    (fun hne => absurd rfl hne) fun hreported => Or.inl ⟨rfl, hend hreported⟩
  rwa [List.map_nil, List.append_nil] at hgoes

/-! ## What happens to a run -/

/-- What happens to a run keeps the runner consistent, if only a run whose
programs are at work prints. -/
theorem passes (h : Consistent r roll record) (hrun : r.runs[id]? = some run)
    (hpasses : Passes r id run new r') (hprints : new ≠ [] → run.stage.isBusy) :
    Consistent r' roll (record ++ new.map (some id, ·)) := by
  cases hpasses with
  | intro run' sinks disk ht hadds =>
    refine h.goes hrun rfl rfl hadds ht.plan ((h.sound run (List.mem_of_getElem? hrun)).touched ht)
      (congrArg Stage.isListed ht.stage) (fun hnot => ?_) (fun hsome => ?_) (fun hreported => ?_)
    · rw [ht.stage]
      exact h.books.idle id run hrun hnot
    · have hbusy := hprints hsome
      refine ⟨fun hidle => ?_, Stage.isListed_of_isBusy hbusy⟩
      rw [hidle] at hbusy
      cases hbusy
    · rw [ht.stage] at hreported
      have hnone : new = [] := by
        refine Classical.byContradiction fun hsome => ?_
        rw [Stage.not_isReported_of_isBusy (hprints hsome)] at hreported
        cases hreported
      refine Or.inl ⟨hnone, hreported, fun o => ?_⟩
      rw [Run.EndedAs, Run.EndedAs, ht.stage, ht.outcome]
      exact fun ho => ho

/-- Only a run whose programs are at work has a process that can print. -/
theorem isBusy_of_open (h : Consistent r roll record) (hrun : r.runs[id]? = some run) {i : Nat}
    {p : LiveProcess} (hp : run.processes[i]? = some p) (hopen : p.closed = false) :
    run.stage.isBusy := by
  have hsound := h.sound run (List.mem_of_getElem? hrun)
  have hmem : p ∈ run.processes := List.mem_of_getElem? hp
  refine Classical.byContradiction fun hbusy => ?_
  by_cases hidle : run.stage = .idle
  · have hnone : run.processes.length = 0 := hsound.at hidle
    rw [List.length_eq_zero_iff.1 hnone] at hmem
    cases hmem
  · have hthrough : run.stage.isWorking = false :=
      Bool.or_eq_false_iff.2 ⟨beq_eq_false_iff_ne.2 hidle, Bool.eq_false_iff.2 hbusy⟩
    rw [(hsound.finished hthrough p hmem).closed] at hopen
    cases hopen

/-! ## Workers -/

/-- A run that is at its end goes on. -/
theorem ends (h : Consistent r roll record) (hrun : r.runs[id]? = some run)
    (hruns : r'.runs = r.runs.set id run') (htable : r'.table = r.table)
    (hsinks : r'.sinks = r.sinks) (hplan : run'.plan = run.plan)
    (hsame : run'.processes = run.processes) (hreported : run.stage.isReported)
    (hreported' : run'.stage.isReported) (hlisted : run'.stage.isListed = run.stage.isListed)
    (hend : ∀ o, run.EndedAs o → run'.EndedAs o) : Consistent r' roll record := by
  have hthrough := Stage.not_isWorking_of_isReported hreported
  have hsound := (h.sound run (List.mem_of_getElem? hrun)).ending hthrough hsame
    (Stage.not_isWorking_of_isReported hreported')
  have hroll := h.books.mem_of_ne_idle hrun (Stage.ne_idle_of_not_isWorking hthrough)
  exact h.goes_quiet hrun hruns htable hsinks hplan hsound hlisted (fun hnot => absurd hroll hnot)
    fun _ => ⟨hreported, hend⟩

/-- A worker strikes its run off. -/
theorem strikes (h : Consistent r roll record) (hrun : r.runs[id]? = some run) {o : Outcome}
    (hs : run.stage = .strike o) :
    Consistent { r.strike run.plan.label id with runs := r.runs.set id (run.goTo (.announce o)) }
      roll record := by
  have hmem := List.mem_of_getElem? hrun
  have hthrough : run.stage.isWorking = false := by rw [hs]; rfl
  have hroll := h.books.mem_of_ne_idle hrun (Stage.ne_idle_of_not_isWorking hthrough)
  obtain ⟨hown, hbooks⟩ : r.table.get? run.plan.label = some id ∧
      Books (r.runs.set id (run.goTo (.announce o))) (r.table.erase run.plan.label) roll :=
    h.books.strike hrun hroll rfl (by rw [hs]; rfl) rfl
  have hended : ∀ o', run.EndedAs o' → (run.goTo (.announce o)).EndedAs o' := by
    intro o' ho
    rw [Run.EndedAs, hs] at ho
    exact ho
  have hwritten : Written (r.runs.set id (run.goTo (.announce o))) r.sinks roll
      (record ++ ([] : List SinkEvent).map (some id, ·)) :=
    h.written.goes hrun rfl (.refl _ _) (fun hne => absurd rfl hne)
      fun _ => Or.inl ⟨rfl, by rw [hs]; rfl, hended⟩
  rw [List.map_nil, List.append_nil] at hwritten
  have hstruck : r.strike run.plan.label id = { r with table := r.table.erase run.plan.label } := by
    rw [strike, if_pos hown]
  rw [hstruck]
  refine ⟨fun old hold => ?_, fun old hold => ?_, hbooks, hwritten⟩
  · rcases List.mem_or_eq_of_mem_set hold with hold | rfl
    · exact h.sound old hold
    · exact (h.sound run hmem).ending hthrough rfl rfl
  · rcases List.mem_or_eq_of_mem_set hold with hold | rfl
    · exact h.housed old hold
    · exact h.housed run hmem

/-- **Whatever a worker does keeps the runner consistent.** -/
theorem labour (h : Consistent r roll record) (hrun : r.runs[id]? = some run)
    (hlabour : Labour r id run r') :
    ∃ new, r'.sinks.events = r.sinks.events ++ new ∧
      Consistent r' roll (record ++ new.map (some id, ·)) := by
  have hmem := List.mem_of_getElem? hrun
  have hbegun := hlabour.underway.1
  have hroll := h.books.mem_of_ne_idle hrun hbegun
  have hquiet : ∀ {record'}, Consistent r' roll record' →
      Consistent r' roll (record' ++ ([] : List SinkEvent).map (some id, ·)) := by
    intro record' h'
    rwa [List.map_nil, List.append_nil]
  cases hlabour with
  | proceeds run' sinks new hbusy hgoes hadds =>
    have hlisted := Stage.isListed_of_isBusy hbusy
    have hstage : run'.stage.isListed ∧ run'.stage.isReported = false := by
      rcases hgoes.stage with hbusy' | ⟨o, ho⟩
      · exact ⟨Stage.isListed_of_isBusy hbusy', Stage.not_isReported_of_isBusy hbusy'⟩
      · rw [ho]
        exact ⟨rfl, rfl⟩
    refine ⟨new, hadds.events, h.goes hrun rfl rfl hadds hgoes.plan
      (hgoes.sound (h.sound run hmem)) (hstage.1.trans hlisted.symm)
      (fun hnot => absurd hroll hnot)
      (fun _ => ⟨hbegun, hlisted⟩) fun hreported => ?_⟩
    rw [hstage.2] at hreported
    cases hreported
  | reports o hs =>
    have hadds := Sinks.adds_append (h.housed run hmem) .status none
      (statusLine run.plan.label run.plan.steps (r.now - run.started) o)
    have hthrough : run.stage.isWorking = false := by rw [hs]; rfl
    exact ⟨_, hadds.events, h.goes hrun rfl rfl hadds rfl
      ((h.sound run hmem).ending hthrough rfl rfl) (by rw [hs]; rfl)
      (fun hnot => absurd hroll hnot)
      (fun _ => ⟨hbegun, by rw [hs]; rfl⟩) fun _ => Or.inr ⟨o, _, rfl, rfl⟩⟩
  | settles o hs =>
    refine ⟨[], (List.append_nil _).symm, hquiet ?_⟩
    refine h.ends hrun rfl rfl rfl rfl rfl (by rw [hs]; rfl) rfl (by rw [hs]; rfl) fun o' ho => ?_
    rw [Run.EndedAs, hs] at ho
    subst ho
    exact ⟨rfl, rfl⟩
  | strikes o hs =>
    refine ⟨[], ?_, hquiet (h.strikes hrun hs)⟩
    rw [strike_sinks, List.append_nil]
  | announces o hs =>
    refine ⟨[], (List.append_nil _).symm, hquiet ?_⟩
    refine h.ends hrun rfl rfl rfl rfl rfl (by rw [hs]; rfl) rfl (by rw [hs]; rfl) fun o' ho => ?_
    rw [Run.EndedAs, hs] at ho
    exact ho.2
  | leaves hs =>
    refine ⟨[], (List.append_nil _).symm, hquiet ?_⟩
    refine h.ends hrun rfl rfl rfl rfl rfl (by rw [hs]; rfl) rfl (by rw [hs]; rfl) fun o ho => ?_
    rw [Run.EndedAs, hs] at ho
    exact ho

/-! ## Callers -/

/-- **What a caller does keeps the runner consistent**, when it can rely on
what its step needs. -/
theorem attends {es es' : List Errand} {enrolled : List RunId} (h : Consistent r roll record)
    (horderly : Orderly (Holds r roll) es)
    (hlaunch : ∀ id run, Errand.launch id ∈ es → r.runs[id]? = some run → run.stage = .idle)
    (hregister : ∀ name id, Errand.register name id ∈ es → id ∉ roll ∧ Labelled r.runs id name)
    (ha : Attends r es r' es' enrolled) :
    ∃ new, r'.sinks.events = r.sinks.events ++ new ∧
      Consistent r' (roll ++ enrolled) (record ++ new.map (none, ·)) := by
  have hquiet : ∀ {record'}, Consistent r' (roll ++ enrolled) record' →
      Consistent r' (roll ++ enrolled) (record' ++ ([] : List SinkEvent).map (none, ·)) := by
    intro record' h'
    rwa [List.map_nil, List.append_nil]
  cases ha with
  | looks =>
    refine ⟨[], (List.append_nil _).symm, hquiet ?_⟩
    rwa [List.append_nil]
  | touches id f hknown htouched =>
    have hlt : id < r.runs.length := horderly.1 _ hknown
    have hrun := List.getElem?_eq_getElem hlt
    refine ⟨[], (List.append_nil _).symm, hquiet ?_⟩
    rw [List.append_nil]
    have hpasses := h.passes hrun (passes_onRun hrun (htouched _)) fun hne => absurd rfl hne
    rwa [List.map_nil, List.append_nil] at hpasses
  | strikes name id es =>
    -- The run is over, so the table has it no longer.
    obtain ⟨run, hrun, hover⟩ := horderly.1 (.ended id) (List.mem_singleton_self _)
    have hsame : r.strike name id = r := if_neg (h.books.get?_ne_of_isOver hrun hover)
    rw [hsame]
    refine ⟨[], (List.append_nil _).symm, ?_⟩
    rw [List.map_nil, List.append_nil, List.append_nil]
    exact h
  | prepares p =>
    obtain ⟨-, new, hgrows, hnew⟩ := Sinks.grows_create r.sinks p.label p.clear
    refine ⟨new, hgrows.events, ?_⟩
    rw [List.append_nil]
    exact ⟨h.sound, fun run hrun => hgrows.keeps _ (h.housed run hrun), h.books,
      h.written.clear hgrows hnew⟩
  | founds p es =>
    have hhoused : (r.sinks.get? p.label).isSome := horderly.1 (.housed p.label) (List.mem_singleton_self _)
    refine ⟨[], (List.append_nil _).symm, hquiet ?_⟩
    rw [List.append_nil]
    refine ⟨fun run hrun => ?_, fun run hrun => ?_, h.books.found rfl,
      h.written.found h.books.known rfl⟩
    · rcases List.mem_append.1 hrun with hrun | hrun
      · exact h.sound run hrun
      · rw [List.mem_singleton.1 hrun]
        exact rfl
    · rcases List.mem_append.1 hrun with hrun | hrun
      · exact h.housed run hrun
      · rw [List.mem_singleton.1 hrun]
        exact hhoused
  | registers name id es hfree =>
    obtain ⟨hnew, run, hrun, hlabel⟩ := hregister name id List.mem_cons_self
    have hidle := h.books.idle id run hrun hnew
    have hstands : Standing r.runs id name := ⟨run, hrun, hlabel, by rw [hidle]; rfl⟩
    exact ⟨[], (List.append_nil _).symm, hquiet ⟨h.sound, h.housed,
      h.books.register hnew hstands hfree, h.written.register id⟩⟩
  | launches id run es hrun =>
    have hroll : id ∈ roll := horderly.1 (.enrolled id) (List.mem_singleton_self _)
    have hidle := hlaunch id run List.mem_cons_self hrun
    refine ⟨[], (List.append_nil _).symm, hquiet ?_⟩
    rw [List.append_nil]
    exact h.goes_quiet hrun rfl rfl rfl rfl
      (Run.sound_begin (h.sound run (List.mem_of_getElem? hrun)) hidle _ _) (by rw [hidle]; rfl)
      (fun hnot => absurd hroll hnot) fun hreported => nomatch hreported

end Consistent

end Command
end CodeDesk
