import CodeDesk.Proofs.Command.OneRun
/-!
# Turns — everything that a move can do to one run

`Run.Turn` has one constructor for each thing the worker of a run can do
next, with what it looked at, and `turn_of_work?` says that there is nothing
else. `Workshop.Deed` adds what others do to the run: what happens to its
processes, the steps of callers that mark it as killed, signal it or make it
begin (`deed_of_after`). What is proved of a run over a whole history is
proved by cases on its deeds.
-/

namespace CodeDesk
namespace Command

open Runner

/-- The job of a program of a run. -/
def Run.job (run : Run) (step : Step) : Machine.Job :=
  ⟨step.program, step.args, run.plan.dir, run.env⟩

/-- What the worker of a run does to it by its next step, with the disk and
the time there are then. -/
inductive Run.Turn (M : Machine) (d : Disk) (now : Stamp) (run : Run) : Run → Prop where
  /-- It looks whether a program is left. -/
  | decides (i : Nat) (stage : run.stage = .decide i) : Turn M d now run (run.decided i)
  /-- There is no such program. -/
  | strays (i : Nat) (stage : run.stage = .spawn i) (beyond : run.plan.steps[i]? = none) :
    Turn M d now run run
  /-- A program cannot be started. -/
  | refused (i : Nat) (step : Step) (e : Machine.SpawnError) (stage : run.stage = .spawn i)
    (there : run.plan.steps[i]? = some step) (fails : M.spawn d (run.job step) = .error e) :
    Turn M d now run (run.afterSpawnFailure i (spawnMessage step.program e))
  /-- A program is started. -/
  | spawned (i : Nat) (step : Step) (t : Machine.Trace) (stage : run.stage = .spawn i)
    (there : run.plan.steps[i]? = some step) (starts : M.spawn d (run.job step) = .ok t) :
    Turn M d now run
      { run with processes := run.processes ++ [LiveProcess.ofTrace t now], stage := .enlist i }
  /-- It lists a process. -/
  | enlists (i : Nat) (stage : run.stage = .enlist i) :
    Turn M d now run { run with listed := run.listed ++ [i], stage := .heed i }
  /-- It heeds a kill. -/
  | heeds (i : Nat) (stage : run.stage = .heed i) :
    Turn M d now run ((if run.isCancelled then
      run.onProcess i fun p => p.signal terminate now else run).afterHeed i)
  /-- It ends a process, because a program could not be started. -/
  | abandons (i : Nat) (stage : run.stage = .abandon i) (there : i < run.processes.length) :
    Turn M d now run ((run.onProcess i fun p =>
      if p.isAlive then p.signal forceEnd now else p).goTo (.abandon (i + 1)))
  /-- It has ended all of them. -/
  | abandoned (i : Nat) (stage : run.stage = .abandon i) (beyond : run.processes.length ≤ i) :
    Turn M d now run run.awaitAll
  /-- It has waited for a process. -/
  | reaps (i : Nat) (stage : run.stage = .await i)
    (ended : (run.processes[i]?).any LiveProcess.isAlive = false) :
    Turn M d now run ((run.onProcess i LiveProcess.reap).goTo (.delist i))
  /-- It takes a process off the list. -/
  | delists (i : Nat) (stage : run.stage = .delist i) :
    Turn M d now run { run with listed := run.listed.erase i, stage := .collect i }
  /-- It has read the output of a process to its end. -/
  | collects (i : Nat) (stage : run.stage = .collect i)
    (closed : ∀ p, run.processes[i]? = some p → p.closed) :
    Turn M d now run ((run.onProcess i fun p => (p.keep [] .out).keep [] .err).afterCollect i)
  /-- It writes the status line. -/
  | reports (o : Outcome) (stage : run.stage = .report o) : Turn M d now run (run.goTo (.settle o))
  /-- It settles the outcome. -/
  | settles (o : Outcome) (stage : run.stage = .settle o) :
    Turn M d now run { run with outcome := some o, stage := .strike o }
  /-- It strikes the run off the running table. -/
  | strikes (o : Outcome) (stage : run.stage = .strike o) :
    Turn M d now run (run.goTo (.announce o))
  /-- It announces the end. -/
  | announces (o : Outcome) (stage : run.stage = .announce o) : Turn M d now run (run.goTo .leave)
  /-- It leaves. -/
  | leaves (stage : run.stage = .leave) : Turn M d now run (run.goTo .gone)

namespace Runner

variable {M : Machine} {r r' : Runner} {id : RunId} {run run' : Run}

/-- A step that is about the run alone. -/
theorem onRun_runs (h : r.runs[id]? = some run) (f : Run → Run) :
    (r.onRun id f).runs = r.runs.set id (f run) := by
  rw [onRun_eq h]

/-- Changing what is not there changes nothing. -/
theorem onProcess_of_none {i : Nat} (h : run.processes[i]? = none)
    (f : LiveProcess → LiveProcess) : run.onProcess i f = run := by
  have hlen : run.processes.length ≤ i := List.getElem?_eq_none_iff.1 h
  exact congrArg (fun ps => { run with processes := ps }) (List.modify_eq_self hlen)

theorem flush_runs {i : Nat} (h : r.runs[id]? = some run) (p : LiveProcess) :
    (r.flush id run i p).runs =
      r.runs.set id (run.onProcess i fun p => (p.keep [] .out).keep [] .err) := by
  unfold flush
  dsimp only
  generalize (if p.out.isEmpty then [] else [p.out]) = out
  generalize (if p.err.isEmpty then [] else [p.err]) = err
  have hruns : ((r.print run .out out).print run .err err).runs[id]? = some run := by
    rw [print_eq, print_eq]
    exact h
  rw [onRun_runs hruns, print_eq, print_eq]

/-- **The worker of a run takes one of its turns, or none.** -/
theorem turn_of_work? (h : r.work? M id = some r') :
    ∃ run run', r.runs[id]? = some run ∧ r'.runs = r.runs.set id run' ∧
      run.Turn M r.disk r.now run' := by
  unfold work? at h
  split at h
  · cases h
  next run hrun =>
  have hlt : id < r.runs.length := (List.getElem?_eq_some_iff.1 hrun).1
  -- Most of the turns change this run and nothing else.
  have hquiet : ∀ f : Run → Run, run.Turn M r.disk r.now (f run) → r' = r.onRun id f →
      ∃ run run', r.runs[id]? = some run ∧ r'.runs = r.runs.set id run' ∧
        run.Turn M r.disk r.now run' := by
    rintro f hturn rfl
    exact ⟨run, f run, hrun, onRun_runs hrun f, hturn⟩
  cases hs : run.stage <;> rw [hs] at h <;> dsimp only at h
  case idle => cases h
  case decide i => exact hquiet _ (.decides i hs) (Option.some.inj h).symm
  case spawn i =>
    unfold spawn at h
    split at h
    · next hnone =>
      have hsame : r.runs = r.runs.set id run := by
        have hget := (List.getElem?_eq_some_iff.1 hrun).2
        rw [← hget, List.set_getElem_self]
      cases h
      exact ⟨run, run, hrun, hsame, .strays i hs hnone⟩
    · next step hstep =>
      split at h
      · next e he => exact hquiet _ (.refused i step e hs hstep he) (Option.some.inj h).symm
      · next t ht => exact hquiet _ (.spawned i step t hs hstep ht) (Option.some.inj h).symm
  case enlist i => exact hquiet _ (.enlists i hs) (Option.some.inj h).symm
  case heed i => exact hquiet _ (.heeds i hs) (Option.some.inj h).symm
  case abandon i =>
    split at h
    · next hthere => exact hquiet _ (.abandons i hs hthere) (Option.some.inj h).symm
    · next hbeyond => exact hquiet _ (.abandoned i hs (Nat.not_lt.1 hbeyond)) (Option.some.inj h).symm
  case await i =>
    split at h
    · cases h
    · next hended =>
      exact hquiet _ (.reaps i hs (Bool.eq_false_iff.2 hended)) (Option.some.inj h).symm
  case delist i => exact hquiet _ (.delists i hs) (Option.some.inj h).symm
  case collect i =>
    split at h
    · next hnone =>
      have hsame := onProcess_of_none hnone fun p => (p.keep [] .out).keep [] .err
      have hturn : run.Turn M r.disk r.now
          ((run.onProcess i fun p => (p.keep [] .out).keep [] .err).afterCollect i) :=
        .collects i hs fun p hp => by simp [hnone] at hp
      rw [hsame] at hturn
      exact hquiet _ hturn (Option.some.inj h).symm
    · next p hp =>
      split at h
      · next hclosed =>
        cases h
        -- What is left of the output is printed, and then the run goes on.
        have hkept : (r.flush id run i p).runs[id]? =
            some (run.onProcess i fun p => (p.keep [] .out).keep [] .err) := by
          rw [flush_runs hrun, List.getElem?_set_self hlt]
        refine ⟨run, _, hrun, ?_, .collects i hs fun q hq => ?_⟩
        · rw [onRun_runs hkept, flush_runs hrun, List.set_set]
        · rw [hp] at hq
          cases hq
          exact hclosed
      · cases h
  case report o =>
    refine ⟨run, _, hrun, ?_, .reports o hs⟩
    cases h
    exact onRun_runs (r := { r with sinks := _ }) hrun _
  case settle o => exact hquiet _ (.settles o hs) (Option.some.inj h).symm
  case strike o =>
    refine ⟨run, _, hrun, ?_, .strikes o hs⟩
    cases h
    have hkept : (r.strike run.plan.label id).runs[id]? = some run := by
      rw [strike_runs]
      exact hrun
    rw [onRun_runs hkept, strike_runs]
  case announce o =>
    refine ⟨run, _, hrun, ?_, .announces o hs⟩
    cases h
    exact onRun_runs (r := r.tell _) hrun _
  case leave => exact hquiet _ (.leaves hs) (Option.some.inj h).symm
  case gone => cases h

end Runner

/-! ## Deeds -/

/-- What happens to a process without ending it. -/
def LiveProcess.Idles (f : LiveProcess → LiveProcess) : Prop :=
  ∀ p, (f p).ended = p.ended ∧ (f p).signals = p.signals

namespace Workshop

variable {M : Machine} {s : Workshop} {id : RunId} {run run' : Run}

/-- A move that is about something else than a run: its worker waits if it is
its turn, and it is not told to begin. -/
def Quiet (M : Machine) (s : Workshop) (id : RunId) (m : Move) : Prop :=
  (m = .work id → s.runner.work? M id = none) ∧
    ∀ k es, m = .attend k → s.callers[k]? ≠ some (.launch id :: es)

/-- What a move does to a run. -/
inductive Deed (M : Machine) (s : Workshop) (id : RunId) (run : Run) : Move → Run → Prop where
  /-- It is about something else. -/
  | rests (m : Move) (quiet : Quiet M s id m) : Deed M s id run m run
  /-- The worker of the run takes a turn. -/
  | works (run' : Run) (turn : run.Turn M s.runner.disk s.runner.now run') :
    Deed M s id run (.work id) run'
  /-- A process ends by itself. -/
  | exits (i : Nat) (e : Machine.Exit) (p : LiveProcess) (there : run.processes[i]? = some p)
    (alive : p.isAlive) : Deed M s id run (.happen id i (.exits e)) (run.onProcess i (·.finish e))
  /-- A process goes on, or its output closes. -/
  | goes (i : Nat) (h : Happening) (f : LiveProcess → LiveProcess) (idles : LiveProcess.Idles f) :
    Deed M s id run (.happen id i h) (run.onProcess i f)
  /-- The run is marked as killed. -/
  | marks (k : Nat) (es : List Errand) (head : s.callers[k]? = some (.mark id :: es)) :
    Deed M s id run (.attend k) { run with isCancelled := true }
  /-- The listed processes are asked to end. -/
  | terminates (k : Nat) (es : List Errand) (head : s.callers[k]? = some (.terminate id :: es)) :
    Deed M s id run (.attend k) (run.signalListed Command.terminate s.runner.now)
  /-- The listed processes are ended. -/
  | forces (k : Nat) (es : List Errand) (head : s.callers[k]? = some (.force id :: es)) :
    Deed M s id run (.attend k) (run.signalListed forceEnd s.runner.now)
  /-- The worker is told to begin. -/
  | begins (k : Nat) (es : List Errand) (head : s.callers[k]? = some (.launch id :: es)) :
    Deed M s id run (.attend k) (run.begin s.runner.env s.runner.now)

theorem note_runner (s : Workshop) (who : Option RunId) (r : Runner) :
    (s.note who r).runner = r := rfl

/-- A step that is about one run does its deed to this run, and nothing to
another. -/
theorem deed_of_set {m : Move} {r : Runner} {j : RunId} {old new : Run}
    (hrun : s.runner.runs[id]? = some run) (hold : s.runner.runs[j]? = some old)
    (hruns : r.runs = s.runner.runs.set j new) (hother : j ≠ id → Quiet M s id m)
    (hown : j = id → old = run → Deed M s id run m new) :
    ∃ run', r.runs[id]? = some run' ∧ Deed M s id run m run' := by
  rw [hruns]
  by_cases hj : j = id
  · subst hj
    have hsame : old = run := Option.some.inj (hold.symm.trans hrun)
    have hlt : j < s.runner.runs.length := (List.getElem?_eq_some_iff.1 hrun).1
    exact ⟨new, List.getElem?_set_self hlt, hown rfl hsame⟩
  · rw [List.getElem?_set_ne hj]
    exact ⟨run, hrun, .rests m (hother hj)⟩

/-- A step that changes a run by a function. -/
theorem deed_of_onRun {m : Move} {j : RunId} (hrun : s.runner.runs[id]? = some run)
    (f : Run → Run) (hother : j ≠ id → Quiet M s id m) (hown : j = id → Deed M s id run m (f run)) :
    ∃ run', (s.runner.onRun j f).runs[id]? = some run' ∧ Deed M s id run m run' := by
  cases hold : s.runner.runs[j]? with
  | none =>
    have hlen : s.runner.runs.length ≤ j := List.getElem?_eq_none_iff.1 hold
    have hne : j ≠ id := by
      rintro rfl
      rw [hrun] at hold
      cases hold
    refine ⟨run, ?_, .rests m (hother hne)⟩
    rw [onRun, List.modify_eq_self hlen]
    exact hrun
  | some old =>
    refine deed_of_set hrun hold (onRun_runs hold f) hother fun hj hsame => ?_
    rw [hsame]
    exact hown hj

theorem deed_of_happen {i : Nat} {j : RunId} {h : Happening} {old : Run} {p : LiveProcess}
    (hrun : s.runner.runs[id]? = some run) (hold : s.runner.runs[j]? = some old)
    (hp : old.processes[i]? = some p) (hpossible : h.isPossible p) :
    ∃ run', (s.runner.happen j i h).runs[id]? = some run' ∧
      Deed M s id run (.happen j i h) run' := by
  have hgoes : ∀ f, LiveProcess.Idles f → j = id →
      Deed M s id run (.happen j i h) (run.onProcess i f) := by
    rintro f hf rfl
    exact .goes i h f hf
  have hlt : j < s.runner.runs.length := (List.getElem?_eq_some_iff.1 hold).1
  have hother : j ≠ id → Quiet M s id (.happen j i h) := fun _ => by simp [Quiet]
  cases h with
  | exits e =>
    refine deed_of_set hrun hold (onRun_runs hold _) hother ?_
    rintro rfl rfl
    exact .exits i e p hp hpossible
  | closes => exact deed_of_onRun hrun _ hother (hgoes LiveProcess.close fun p => ⟨rfl, rfl⟩)
  | does a =>
    have hshift : LiveProcess.Idles LiveProcess.shift := fun p => ⟨rfl, rfl⟩
    cases a with
    | write => exact deed_of_onRun hrun _ hother (hgoes _ hshift)
    | makeDir => exact deed_of_onRun hrun _ hother (hgoes _ hshift)
    | remove => exact deed_of_onRun hrun _ hother (hgoes _ hshift)
    | print c bytes =>
      -- The act is done first, and then what was printed is kept.
      have hfirst := onRun_runs hold fun run => run.onProcess i LiveProcess.shift
      have hnext : (s.runner.onRun j fun run => run.onProcess i LiveProcess.shift).runs[j]? =
          some (old.onProcess i LiveProcess.shift) := by
        rw [hfirst, List.getElem?_set_self hlt]
      unfold happen
      dsimp only
      rw [hnext]
      dsimp only
      generalize Sinks.cutLines _ bytes = cut
      have hkeep : LiveProcess.Idles fun p => p.shift.keep cut.2 c := by
        intro p
        cases c <;> exact ⟨rfl, rfl⟩
      have hboth : ((old.onProcess i LiveProcess.shift).onProcess i fun p => p.keep cut.2 c) =
          old.onProcess i fun p => p.shift.keep cut.2 c := by
        simp only [Run.onProcess, List.modify_modify_eq]
        rfl
      have hruns : (((s.runner.onRun j fun run => run.onProcess i LiveProcess.shift).print
          (old.onProcess i LiveProcess.shift) c cut.1).onRun j fun run =>
            run.onProcess i fun p => p.keep cut.2 c).runs =
          s.runner.runs.set j (old.onProcess i fun p => p.shift.keep cut.2 c) := by
        have hprinted : ((s.runner.onRun j fun run => run.onProcess i LiveProcess.shift).print
            (old.onProcess i LiveProcess.shift) c cut.1).runs[j]? =
            some (old.onProcess i LiveProcess.shift) := by
          rw [print_eq]
          exact hnext
        rw [onRun_runs hprinted, print_eq, hfirst, List.set_set, hboth]
      refine deed_of_set hrun hold hruns hother ?_
      rintro rfl rfl
      exact .goes i _ _ hkeep

/-- **Whatever a move does to a run is one of these.** -/
theorem deed_of_after (M : Machine) (m : Move) (hrun : s.runner.runs[id]? = some run) :
    ∃ run', (s.after M m).runner.runs[id]? = some run' ∧ Deed M s id run m run' := by
  have hrests : ∀ s' : Workshop, s'.runner.runs = s.runner.runs →
      Quiet M s id m → ∃ run', s'.runner.runs[id]? = some run' ∧ Deed M s id run m run' := by
    intro s' hsame hquiet
    rw [hsame]
    exact ⟨run, hrun, .rests m hquiet⟩
  cases m with
  | dispatch p => exact hrests _ rfl (by simp [Quiet])
  | kill name => exact hrests _ rfl (by simp [Quiet])
  | killAll => exact hrests _ rfl (by simp [Quiet])
  | killRun j =>
    rw [after]
    split
    · exact hrests _ rfl (by simp [Quiet])
    · exact hrests _ rfl (by simp [Quiet])
  | pass d =>
    rw [after]
    split
    · exact hrests _ rfl (by simp [Quiet])
    · exact hrests _ rfl (by simp [Quiet])
  | work j =>
    rw [after]
    split
    · next hnone =>
      refine hrests _ rfl ⟨fun hm => ?_, by simp⟩
      cases hm
      exact hnone
    · next r hwork =>
      obtain ⟨old, new, hold, hruns, hturn⟩ := turn_of_work? hwork
      refine deed_of_set hrun hold hruns (fun hj => ⟨fun hm => ?_, by simp⟩) ?_
      · exact absurd (Move.work.inj hm) hj
      rintro rfl rfl
      exact .works new hturn
  | happen j i h =>
    rw [after]
    split
    · exact hrests _ rfl (by simp [Quiet])
    · next p hp =>
      split
      · next hpossible =>
        obtain ⟨old, hold, hprocess⟩ := Option.bind_eq_some_iff.1 hp
        exact deed_of_happen hrun hold hprocess hpossible
      · exact hrests _ rfl (by simp [Quiet])
  | attend k =>
    rw [after]
    split
    · next hnone =>
      refine hrests _ rfl ⟨by simp, fun k' es hk => ?_⟩
      cases hk
      simp [hnone]
    · next es hes =>
      -- A caller that does not tell the run to begin.
      have hquiet : (∀ rest, es ≠ .launch id :: rest) → Quiet M s id (.attend k) := by
        refine fun hne => ⟨by simp, fun k' rest hk => ?_⟩
        cases hk
        rw [hes]
        exact fun heq => hne rest (Option.some.inj heq)
      split
      · next hnone =>
        refine hrests _ rfl (hquiet fun rest heq => ?_)
        subst heq
        dsimp only [attend?] at hnone
        split at hnone <;> cases hnone
      · next r es' hattend =>
        have hsame : r.runs = s.runner.runs → (∀ rest, es ≠ .launch id :: rest) →
            ∃ run', r.runs[id]? = some run' ∧ Deed M s id run (.attend k) run' := by
          intro hsame hne
          rw [hsame]
          exact ⟨run, hrun, .rests _ (hquiet hne)⟩
        show ∃ run', r.runs[id]? = some run' ∧ _
        cases es with
        | nil => cases hattend
        | cons e rest =>
          cases e <;> dsimp only [attend?] at hattend
          case evict name => split at hattend <;> cases hattend <;> exact hsame rfl (by simp)
          case mark j =>
            cases hattend
            refine deed_of_onRun hrun _ (fun _ => hquiet (by simp)) ?_
            rintro rfl
            exact .marks k _ hes
          case terminate j =>
            cases hattend
            refine deed_of_onRun hrun _ (fun _ => hquiet (by simp)) ?_
            rintro rfl
            exact .terminates k _ hes
          case spare j t =>
            split at hattend
            · cases hattend
              exact hsame rfl (by simp)
            · split at hattend <;> cases hattend
              exact hsame rfl (by simp)
          case force j =>
            cases hattend
            refine deed_of_onRun hrun _ (fun _ => hquiet (by simp)) ?_
            rintro rfl
            exact .forces k _ hes
          case await j =>
            split at hattend <;> cases hattend
            exact hsame rfl (by simp)
          case awaitUntil j t =>
            split at hattend <;> cases hattend
            exact hsame rfl (by simp)
          case strike name j =>
            cases hattend
            exact hsame (strike_runs _ _ _) (by simp)
          case prepare p =>
            cases hattend
            exact hsame rfl (by simp)
          case found p =>
            cases hattend
            refine ⟨run, ?_, .rests _ (hquiet (by simp))⟩
            rw [List.getElem?_append_left (List.getElem?_eq_some_iff.1 hrun).1]
            exact hrun
          case register name j =>
            split at hattend <;> cases hattend <;> exact hsame rfl (by simp)
          case launch j =>
            split at hattend
            · next hnone =>
              cases hattend
              refine hsame rfl fun rest heq => ?_
              cases heq
              rw [hrun] at hnone
              cases hnone
            · next old hold =>
              cases hattend
              refine deed_of_set hrun hold (onRun_runs (r := s.runner.tell _) hold _)
                (fun hj => hquiet (by simp [hj])) ?_
              rintro rfl rfl
              exact .begins k _ hes

/-! ## Runs that were not there -/

/-- A move sets up at most one run, which has not begun. -/
theorem exists_ofPlan_of_after (M : Machine) (m : Move) (hnone : s.runner.runs[id]? = none)
    (hrun : (s.after M m).runner.runs[id]? = some run) :
    ∃ p, run = Run.ofPlan p s.runner.env s.runner.now := by
  have hsame : ∀ s' : Workshop, s'.runner.runs.length = s.runner.runs.length →
      s'.runner.runs[id]? ≠ some run := by
    intro s' hlength hthere
    have hlt := (List.getElem?_eq_some_iff.1 hthere).1
    have hge := List.getElem?_eq_none_iff.1 hnone
    omega
  cases m with
  | dispatch | kill | killAll => exact absurd hrun (hsame _ rfl)
  | killRun j =>
    rw [after] at hrun
    split at hrun
    · exact absurd hrun (hsame (s.call _) rfl)
    · exact absurd hrun (hsame s rfl)
  | pass d =>
    rw [after] at hrun
    split at hrun
    · exact absurd hrun (hsame { s with runner := { s.runner with disk := d } } rfl)
    · exact absurd hrun (hsame s rfl)
  | work j =>
    rw [after] at hrun
    split at hrun
    · exact absurd hrun (hsame s rfl)
    · next r hwork =>
      obtain ⟨old, new, -, hruns, -⟩ := turn_of_work? hwork
      refine absurd hrun (hsame (s.note _ r) ?_)
      rw [note_runner, hruns, List.length_set]
  | happen j i h =>
    rw [after] at hrun
    split at hrun
    · exact absurd hrun (hsame s rfl)
    · next p hp =>
      split at hrun
      · obtain ⟨old, hold, -⟩ := Option.bind_eq_some_iff.1 hp
        obtain ⟨new, hpasses, -⟩ := passes_happen hold i h
        refine absurd hrun (hsame (s.note _ (s.runner.happen j i h)) ?_)
        rw [note_runner]
        generalize s.runner.happen j i h = r at hpasses
        cases hpasses
        exact List.length_set
      · exact absurd hrun (hsame s rfl)
  | attend k =>
    rw [after] at hrun
    split at hrun
    · exact absurd hrun (hsame s rfl)
    · next es hes =>
      split at hrun
      · exact absurd hrun (hsame s rfl)
      · next r es' hattend =>
        have hrun' : r.runs[id]? = some run := hrun
        have hquiet : r.runs.length = s.runner.runs.length → False :=
          fun hlength => hsame { s with runner := r } hlength hrun'
        have hattends := attends_of_attend? hattend
        generalize registering s.runner es = new at hattends
        cases hattends with
        | looks => exact absurd rfl hquiet
        | touches j f => exact absurd (List.length_modify ..) hquiet
        | strikes name j => exact absurd (congrArg List.length (strike_runs _ name j)) hquiet
        | prepares | registers => exact absurd rfl hquiet
        | launches j old => exact absurd List.length_set hquiet
        | founds p =>
          rw [List.getElem?_append_right (List.getElem?_eq_none_iff.1 hnone)] at hrun'
          exact ⟨p, List.mem_singleton.1 (List.mem_of_getElem? hrun')⟩

/-- **What holds of every new run, and is kept by every deed, holds of all
runs.** -/
theorem forall_runs_after {P : Run → Prop} (M : Machine) (m : Move)
    (hnew : ∀ p env now, P (.ofPlan p env now))
    (hdeed : ∀ id run run', s.runner.runs[id]? = some run → P run → Deed M s id run m run' → P run')
    (h : ∀ run ∈ s.runner.runs, P run) : ∀ run ∈ (s.after M m).runner.runs, P run := by
  intro run hrun
  obtain ⟨id, hid⟩ := List.mem_iff_getElem?.1 hrun
  cases hold : s.runner.runs[id]? with
  | none =>
    obtain ⟨p, rfl⟩ := exists_ofPlan_of_after M m hold hid
    exact hnew p _ _
  | some old =>
    obtain ⟨run', hrun', hd⟩ := deed_of_after M m hold
    rw [hid] at hrun'
    cases hrun'
    exact hdeed id old run hold (h old (List.mem_of_getElem? hold)) hd

end Workshop
end Command
end CodeDesk
