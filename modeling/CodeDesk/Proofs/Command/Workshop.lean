import CodeDesk.Command.Schedule
import CodeDesk.Proofs.Command.Output
import CodeDesk.Proofs.Command.Stages
import Mathlib.Data.List.Basic
/-!
# Workshop — a runner, its callers and its workers, step by step

A step of a worker is about its own run. It goes on with the programs and
may print what was left of their output, it writes the status line, it
strikes the run off the running table, or it is one of the steps between
and behind these (`Labour`, and `labour_of_work?` for every step of a
worker). What happens to a process lets its run go on where it is, and only
a process that prints adds to the sinks (`Passes`, and `passes_happen` for
everything that happens).

Everything that changes the sinks is on the record of the workshop, and the
lines that were ever added to a sink are read from it (`Workshop.linesIn`).
-/

namespace CodeDesk
namespace Command

/-! ## What a step of a worker and a happening do to a runner -/

namespace Runner

variable {M : Machine} {r r' : Runner} {id : RunId} {run run' : Run} {i : Nat}

theorem onRun_eq (h : r.runs[id]? = some run) (f : Run → Run) :
    r.onRun id f = { r with runs := r.runs.set id (f run) } := by
  rw [onRun, List.modify_eq_set_getElem?, h]
  rfl

/-- A step of the worker of a run. -/
inductive Labour (r : Runner) (id : RunId) (run : Run) : Runner → Prop where
  /-- It goes on with the programs. What is left of the output of one of them
  may be printed. -/
  | proceeds (run' : Run) (sinks : Sinks) (new : List SinkEvent) (busy : run.stage.isBusy)
    (goes : run.Proceeds run') (adds : Sinks.Adds run.plan.label r.sinks sinks new) :
    Labour r id run { r with runs := r.runs.set id run', sinks := sinks }
  /-- It writes the status line. -/
  | reports (o : Outcome) (stage : run.stage = .report o) :
    Labour r id run { r with
      runs := r.runs.set id (run.goTo (.settle o))
      sinks := r.sinks.append run.plan.label .status none
        (statusLine run.plan.label run.plan.steps (r.now - run.started) o) }
  /-- It settles the outcome. -/
  | settles (o : Outcome) (stage : run.stage = .settle o) :
    Labour r id run
      { r with runs := r.runs.set id { run with outcome := some o, stage := .strike o } }
  /-- It strikes the run off the running table. -/
  | strikes (o : Outcome) (stage : run.stage = .strike o) :
    Labour r id run
      { r.strike run.plan.label id with runs := r.runs.set id (run.goTo (.announce o)) }
  /-- It announces the end. -/
  | announces (o : Outcome) (stage : run.stage = .announce o) :
    Labour r id run { r with
      runs := r.runs.set id (run.goTo .leave)
      events := r.events ++ [.finished id run.plan.label o] }
  /-- It leaves. -/
  | leaves (stage : run.stage = .leave) :
    Labour r id run { r with runs := r.runs.set id (run.goTo .gone) }

theorem adds_print (r : Runner) (run : Run) (c : Machine.Channel) (ls : List Bytes) :
    ∃ new, Sinks.Adds run.plan.label r.sinks (r.print run c ls).sinks new := by
  cases c <;> exact Sinks.adds_appendAll _ _ ls

/-- Printing changes nothing but the sinks. -/
theorem print_eq (r : Runner) (run : Run) (c : Machine.Channel) (ls : List Bytes) :
    r.print run c ls = { r with sinks := (r.print run c ls).sinks } := by
  cases c <;> rfl

theorem strike_runs (r : Runner) (name : String) (id : RunId) :
    (r.strike name id).runs = r.runs := by
  unfold strike
  split <;> rfl

theorem strike_sinks (r : Runner) (name : String) (id : RunId) :
    (r.strike name id).sinks = r.sinks := by
  unfold strike
  split <;> rfl

/-- A step that is about the programs and prints nothing. -/
theorem Labour.quiet (h : r.runs[id]? = some run) (hbusy : run.stage.isBusy) {f : Run → Run}
    (hgoes : run.Proceeds (f run)) : Labour r id run (r.onRun id f) := by
  rw [onRun_eq h]
  exact .proceeds (f run) r.sinks [] hbusy hgoes (.refl _ _)

/-- Printing the rest of the output of a process lets the run go on where it
is. -/
theorem flush_eq (h : r.runs[id]? = some run) (p : LiveProcess) :
    ∃ run' sinks new, Run.Touched run run' ∧ Sinks.Adds run.plan.label r.sinks sinks new ∧
      r.flush id run i p = { r with runs := r.runs.set id run', sinks := sinks } := by
  unfold flush
  dsimp only
  generalize (if p.out.isEmpty then [] else [p.out]) = out
  generalize (if p.err.isEmpty then [] else [p.err]) = err
  obtain ⟨new, hout⟩ := r.adds_print run .out out
  obtain ⟨new', herr⟩ := (r.print run .out out).adds_print run .err err
  have hruns : ((r.print run .out out).print run .err err).runs[id]? = some run := by
    rw [print_eq, print_eq]
    exact h
  refine ⟨_, _, _, run.touched_onProcess i fun q => (q.advances_keep [] .out).trans
    (LiveProcess.advances_keep _ [] .err), hout.trans herr, ?_⟩
  rw [onRun_eq hruns, print_eq, print_eq]

theorem labour_of_work? (hsome : r.work? M id = some r') :
    ∃ run, r.runs[id]? = some run ∧ Labour r id run r' := by
  unfold work? at hsome
  split at hsome
  · cases hsome
  next run hrun =>
  refine ⟨run, hrun, ?_⟩
  cases hs : run.stage <;> rw [hs] at hsome <;> dsimp only at hsome
  case idle => cases hsome
  case decide i =>
    cases hsome
    exact .quiet hrun (by rw [hs]; rfl) (Run.proceeds_decided hs)
  case spawn i =>
    cases hsome
    have hbusy : run.stage.isBusy := by rw [hs]; rfl
    unfold spawn
    split
    · -- There is no such program, and the step changes nothing.
      have hsame : r.onRun id (fun run => run) = r :=
        congrArg (fun runs => { r with runs := runs }) (List.modify_id id r.runs)
      have hquiet : Labour r id run (r.onRun id fun run => run) :=
        .quiet hrun hbusy ⟨rfl, Or.inl hbusy, fun hsound => hsound⟩
      rwa [hsame] at hquiet
    · split
      · exact .quiet hrun hbusy (Run.proceeds_afterSpawnFailure hs _)
      · exact .quiet hrun hbusy (Run.proceeds_spawned hs _)
  case enlist i =>
    cases hsome
    exact .quiet hrun (by rw [hs]; rfl) (Run.proceeds_enlisted hs _)
  case heed i =>
    cases hsome
    refine .quiet hrun (by rw [hs]; rfl) ?_
    split
    · have ht : run.Touched (run.onProcess i fun p => p.signal terminate r.now) :=
        run.touched_onProcess i fun p => p.advances_signal _ _
      exact .of_touched ht (Run.proceeds_afterHeed (ht.stage.trans hs))
    · exact Run.proceeds_afterHeed hs
  case abandon i =>
    have hbusy : run.stage.isBusy := by rw [hs]; rfl
    split at hsome
    · cases hsome
      refine .quiet hrun hbusy ?_
      have ht : run.Touched
          (run.onProcess i fun p => if p.isAlive then p.signal forceEnd r.now else p) := by
        refine run.touched_onProcess i fun p => ?_
        split
        · exact p.advances_signal _ _
        · exact .refl p
      exact .of_touched ht (Run.proceeds_abandoned (ht.stage.trans hs) _)
    · cases hsome
      exact .quiet hrun hbusy (Run.proceeds_awaitAll fun hsound => hsound.at hs)
  case await i =>
    split at hsome
    · cases hsome
    · next hended =>
      cases hsome
      exact .quiet hrun (by rw [hs]; rfl) (Run.proceeds_reaped hs (Bool.eq_false_iff.2 hended))
  case delist i =>
    cases hsome
    exact .quiet hrun (by rw [hs]; rfl) (Run.proceeds_delisted hs _)
  case collect i =>
    have hbusy : run.stage.isBusy := by rw [hs]; rfl
    split at hsome
    · next hnone =>
      cases hsome
      refine .quiet hrun hbusy (Run.proceeds_afterCollect hs fun p hp => ?_)
      rw [hnone] at hp
      cases hp
    · next p hp =>
      split at hsome
      · next hclosed =>
        cases hsome
        -- What is left of the output is printed first.
        obtain ⟨run', sinks, new, ht, hadds, hflush⟩ := flush_eq hrun (i := i) p
        have hlt : id < r.runs.length := (List.getElem?_eq_some_iff.1 hrun).1
        have hkept : (r.flush id run i p).runs[id]? = some run' := by
          rw [hflush]
          exact List.getElem?_set_self hlt
        rw [onRun_eq hkept, hflush, List.set_set]
        refine .proceeds _ sinks new hbusy ?_ hadds
        refine .of_touched ht (Run.proceeds_afterCollect (ht.stage.trans hs) fun q hq => ?_)
        obtain ⟨q', hq', hadvances⟩ := ht.processes i q hq
        rw [hp] at hq'
        cases hq'
        exact hadvances.closed hclosed
      · cases hsome
  case report o =>
    cases hsome
    have hwritten : ∀ sinks, ({ r with sinks := sinks }.onRun id (·.goTo (.settle o))) =
        { r with sinks := sinks, runs := r.runs.set id (run.goTo (.settle o)) } :=
      fun sinks => onRun_eq (r := { r with sinks := sinks }) hrun _
    rw [hwritten]
    exact .reports o hs
  case settle o =>
    cases hsome
    rw [onRun_eq hrun]
    exact .settles o hs
  case strike o =>
    cases hsome
    have hkept : (r.strike run.plan.label id).runs[id]? = some run := by
      rw [strike_runs]
      exact hrun
    rw [onRun_eq hkept, strike_runs]
    exact .strikes o hs
  case announce o =>
    cases hsome
    rw [onRun_eq (r := r.tell _) hrun]
    exact .announces o hs
  case leave =>
    cases hsome
    rw [onRun_eq hrun]
    exact .leaves hs
  case gone => cases hsome

/-! ## What happens to a run -/

/-- A run goes on where it is, and something may be added to its sink. -/
inductive Passes (r : Runner) (id : RunId) (run : Run) (new : List SinkEvent) : Runner → Prop where
  | intro (run' : Run) (sinks : Sinks) (disk : Disk) (touched : run.Touched run')
    (adds : Sinks.Adds run.plan.label r.sinks sinks new) :
    Passes r id run new { r with disk := disk, runs := r.runs.set id run', sinks := sinks }

/-- A signal, or the mark of a kill. -/
theorem passes_onRun (h : r.runs[id]? = some run) {f : Run → Run} (hf : run.Touched (f run)) :
    Passes r id run [] (r.onRun id f) := by
  rw [onRun_eq h]
  exact .intro (f run) r.sinks r.disk hf (.refl _ _)

theorem passes_onProcess (h : r.runs[id]? = some run) (i : Nat) {f : LiveProcess → LiveProcess}
    (hf : ∀ p : LiveProcess, p.Advances (f p)) (disk : Disk) :
    Passes r id run [] { r.onRun id (·.onProcess i f) with disk := disk } := by
  rw [onRun_eq h]
  exact .intro (run.onProcess i f) r.sinks disk (run.touched_onProcess i hf) (.refl _ _)

/-- **Whatever happens to a process lets its run go on where it is**, and a
line is added only when it prints. -/
theorem passes_happen (h : r.runs[id]? = some run) (i : Nat) (happening : Happening) :
    ∃ new, Passes r id run new (r.happen id i happening) ∧
      ((∀ c bytes, happening ≠ .does (.print c bytes)) → new = []) := by
  cases happening with
  | exits e => exact ⟨[], passes_onProcess h i (fun p => p.advances_finish e) r.disk, fun _ => rfl⟩
  | closes => exact ⟨[], passes_onProcess h i LiveProcess.advances_close r.disk, fun _ => rfl⟩
  | does a =>
    cases a with
    | write p bytes => exact ⟨[], passes_onProcess h i LiveProcess.advances_shift _, fun _ => rfl⟩
    | makeDir p => exact ⟨[], passes_onProcess h i LiveProcess.advances_shift _, fun _ => rfl⟩
    | remove p => exact ⟨[], passes_onProcess h i LiveProcess.advances_shift _, fun _ => rfl⟩
    | print c bytes =>
      have hlt : id < r.runs.length := (List.getElem?_eq_some_iff.1 h).1
      have hshift : run.Touched (run.onProcess i LiveProcess.shift) :=
        run.touched_onProcess i LiveProcess.advances_shift
      generalize hnext : run.onProcess i LiveProcess.shift = next at hshift
      have hstart : r.onRun id (·.onProcess i LiveProcess.shift) =
          { r with runs := r.runs.set id next } := by
        rw [onRun_eq h, hnext]
      have hget : (r.runs.set id next)[id]? = some next := List.getElem?_set_self hlt
      unfold happen
      dsimp only
      rw [hstart]
      dsimp only
      rw [hget]
      dsimp only
      generalize Sinks.cutLines _ bytes = cut
      obtain ⟨new, hadds⟩ := adds_print { r with runs := r.runs.set id next } next c cut.1
      rw [hshift.plan] at hadds
      refine ⟨new, ?_, fun hother => absurd rfl (hother c bytes)⟩
      rw [print_eq, onRun_eq (r := { r with runs := r.runs.set id next, sinks := _ }) hget,
        List.set_set]
      exact .intro _ _ r.disk (hshift.trans (next.touched_onProcess i fun p =>
        p.advances_keep cut.2 c)) hadds

end Runner

namespace Workshop

/-- The lines that were ever added to a sink, with the runs that they come
from. -/
def linesIn (record : List (Option RunId × SinkEvent)) (name : String) : List (RunId × Line) :=
  record.filterMap fun e => e.1.bind fun id => (e.2.lineIn? name).map (id, ·)

end Workshop

end Command
end CodeDesk
