import CodeDesk.Command.Runner

/-!
# Schedules

Whoever dispatches, kills or carries out a run takes one step at a time, and
the steps of all of them come in any order. A `Move` is a call that comes
in, one step of a caller or of a worker, something that happens to a
process, or the passing of time; a history is any list of moves. A caller or
a worker that has to wait stays where it is when it is its turn. What a
process prints comes in parts of any size, so the histories in which each
line is a step of its own are among them.

A `Workshop` is a runner in the middle of a history. It remembers what the
runner does not: the runs in the order in which they were registered
(`roll`), and for every change of a sink the run that made it (`record`).

A schedule is one history among those there may be. A caller takes its steps
as long as it can. When it has to wait, the workers go on, the one of the
earliest run first, and when all of them wait too, time passes until the
next thing happens to a process.
-/

namespace CodeDesk
namespace Command

/-! ## Histories -/

/-- What can happen to a process: it ends once, and it prints until its output
closes. -/
def Happening.isPossible (p : LiveProcess) : Happening → Bool
  | does (.print _ _) => !p.closed
  | does _ => true
  | exits _ => p.isAlive
  | closes => !p.closed

/-- A runner with everybody who takes steps on it. -/
structure Workshop where
  /-- What they share. -/
  runner : Runner
  /-- For each call there was, the steps that are left to take. -/
  callers : List (List Runner.Errand)
  /-- The runs in the order in which they were registered. -/
  roll : List RunId
  /-- The changes of the sinks, with the run each of them comes from. -/
  record : List (Option RunId × SinkEvent)

/-- One step of a history. -/
inductive Move where
  /-- A run is dispatched. -/
  | dispatch (p : Plan)
  /-- The run under a label is to be killed. -/
  | kill (name : String)
  /-- All runs that are listed now are to be killed. -/
  | killAll
  /-- A run is to be killed by its handle. -/
  | killRun (id : RunId)
  /-- A caller takes its next step. -/
  | attend (k : Nat)
  /-- The worker of a run takes its next step. -/
  | work (id : RunId)
  /-- Something happens to a process. -/
  | happen (id : RunId) (i : Nat) (h : Happening)
  /-- Time passes, and files change. -/
  | pass (d : Disk)
  deriving Inhabited

namespace Workshop

open Runner

/-- Nobody has called yet. -/
def ofDisk (d : Disk) (env : Table String String) : Workshop :=
  ⟨{ Runner.ofDisk d with env := env }, [], [], []⟩

/-- A call comes in. -/
def call (s : Workshop) (es : List Errand) : Workshop := { s with callers := s.callers ++ [es] }

/-- The runner goes on, and what changed in the sinks comes from a run, or
from none. -/
def note (s : Workshop) (who : Option RunId) (r : Runner) : Workshop :=
  { s with
    runner := r
    record := s.record ++ (r.sinks.events.drop s.runner.sinks.events.length).map (who, ·) }

/-- The run that the next step of a caller registers. -/
def registering (r : Runner) : List Errand → List RunId
  | .register name id :: _ => if r.table.contains name then [] else [id]
  | _ => []

/-- The workshop after a move. -/
def after (M : Machine) (s : Workshop) : Move → Workshop
  | .dispatch p => s.call (starting p)
  | .kill name => s.call [.evict name]
  | .killAll => s.call (s.runner.table.keys.map .evict)
  | .killRun id => if id < s.runner.runs.length then s.call (killing id) else s
  | .attend k =>
    match s.callers[k]? with
    | none => s
    | some es =>
      match s.runner.attend? es with
      | none => s
      | some (r, es') =>
        { s.note none r with
          callers := s.callers.set k es', roll := s.roll ++ registering s.runner es }
  | .work id =>
    match s.runner.work? M id with
    | none => s
    | some r => s.note (some id) r
  | .happen id i h =>
    match (s.runner.runs[id]?).bind (·.processes[i]?) with
    | none => s
    | some p => if h.isPossible p then s.note (some id) (s.runner.happen id i h) else s
  | .pass d => if s.runner.now ≤ d.clock then { s with runner := { s.runner with disk := d } } else s

/-- The workshop after a history. -/
def run (M : Machine) (s : Workshop) (ms : List Move) : Workshop := ms.foldl (after M) s

end Workshop

/-! ## The schedule of a caller -/

namespace Runner

/-- The time at which a caller waits no longer, if it waits for one. -/
def deadline? : List Errand → Option Stamp
  | .spare _ t :: _ => some t
  | .awaitUntil _ t :: _ => some t
  | _ => none

/-- What goes on while a caller waits: a worker goes on, or something
happens to a process before the deadline. -/
def advance? (M : Machine) (r : Runner) (deadline : Option Stamp) : Option Runner :=
  match (List.range r.runs.length).findSome? (r.work? M) with
  | some r => some r
  | none =>
    match r.next? with
    | none => none
    | some (t, id, i, h) =>
      if deadline.any (· < t) then none else some ((r.wakeAt t).happen id i h)

/-- Take all the steps of a caller. -/
def attendAll (M : Machine) : (fuel : Nat) → Runner → List Errand → Runner
  | 0, r, _ => r
  | fuel + 1, r, es =>
    match r.attend? es with
    | some (r, es) => attendAll M fuel r es
    | none =>
      if es.isEmpty then r
      else
        match r.advance? M (deadline? es) with
        | some r => attendAll M fuel r es
        | none =>
          match deadline? es with
          | some t => attendAll M fuel (r.wakeAt t) es
          | none => r

/-- How many steps may be taken while a caller waits. -/
def patience : Nat := 10000000

/-- Take the steps of a caller, and let the workers go on while it waits. -/
def carryOut (M : Machine) (r : Runner) (es : List Errand) : Runner := attendAll M patience r es

/-- Start a run. -/
def start (M : Machine) (r : Runner) (p : Plan) : RunId × Runner :=
  (r.runs.length, r.carryOut M (starting p))

/-- Kill a run and wait for its end. -/
def killRun (M : Machine) (r : Runner) (id : RunId) : Outcome × Runner :=
  let r := r.carryOut M (killing id)
  ((r.outcome? id).getD .cancelled, r)

/-- Kill the run that is listed under a label, if there is one. -/
def kill (M : Machine) (r : Runner) (name : String) : Option Outcome × Runner :=
  match r.table.get? name with
  | none => (none, r)
  | some id =>
    let r := r.carryOut M [.evict name]
    (some ((r.outcome? id).getD .cancelled), r)

/-- Kill every run that is listed. -/
def killAll (M : Machine) (r : Runner) : Runner := r.carryOut M (r.table.keys.map .evict)

/-- List a run in the running table. -/
def insert (M : Machine) (r : Runner) (id : RunId) : Runner :=
  match r.runs[id]? with
  | none => r
  | some run => r.carryOut M [.register run.plan.label id]

/-- Wait for the end of a run. -/
def wait (M : Machine) (r : Runner) (id : RunId) : Outcome × Runner :=
  let r := r.carryOut M [.await id]
  ((r.outcome? id).getD .cancelled, r)

/-- Wait for the end of a run, but not longer than a time span. -/
def waitFor (M : Machine) (r : Runner) (id : RunId) (span : Stamp) : Option Outcome × Runner :=
  let r := r.carryOut M [.awaitUntil id (r.now + span)]
  (if r.isOver id then some ((r.outcome? id).getD .cancelled) else none, r)

/-- Wait until nothing runs. -/
def waitAll (M : Machine) (r : Runner) : Runner :=
  r.carryOut M ((List.range r.runs.length).map .await)

end Runner
end Command
end CodeDesk
