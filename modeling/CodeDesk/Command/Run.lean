import CodeDesk.Command.LiveProcess
import CodeDesk.Command.Sinks
import CodeDesk.Command.Spec
import CodeDesk.Files.Disk

/-!
# Runs

One run of a command: the programs with their arguments bound, the
processes started for them, and the state of the worker that carries the
run out. A worker proceeds by stages, and a stage is one step that nothing
interrupts; whatever else goes on takes place between two stages.

With `wait` set, the programs are started one after the other, each when
the one before it has succeeded. Otherwise all of them are started, and
then each is waited for. The last stages are always the same: the status
line is written, the outcome is settled, the run is struck off the running
table, its end is announced, and only then is it over. The status line says
below the output of a run how it ended.
-/

namespace CodeDesk
namespace Command

/-! ## Outcomes -/

/-- How a run ends. The programs of a command are counted from 0. -/
inductive Outcome where
  /-- Every program did what it should. -/
  | success
  /-- A program failed, with a status unless a signal ended it. -/
  | failed (step : Nat) (code : Option Nat)
  /-- A program could not be started. -/
  | spawnFailed (step : Nat) (message : String)
  /-- The run was killed. -/
  | cancelled
  deriving DecidableEq, Repr, Inhabited

/-- Whether a run did what it should. -/
def Outcome.isSuccess (o : Outcome) : Bool := o == .success

/-- A number of at least two digits. -/
def twoDigits (n : Nat) : String := if n < 10 then "0" ++ toString n else toString n

/-- A time span with two decimals, in the largest unit of which it holds
one; a half is rounded up. -/
def spanText (span : Stamp) : String :=
  let (unit, name) :=
    if 1000000000 ≤ span then (1000000000, "s")
    else if 1000000 ≤ span then (1000000, "ms")
    else if 1000 ≤ span then (1000, "µs")
    else (1, "ns")
  let hundredths := (span * 100 + unit / 2) / unit
  toString (hundredths / 100) ++ "." ++ twoDigits (hundredths % 100) ++ name

/-- The line below the output of a run that took `span`. -/
def statusLine (label : String) (steps : List Step) (span : Stamp) : Outcome → String
  | .success => label ++ " successful, took " ++ spanText span
  | .failed step code =>
    let program := ((steps[step]?).map (·.program)).getD ""
    label ++ " failed: \x60" ++ program ++ "\x60 " ++
      match code with
      | some n => "exited with status " ++ toString n
      | none => "was terminated by a signal"
  | .spawnFailed _ message => label ++ " could not start: " ++ message
  | .cancelled => label ++ " killed after " ++ spanText span

/-! ## Workers -/

/-- What the worker of a run does next. The programs are counted from 0. -/
inductive Stage where
  /-- It has not been told to begin. -/
  | idle
  /-- It looks whether a program is left to start. -/
  | decide (i : Nat)
  /-- It starts a program. -/
  | spawn (i : Nat)
  /-- It lists the process of a program among those to signal. -/
  | enlist (i : Nat)
  /-- It looks whether the run was killed meanwhile, and if so signals the
  process. -/
  | heed (i : Nat)
  /-- It ends the processes from one on, because a program could not be
  started. -/
  | abandon (i : Nat)
  /-- It waits for the end of a process. -/
  | await (i : Nat)
  /-- It takes a process off the list of those to signal. -/
  | delist (i : Nat)
  /-- It waits for the rest of the output of a process. -/
  | collect (i : Nat)
  /-- It writes the status line. -/
  | report (o : Outcome)
  /-- It settles the outcome. -/
  | settle (o : Outcome)
  /-- It strikes the run off the running table. -/
  | strike (o : Outcome)
  /-- It announces the end. -/
  | announce (o : Outcome)
  /-- It leaves. -/
  | leave
  /-- It has left. -/
  | gone
  deriving DecidableEq, Repr, Inhabited

/-- What a run is started with. -/
structure Plan where
  /-- The label of the command, which is also the name of its sink. -/
  label : String
  /-- The programs with their arguments. -/
  steps : List Step
  /-- The directory they run in. -/
  dir : Path
  /-- Whether each program waits for the one before it to succeed. -/
  wait : Bool
  /-- Whether the output comes to the front. -/
  focus : Bool
  /-- How the output is shown. -/
  filter : Filter
  /-- Whether what the sink holds is taken out first. -/
  clear : Bool
  deriving DecidableEq, Repr, Inhabited

/-- The directory that references in the output lead from, if they are
shown as links. -/
def Plan.links (p : Plan) : Option Path :=
  match p.filter with
  | .plain => none
  | .links => some p.dir

/-- A run of a command. -/
structure Run where
  /-- What it was started with. -/
  plan : Plan
  /-- The variables that its programs are given. -/
  env : Table String String
  /-- When it was started. -/
  started : Stamp
  /-- Whether it was killed. -/
  isCancelled : Bool
  /-- The processes to signal when it is killed, by their programs. -/
  listed : List Nat
  /-- The processes, by their programs. -/
  processes : List LiveProcess
  /-- What the worker does next. -/
  stage : Stage
  /-- The failure that was found first, while others are waited for. -/
  failure : Option Outcome
  /-- How it ended, once that is settled. -/
  outcome : Option Outcome
  deriving Inhabited

namespace Run

/-- The run of a plan before it begins. -/
def ofPlan (p : Plan) (env : Table String String) (now : Stamp) : Run :=
  ⟨p, env, now, false, [], [], .idle, none, none⟩

/-- The run when its worker is told to begin, with the variables and the time
there are then. -/
def begin (r : Run) (env : Table String String) (now : Stamp) : Run :=
  { r with env := env, started := now, stage := .decide 0 }

/-- Whether it is over. -/
def isOver (r : Run) : Bool := r.stage == .gone

/-- Go on with a stage. -/
def goTo (r : Run) (s : Stage) : Run := { r with stage := s }

/-- Change a process. -/
def onProcess (r : Run) (i : Nat) (f : LiveProcess → LiveProcess) : Run :=
  { r with processes := r.processes.modify i f }

/-- Send a signal to every listed process. -/
def signalListed (r : Run) (n : Nat) (now : Stamp) : Run :=
  r.listed.foldl (fun r i => r.onProcess i fun p => p.signal n now) r

/-- What the end of the process of a program means for the run: nothing if
it succeeded, and otherwise the failure. -/
def verdict (r : Run) (i : Nat) : Option Outcome :=
  match (r.processes[i]?).bind (·.ended) with
  | none => none
  | some e =>
    if e.isSuccess then none
    else if r.isCancelled then some .cancelled
    else some (.failed i e.code?)

/-- The stage after the output of a process was collected. -/
def afterCollect (r : Run) (i : Nat) : Run :=
  if r.plan.wait then
    match r.verdict i with
    | some o => r.goTo (.report o)
    | none => r.goTo (.decide (i + 1))
  else
    let r := { r with failure := r.failure.or (r.verdict i) }
    if i + 1 < r.processes.length then r.goTo (.await (i + 1))
    else r.goTo (.report (r.failure.getD .success))

/-- Wait for the processes that were started at once, or report if there are
none. -/
def awaitAll (r : Run) : Run :=
  if r.processes.isEmpty then r.goTo (.report (r.failure.getD .success)) else r.goTo (.await 0)

/-- The stage after a program could not be started. -/
def afterSpawnFailure (r : Run) (i : Nat) (message : String) : Run :=
  if r.plan.wait then r.goTo (.report (.spawnFailed i message))
  else { r with failure := some (.spawnFailed i message), stage := .abandon 0 }

/-- The stage after a process was listed and no kill was missed. -/
def afterHeed (r : Run) (i : Nat) : Run :=
  if r.plan.wait then r.goTo (.await i) else r.goTo (.decide (i + 1))

/-- What a worker decides about the next program. -/
def decided (r : Run) (i : Nat) : Run :=
  if i < r.plan.steps.length then
    if r.plan.wait && r.isCancelled then r.goTo (.report .cancelled) else r.goTo (.spawn i)
  else if r.plan.wait then r.goTo (.report .success)
  else r.awaitAll

end Run
end Command
end CodeDesk
