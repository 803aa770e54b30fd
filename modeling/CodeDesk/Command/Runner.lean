import CodeDesk.Command.Run
import CodeDesk.Machine.Process

/-!
# The runner

Everything that takes part in running commands: the disk and the sinks that
the processes write to, the runs there have been, and the running table,
which lists the run that is going on under each label. Three kinds of steps
change it: the stages of workers, what happens to processes, and the steps
that callers take. Each is a function of its own and cannot be interrupted,
so any order of them is a history of the runner.
-/

namespace CodeDesk
namespace Command

/-- A run is addressed by its place among all runs. -/
abbrev RunId := Nat

/-- What a runner tells. -/
inductive RunEvent where
  /-- A run was started. -/
  | started (id : RunId) (name : String) (focus : Bool)
  /-- A run is over. -/
  | finished (id : RunId) (name : String) (o : Outcome)
  deriving DecidableEq, Repr, Inhabited

/-- Everything that takes part in running commands. -/
structure Runner where
  /-- The files and the clock. -/
  disk : Disk
  /-- The output. -/
  sinks : Sinks
  /-- The variables that programs are given. -/
  env : Table String String
  /-- All runs there have been. -/
  runs : List Run
  /-- The running table. -/
  table : Table String RunId
  /-- The events that nobody has received yet. -/
  events : List RunEvent
  deriving Inhabited

namespace Runner

/-- A runner without runs. -/
def ofDisk (d : Disk) : Runner := ⟨d, Sinks.empty, Table.empty, [], Table.empty, []⟩

/-- The time. -/
def now (r : Runner) : Stamp := r.disk.clock

/-- Wait until a time has come. -/
def wakeAt (r : Runner) (t : Stamp) : Runner :=
  { r with disk := { r.disk with clock := max r.disk.clock t } }

/-- Change a run. -/
def onRun (r : Runner) (id : RunId) (f : Run → Run) : Runner :=
  { r with runs := r.runs.modify id f }

/-- Tell something. -/
def tell (r : Runner) (e : RunEvent) : Runner := { r with events := r.events ++ [e] }

/-- Receive the events. -/
def drain (r : Runner) : List RunEvent × Runner := (r.events, { r with events := [] })

/-- Whether a run is over. -/
def isOver (r : Runner) (id : RunId) : Bool := (r.runs[id]?).all Run.isOver

/-- How a run has ended, if that is settled. -/
def outcome? (r : Runner) (id : RunId) : Option Outcome := (r.runs[id]?).bind (·.outcome)

/-- Strike a run off the running table, unless its label has been taken by
another run. -/
def strike (r : Runner) (name : String) (id : RunId) : Runner :=
  if r.table.get? name = some id then { r with table := r.table.erase name } else r

/-- Add lines to the sink of a run. -/
def print (r : Runner) (run : Run) (c : Machine.Channel) (ls : List Bytes) : Runner :=
  let (stream, links) := match c with
    | .out => (Stream.stdout, run.plan.links)
    | .err => (Stream.stderr, none)
  { r with sinks := r.sinks.appendAll run.plan.label stream links ls }

/-! ## Workers -/

/-- How the text of an error names the program that could not be started. -/
def spawnMessage (program : String) (e : Machine.SpawnError) : String :=
  "could not start \x60" ++ program ++ "\x60: " ++ e.message

/-- Start a program of a run. -/
def spawn (M : Machine) (r : Runner) (id : RunId) (run : Run) (i : Nat) : Runner :=
  match run.plan.steps[i]? with
  | none => r
  | some step =>
    match M.spawn r.disk ⟨step.program, step.args, run.plan.dir, run.env⟩ with
    | .error e => r.onRun id fun run => run.afterSpawnFailure i (spawnMessage step.program e)
    | .ok t =>
      r.onRun id fun run =>
        { run with
          processes := run.processes ++ [LiveProcess.ofTrace t r.now], stage := .enlist i }

/-- Add what a process has printed after its last line break. -/
def flush (r : Runner) (id : RunId) (run : Run) (i : Nat) (p : LiveProcess) : Runner :=
  let rest (b : Bytes) : List Bytes := if b.isEmpty then [] else [b]
  let r := (r.print run .out (rest p.out)).print run .err (rest p.err)
  r.onRun id fun run => run.onProcess i fun p => (p.keep [] .out).keep [] .err

/-- The next stage of the worker of a run; `none` if it waits for something
or has left. -/
def work? (M : Machine) (r : Runner) (id : RunId) : Option Runner :=
  match r.runs[id]? with
  | none => none
  | some run =>
    match run.stage with
    | .idle => none
    | .decide i => some (r.onRun id fun run => run.decided i)
    | .spawn i => some (r.spawn M id run i)
    | .enlist i =>
      some (r.onRun id fun run => { run with listed := run.listed ++ [i], stage := .heed i })
    | .heed i =>
      some (r.onRun id fun run =>
        let run := if run.isCancelled then
          run.onProcess i fun p => p.signal terminate r.now else run
        run.afterHeed i)
    | .abandon i =>
      if i < run.processes.length then
        some (r.onRun id fun run =>
          (run.onProcess i fun p => if p.isAlive then p.signal forceEnd r.now else p).goTo
            (.abandon (i + 1)))
      else some (r.onRun id Run.awaitAll)
    | .await i =>
      if (run.processes[i]?).any LiveProcess.isAlive then none
      else some (r.onRun id fun run => (run.onProcess i LiveProcess.reap).goTo (.delist i))
    | .delist i =>
      some (r.onRun id fun run => { run with listed := run.listed.erase i, stage := .collect i })
    | .collect i =>
      match run.processes[i]? with
      | none => some (r.onRun id fun run => run.afterCollect i)
      | some p =>
        if p.closed then some ((r.flush id run i p).onRun id fun run => run.afterCollect i)
        else none
    | .report o =>
      let line := statusLine run.plan.label run.plan.steps (r.now - run.started) o
      some ({ r with sinks := r.sinks.append run.plan.label .status none line }.onRun id
        (·.goTo (.settle o)))
    | .settle o => some (r.onRun id fun run => { run with outcome := some o, stage := .strike o })
    | .strike o => some ((r.strike run.plan.label id).onRun id (·.goTo (.announce o)))
    | .announce o => some ((r.tell (.finished id run.plan.label o)).onRun id (·.goTo .leave))
    | .leave => some (r.onRun id (·.goTo .gone))
    | .gone => none

/-! ## Processes -/

/-- What happens next to a process of a run, and when. -/
def nextOf (run : Run) : List (Stamp × Nat × Happening) :=
  (run.processes.zipIdx.filterMap fun p => p.1.next?.map fun h => (h.1, p.2, h.2))

/-- What happens next to any process, and when. -/
def next? (r : Runner) : Option (Stamp × RunId × Nat × Happening) :=
  earliest? (r.runs.zipIdx.flatMap fun run =>
    (nextOf run.1).map fun h => (h.1, run.2, h.2.1, h.2.2))

/-- Let something happen to a process. -/
def happen (r : Runner) (id : RunId) (i : Nat) (h : Happening) : Runner :=
  match h with
  | .exits e => r.onRun id fun run => run.onProcess i (·.finish e)
  | .closes => r.onRun id fun run => run.onProcess i LiveProcess.close
  | .does a =>
    let r := r.onRun id fun run => run.onProcess i LiveProcess.shift
    match a with
    | .print c bytes =>
      match r.runs[id]? with
      | none => r
      | some run =>
        let before := ((run.processes[i]?).map (·.pending c)).getD []
        let (ls, rest) := Sinks.cutLines before.reverse bytes
        (r.print run c ls).onRun id fun run => run.onProcess i fun p => p.keep rest c
    | a => { r with disk := a.onDisk r.disk }

/-! ## Callers -/

/-- How long a killed run may take to end by itself. -/
def grace : Stamp := ofMillis 2000

/-- A step that a caller has to take. -/
inductive Errand where
  /-- Kill the run that is listed under a label, if there is one. -/
  | evict (name : String)
  /-- Mark a run as killed. -/
  | mark (id : RunId)
  /-- Ask the listed processes of a run to end. -/
  | terminate (id : RunId)
  /-- Wait for the end of a run until a time has come, and force it then. -/
  | spare (id : RunId) (deadline : Stamp)
  /-- End the listed processes of a run. -/
  | force (id : RunId)
  /-- Wait for the end of a run. -/
  | await (id : RunId)
  /-- Wait for the end of a run until a time has come. -/
  | awaitUntil (id : RunId) (deadline : Stamp)
  /-- Strike a run off the running table. -/
  | strike (name : String) (id : RunId)
  /-- Make the sink of a run. -/
  | prepare (p : Plan)
  /-- Set up a run, which is listed and begins then. -/
  | found (p : Plan)
  /-- List a run in the running table as soon as its label is free, and kill
  those that stand there. -/
  | register (name : String) (id : RunId)
  /-- Announce a run and tell its worker to begin. -/
  | launch (id : RunId)
  deriving DecidableEq, Repr, Inhabited

/-- The steps that kill a run and wait for its end. -/
def killing (id : RunId) : List Errand := [.mark id, .terminate id]

/-- The steps that start a run. -/
def starting (p : Plan) : List Errand := [.evict p.label, .prepare p, .found p]

/-- Take the first of the steps: what is left to do then, or `none` if it
waits for something. -/
def attend? (r : Runner) : List Errand → Option (Runner × List Errand)
  | [] => none
  | .evict name :: rest =>
    match r.table.get? name with
    | none => some (r, rest)
    | some id => some (r, killing id ++ .strike name id :: rest)
  | .mark id :: rest => some (r.onRun id fun run => { run with isCancelled := true }, rest)
  | .terminate id :: rest =>
    some (r.onRun id fun run => run.signalListed Command.terminate r.now,
      .spare id (r.now + grace) :: rest)
  | .spare id deadline :: rest =>
    if r.isOver id then some (r, rest)
    else if deadline ≤ r.now then some (r, .force id :: .await id :: rest)
    else none
  | .force id :: rest => some (r.onRun id fun run => run.signalListed forceEnd r.now, rest)
  | .await id :: rest => if r.isOver id then some (r, rest) else none
  | .awaitUntil id deadline :: rest =>
    if r.isOver id || decide (deadline ≤ r.now) then some (r, rest) else none
  | .strike name id :: rest => some (r.strike name id, rest)
  | .prepare p :: rest => some ({ r with sinks := r.sinks.create p.label p.clear }, rest)
  | .found p :: rest =>
    let id := r.runs.length
    some ({ r with runs := r.runs ++ [Run.ofPlan p r.env r.now] },
      .register p.label id :: .launch id :: rest)
  | .register name id :: rest =>
    match r.table.get? name with
    | none => some ({ r with table := r.table.set name id }, rest)
    | some other => some (r, killing other ++ .strike name other :: .register name id :: rest)
  | .launch id :: rest =>
    match r.runs[id]? with
    | none => some (r, rest)
    | some run =>
      some ((r.tell (.started id run.plan.label run.plan.focus)).onRun id
        (·.begin r.env r.now), rest)

end Runner
end Command
end CodeDesk
