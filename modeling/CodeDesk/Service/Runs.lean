import CodeDesk.Command.Dispatch
import CodeDesk.Service.Commands
import CodeDesk.Service.Templates

/-!
# Requests about runs

A front end knows runs by numbers, which are given out in the order in
which runs are first mentioned in answers. A run that it has dispatched it
addresses by a handle; handles are numbered in the order of the requests.
-/

namespace CodeDesk
namespace Service

open Command

/-- The runs that a front end knows, in the order in which they were first
mentioned. -/
abbrev Mentioned := List RunId

/-- The number of a run, and the runs known then. -/
def mention (seen : Mentioned) (id : RunId) : Value × Mentioned :=
  match seen.idxOf? id with
  | some n => (num n, seen)
  | none => (num seen.length, seen ++ [id])

/-- How a run has ended. -/
def outcome : Outcome → Value
  | .success => .list [.text "Success", .bool true]
  | .failed step code => .list [.text "Failed", num step, optNum code]
  | .spawnFailed step message => .list [.text "SpawnFailed", num step, .text message]
  | .cancelled => .list [.text "Cancelled", .bool false]

/-- How a run has ended, or null. -/
def optOutcome (o : Option Outcome) : Value := Value.ofOption outcome o

/-- What a runner has told. -/
def runEvent (seen : Mentioned) : RunEvent → Value × Mentioned
  | .started id name focus =>
    let (n, seen) := mention seen id
    (.list [.text "Started", n, .text name, .bool focus], seen)
  | .finished id name o =>
    let (n, seen) := mention seen id
    (.list [.text "Finished", n, .text name, outcome o], seen)

/-- Everything that a runner has told. -/
def runEvents (seen : Mentioned) : List RunEvent → List Value × Mentioned
  | [] => ([], seen)
  | e :: es =>
    let (v, seen) := runEvent seen e
    let (vs, seen) := runEvents seen es
    (v :: vs, seen)

/-- Who answers for the user: the answers are listed by slot. -/
def asPrompter (v : Value) : Prompter :=
  ⟨fun _ => ((v.get? "confirm").bind Value.bool?).getD true,
    fun _ n => (arg (listAt v "answers") (n - 1)).text?⟩

/-- What was asked. -/
def question : Question → Value
  | .confirm => .text "confirm"
  | .slot n => num n

/-- The circumstances in which a command is run. -/
def asCircumstances (v : Value) : Circumstances :=
  ⟨asBool (field v "keep_output"), asBool (field v "no_prompt"), asBool (field v "has_buffer"),
    asPath (field v "default_dir")⟩

/-- Texts by name. -/
def asTextTable (v : Value) : Table String String :=
  Table.ofList ((v.map?.getD []).map fun m => (m.1, asText m.2))

/-- Texts by name. -/
def textTable (t : Table String String) : Value := obj (t.entries.map fun e => (e.1, .text e.2))

/-- The lines of a sink by their streams. -/
def linesByStream (ls : List Line) : Value :=
  let of (s : Stream) : Value :=
    .list ((ls.filter fun l => l.stream = s).map fun l => .list [(lineTexts l).1, (lineTexts l).2])
  obj [("Stdout", of .stdout), ("Stderr", of .stderr), ("Status", of .status)]

/-- A runner with what a front end knows about it. -/
structure RunDesk where
  /-- The runner. -/
  runner : Runner
  /-- The runs by their handles. -/
  handles : List RunId
  /-- The runs by their numbers. -/
  seen : Mentioned
  deriving Inhabited

/-- A desk without runs. -/
def RunDesk.ofDisk (d : Disk) : RunDesk := ⟨Runner.ofDisk d, [], []⟩

/-- What came of dispatching a command; `shown` is the answer for the
run. -/
def dispatchAnswer (d : Dispatched) (shown : Value) : Value :=
  let r := match d.run with
    | .ok _ => shown
    | .error e => commandFailure e
  obj [("r", r), ("asked", .list (d.asked.map question)),
    ("prompts", .list ((List.range Template.promptSlots).map fun i =>
      optText (d.values.get? (Template.promptName (i + 1)))))]

/-- Start a command. It is waited for, or it gets a handle. -/
def runRequest (M : Machine) (wait : Bool) (args : List Value) (s : RunDesk) : Value × RunDesk :=
  match Spec.ofValue? (arg args 0) with
  | none => (jsonError, s)
  | some c =>
    let opts := arg args 1
    let d := s.runner.dispatch M c (asValues (field opts "values")) (asPrompter opts)
      (asCircumstances opts)
    match d.run with
    | .error _ => (dispatchAnswer d .null, { s with runner := d.runner })
    | .ok id =>
      if wait then
        let (o, r) := d.runner.wait M id
        (dispatchAnswer d (outcome o), { s with runner := r })
      else
        let (n, seen) := mention s.seen id
        (dispatchAnswer d (.list [n, .text c.label]), ⟨d.runner, s.handles ++ [id], seen⟩)

/-- A request about the run of a handle. -/
def handleRequest (M : Machine) (name : String) (args : List Value) (s : RunDesk) (id : RunId) :
    Value × RunDesk :=
  if name == "wait" then
    let (o, r) := s.runner.wait M id
    (outcome o, { s with runner := r })
  else if name == "wait_timeout" then
    let (o, r) := s.runner.waitFor M id (ofMillis (asNat (arg args 1)))
    (optOutcome o, { s with runner := r })
  else if name == "finished" then
    (.list [.bool (s.runner.isOver id), optOutcome (s.runner.outcome? id)], s)
  else if name == "kill_handle" then
    let (o, r) := s.runner.killRun M id
    (outcome o, { s with runner := r })
  else (.null, { s with runner := s.runner.insert M id })

/-- The requests that are about the run of a handle. -/
def handleRequests : List String := ["wait", "wait_timeout", "finished", "kill_handle", "insert"]

/-- What the running table says about a label. -/
def runningAnswer (s : RunDesk) (name : String) : Value × RunDesk :=
  let t := s.runner.table
  let (got, seen) := match t.get? name with
    | none => (.null, s.seen)
    | some id => mention s.seen id
  (obj [("names", .texts t.keys), ("len", num t.keys.length), ("empty", .bool t.keys.isEmpty),
    ("query", .bool (t.contains name)), ("got", got)], { s with seen := seen })

/-- A request about runs. -/
def runsRequest (M : Machine) (name : String) (args : List Value) (s : RunDesk) :
    Value × RunDesk :=
  let a := arg args 0
  let label := asText a
  if handleRequests.contains name then
    match s.handles[asNat a]? with
    | none => (badInput "no such run", s)
    | some id => handleRequest M name args s id
  else if name == "run" then runRequest M true args s
  else if name == "dispatch" then runRequest M false args s
  else if name == "env" then
    let env := asTextTable a
    (textTable env, { s with runner := { s.runner with env := env } })
  else if name == "kill" then
    let (o, r) := s.runner.kill M label
    (optOutcome o, { s with runner := r })
  else if name == "kill_all" then (.null, { s with runner := s.runner.killAll M })
  else if name == "running" then runningAnswer s label
  else if name == "sinks" then (.texts s.runner.sinks.names, s)
  else if name == "sink" then (sinkLines s.runner.sinks label, s)
  else if name == "sink_by_stream" then
    (Value.ofOption linesByStream (s.runner.sinks.get? label), s)
  else if name == "events" then
    let (es, r) := s.runner.drain
    let (vs, seen) := runEvents s.seen es
    (.list vs, { s with runner := r, seen := seen })
  else if name == "sink_events" then
    let (es, sinks) := s.runner.sinks.drain
    (.list (es.map sinkEvent), { s with runner := { s.runner with sinks := sinks } })
  else (.null, s)

end Service
end CodeDesk
