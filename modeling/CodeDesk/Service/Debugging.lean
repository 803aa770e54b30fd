import CodeDesk.Debug.Controller
import CodeDesk.Debug.Script
import CodeDesk.Service.Commands

/-!
# Requests about debugging

What a front end asks of the controller of debug sessions. The debugger is
one that plays a script: the front end says beforehand what it will report
and which of its answers will be errors, and every answer to the front end
carries the calls that the script has received since the last one.
-/

namespace CodeDesk
namespace Service

/-- A line of source code. -/
def asSourceLine (v : Value) : Debug.SourceLine :=
  let xs := asList v
  ⟨asPath (arg xs 0), asNat (arg xs 1), asText (arg xs 2)⟩

/-- A line of source code. -/
def sourceLine (l : Debug.SourceLine) : Value := .list [path l.path, num l.line, .text l.func]

/-- A frame. -/
def asFrame (v : Value) : Debug.Frame :=
  let xs := asList v
  ⟨asNat (arg xs 0), asNat (arg xs 1), asSourceLine (arg xs 2)⟩

/-- A frame. -/
def frame (f : Debug.Frame) : Value := .list [num f.depth, num f.thread, sourceLine f.location]

/-- A thread. -/
def asThread (v : Value) : Debug.Thread :=
  let xs := asList v
  ⟨asNat (arg xs 0), asText (arg xs 1), asSourceLine (arg xs 2)⟩

/-- A thread. -/
def thread (t : Debug.Thread) : Value := .list [num t.id, .text t.name, sourceLine t.location]

/-- A task. -/
def asTask (v : Value) : Debug.Task :=
  let xs := asList v
  ⟨asNat (arg xs 0), asNat (arg xs 1), asSourceLine (arg xs 2)⟩

/-- A task. -/
def task (t : Debug.Task) : Value := .list [num t.id, num t.thread, sourceLine t.location]

mutual

/-- The variable of a list of its name, its type, its value and its
parts. -/
def asVariable : Value → Debug.Variable
  | .list (n :: t :: v :: .list cs :: _) => .mk (asText n) (asText t) (asText v) (asVariables cs)
  | v =>
    let xs := asList v
    .mk (asText (arg xs 0)) (asText (arg xs 1)) (asText (arg xs 2)) []

/-- The variables of a list. -/
def asVariables : List Value → List Debug.Variable
  | [] => []
  | v :: vs => asVariable v :: asVariables vs

end

mutual

/-- A variable with its parts. -/
def variableWith : Debug.Variable → Value
  | .mk name typeName value children =>
    .list [.text name, .text typeName, .text value, .list (variableList children)]

/-- Variables with their parts. -/
def variableList : List Debug.Variable → List Value
  | [] => []
  | v :: vs => variableWith v :: variableList vs

end

/-- Variables. -/
def listedVariables (vs : List Debug.Variable) : Value := .list (vs.map variableWith)

/-- A state of execution. -/
def asState (v : Value) : Debug.State :=
  ⟨asBool (field v "running"), asBool (field v "exited"), asBool (field v "next_up"),
    ((field v "exit_status").int? 32).getD 0, asNat (field v "cur_break"),
    (given v "location").map asSourceLine, asNat (field v "thread"), asNat (field v "task")⟩

/-- A state of execution. -/
def state (s : Debug.State) : Value :=
  obj [("running", .bool s.running), ("exited", .bool s.exited), ("next_up", .bool s.nextUp),
    ("exit_status", .int s.exitStatus), ("cur_break", num s.curBreak),
    ("location", Value.ofOption sourceLine s.location), ("thread", num s.thread),
    ("task", num s.task)]

/-- The details of a program. -/
def asDetails (v : Value) : Debug.Details :=
  ⟨(listAt v "stack").map asFrame, (listAt v "threads").map asThread,
    (listAt v "tasks").map asTask, (listAt v "vars").map asVariable⟩

/-- A thread or task. -/
def selector : Debug.Selector → Value
  | .thread id => .list [.text "Thread", num id]
  | .task id => .list [.text "Task", num id]

/-- The error of a debugger. -/
def asAdapterError (v : Value) : Debug.AdapterError :=
  let xs := asList v
  let kind := asText (arg xs 0)
  let text := asText (arg xs 1)
  if kind == "Build" then .build text
  else if kind == "Spawn" then .spawn text
  else if kind == "IsRunning" then .isRunning
  else .other text

/-- The status of a name. -/
def statusNamed? (name : String) : Option Debug.Status :=
  Debug.Status.all.find? fun s => s.name == name

/-- Breakpoints. -/
def breaks (bs : List Debug.Break) : Value := .list (bs.map Debug.Break.toValue)

/-- Change a script. -/
def editScript (v : Value) (s : Debug.Script) : Debug.Script :=
  let s := match v.get? "all_state" with
    | some d => { s with details := asDetails d }
    | none => s
  let s := match v.get? "frame_states" with
    | some (.map ms) =>
      { s with frameDetails := ms.map fun (m : String × Value) =>
          ((word? m.1.toList).getD 0, asDetails m.2) }
    | _ => s
  let s := match v.get? "globals" with
    | some g => { s with globals := (asList g).map asVariable }
    | none => s
  let s := match v.get? "has_tasks" with
    | some b => { s with hasTasks := asBool b }
    | none => s
  let s := match v.get? "moved_lines" with
    | some (.map ms) => { s with movedLines := ms.map fun (m : String × Value) =>
        ((word? m.1.toList).getD 0, asNat m.2) }
    | _ => s
  let s := match v.get? "fail_start" with
    | some e => { s with failStart := some (asAdapterError e) }
    | none => s
  let s := match v.get? "state" with
    | some st => { s with state := asState st }
    | none => s
  let s := match v.get? "breaks" with
    | some bs => { s with breaks := (asList bs).filterMap Debug.Break.ofValue? }
    | none => s
  let steps := (listAt v "steps").map fun x =>
    match x.get? "err" with
    | some e => Except.error (asAdapterError e)
    | none => Except.ok (asState x)
  let passages := (listAt v "continues").map fun x =>
    match x.get? "until_stopped" with
    | some ss => Debug.Passage.untilStopped ((asList ss).map asState)
    | none => Debug.Passage.states ((listAt x "states").map asState)
  let faults := match v.get? "fail" with
    | some (.map ms) => ms.flatMap fun (m : String × Value) =>
        (asList m.2).map fun e => (m.1, asAdapterError e)
    | _ => []
  { s with
    steps := s.steps ++ steps
    passages := s.passages ++ passages
    faults := s.faults ++ faults }

/-- A request to a debugger. -/
def call : Debug.Call → Value
  | .start l => .list [.text "Start", .text l.params.mode.keyword]
  | .restart => .list [.text "Restart"]
  | .state => .list [.text "State"]
  | .resume => .list [.text "Continue"]
  | .step .line => .list [.text "StepOver"]
  | .step .into => .list [.text "StepInto"]
  | .step .out => .list [.text "StepOut"]
  | .step .instruction => .list [.text "StepSingle"]
  | .stop => .list [.text "Stop"]
  | .listBreaks => .list [.text "ListBreaks"]
  | .updateBreaks bs => .list [.text "UpdateBreaks", breaks bs]
  | .clearBreak id => .list [.text "ClearBreak", num id]
  | .details _ => .list [.text "InitAllState"]
  | .detailsAt _ s f => .list [.text "UpdateAllState", selector s, num f]
  | .findFrames _ p l => .list [.text "FindFrames", path p, num l]
  | .listGlobals f => .list [.text "ListGlobals", .text f]
  | .getVar n _ _ => .list [.text "GetVar", .text n]
  | .detach k => .list [.text "Detach", .bool k]

/-- A change of the view. -/
def debugEvent : Debug.Event → Value
  | .status s => .list [.text "Status", .text s.name]
  | .refresh => .list [.text "Refresh"]

/-- The word for a mark. -/
def markName : Debug.Mark → String
  | .inactive => "Inactive"
  | .active => "Active"
  | .current => "Current"
  | .counter => "CurrentPC"

/-- The marked lines. -/
def marked (m : Debug.Marks) : Value :=
  .list (m.toList.map fun e => .list [path e.1.path, num e.1.line, .text (markName e.2)])

/-- A controller of scripted debuggers. -/
abbrev Bench := Debug.Controller Debug.Script

/-- The view. -/
def debugView (c : Bench) : Value :=
  let v := c.view
  obj
    [("mode", .text v.mode.keyword), ("status", .text v.status.name), ("breaks", breaks v.breaks),
     ("cur_break", num v.curBreak), ("state", state v.state), ("stack", .list (v.stack.map frame)),
     ("threads", .list (v.threads.map thread)), ("tasks", .list (v.tasks.map task)),
     ("vars", listedVariables v.vars), ("globals", listedVariables v.globals),
     ("find_frames", .list (v.foundFrames.map frame)), ("selector", selector v.selector),
     ("frame", num v.frame), ("shown", Value.ofOption sourceLine v.shown),
     ("inspected", Value.ofOption variableWith v.inspected), ("message", .text v.message),
     ("active", .bool c.isActive), ("avail", .bool c.isAvailable), ("can_step", .bool c.canStep)]

/-- The requests to the debugger since the last answer. -/
def takeCalls (c : Bench) : Value × Bench :=
  let (calls, w) := c.world.takeCalls
  (.list (calls.map call), { c with world := w })

/-- Let the debugger report a status by itself. -/
def fireStatus (c : Bench) (name message : String) : Bench :=
  match statusNamed? name with
  | some s => if c.world.started then c.report s message else c
  | none => c

/-- An hour. -/
def hour : Stamp := 3600 * 1000000000

/-- A request to the controller at the time `now`. -/
def debugOperation (S : Debug.Setup Debug.Script) (now : Stamp) (name : String)
    (args : List Value) (c : Bench) (sinks : Command.Sinks) : Value × Bench × Command.Sinks :=
  let a := arg args 0
  let b := arg args 1
  let yes (r : Bool × Bench) : Value × Bench × Command.Sinks := (.bool r.1, r.2, sinks)
  if name == "start" then
    let latest := if asText (arg args 3) == "new" then now + hour else 0
    match Debug.Params.ofValue? Value.isNull (arg args 2) with
    | none => (jsonError, c, sinks)
    | some p =>
      let (r, c, sinks) := c.start S sinks ⟨asPath a, asPath b, p⟩ latest now
      match r with
      | .ok _ => (.null, c, sinks)
      | .error e =>
        (obj [("error", .text "Start"), ("message", .text "starting the debug session failed"),
          ("source", .text e.message)], c, sinks)
  else if name == "detach" then (.null, c.detach S, sinks)
  else if name == "continue" then
    match c.resume S with
    | (none, c) => (.text "refused", c, sinks)
    | (some w, c) =>
      let c := c.settle S
      (.text (if c.isAtWork w then "running" else "ended"), c, sinks)
  else if name == "step_over" then yes (c.step S .line)
  else if name == "step_into" then yes (c.step S .into)
  else if name == "step_out" then yes (c.step S .out)
  else if name == "step_instruction" then yes (c.step S .instruction)
  else if name == "stop" then yes (c.stop S)
  else if name == "add_break" then (.null, c.addBreak S (asPath a) (asNat b), sinks)
  else if name == "delete_break" then yes (c.deleteBreak S (asPath a) (asNat b))
  else if name == "toggle_break" then
    let (r, c) := c.toggleBreak S (asPath a) (asNat b)
    (Value.ofOption Value.bool r, c, sinks)
  else if name == "set_frame" then yes (c.setFrame S (asNat a))
  else if name == "set_thread" then yes (c.setThread S (asNat a))
  else if name == "find_frames" then
    let (fs, c) := c.findFrames S (asPath a) (asNat b)
    (.list (fs.map frame), c, sinks)
  else if name == "list_globals" then
    let (vs, c) := c.listGlobals S (asText a)
    (listedVariables vs, c, sinks)
  else if name == "show_var" then
    let (v, c) := c.showVar S (asText a)
    (Value.ofOption variableWith v, c, sinks)
  else if name == "var_value" then
    let (v, c) := c.varValue S (asText a)
    (optText v, c, sinks)
  else if name == "fire" then (.null, fireStatus c (asText a) (asText b), sinks)
  else if name == "debug_fmt" then (.text c.description, c, sinks)
  else (.null, c, sinks)

/-- A request to the controller, with what has happened since the last one. -/
def debuggerRequest (S : Debug.Setup Debug.Script) (now : Stamp) (name : String)
    (args : List Value) (s : Bench × Command.Sinks) : Value × Bench × Command.Sinks :=
  let (c, sinks) := s
  if name == "script" then (.null, { c with world := editScript (arg args 0) c.world }, sinks)
  else if name == "sink" then (sinkLines sinks (asText (arg args 0)), c, sinks)
  else if name == "sinks" then (.texts sinks.names, c, sinks)
  else
    let (r, c, sinks) := debugOperation S now name args c sinks
    if name == "start" && (r.get? "error").any (fun e => asText e == "Json") then (r, c, sinks)
    else
      let c := c.settle S
      let (calls, c) := takeCalls c
      let (events, c) := c.drain
      (obj
        [("r", r), ("calls", calls), ("events", .list (events.map debugEvent)),
         ("marked", marked c.marks), ("view", debugView c)], c, sinks)

end Service
end CodeDesk
