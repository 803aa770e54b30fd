import CodeDesk.Command.Sinks
import CodeDesk.Debug.View
import CodeDesk.Files.Disk

/-!
# The controller of debug sessions

The controller drives one session at a time. It reflects what the debugger
reports into the view, marks lines of source code, and refuses what the
state of the program does not allow. A program that runs on is followed by
a worker, which reports the last state of the run when its stream has
ended; until then the controller may be asked for other things, and the
session may be gone when the worker is done.
-/

namespace CodeDesk
namespace Debug

/-- A change of the view that others are told about. -/
inductive Event where
  /-- The status is this one now. -/
  | status (s : Status)
  /-- The rest of the view has changed. -/
  | refresh
  deriving DecidableEq, Repr, Inhabited

/-- A session. -/
structure Session where
  /-- Its number. -/
  number : Nat
  /-- When it was started. -/
  started : Stamp
  /-- How its program came to run. -/
  mode : Mode
  deriving DecidableEq, Repr, Inhabited

/-- Whether the program of a session is killed when the session ends. -/
def Session.kills (s : Session) : Bool := s.mode != .attach

/-- What follows a program that runs on. -/
structure Worker where
  /-- The number of the session it belongs to. -/
  session : Nat
  /-- The number of the stream it follows. -/
  stream : Nat
  deriving DecidableEq, Repr, Inhabited

/-- What a controller works with. -/
structure Setup (σ : Type) where
  /-- The debuggers. -/
  adapters : Adapters σ
  /-- The home directory of the user. -/
  home : Path

/-- The state of a controller and of the debuggers. -/
structure Controller (σ : Type) where
  /-- The state of the debuggers. -/
  world : σ
  /-- The session there is. -/
  session : Option Session
  /-- How many sessions have been started. -/
  starts : Nat
  /-- The workers that are not done. -/
  workers : List Worker
  /-- What the editor shows. -/
  view : View
  /-- The lines that are marked. -/
  marks : Marks
  /-- The events that nobody has received yet. -/
  events : List Event
  deriving Inhabited

namespace Controller

variable {σ : Type} (S : Setup σ)

/-- A controller without a session. -/
def idle (world : σ) (marks : Marks) : Controller σ :=
  ⟨world, none, 0, [], View.blank, marks, []⟩

/-- The description of a controller. -/
def description (c : Controller σ) : String :=
  "Controller \x7b status: " ++ c.view.status.name ++ ", .. \x7d"

/-- Whether there is a session. -/
def isActive (c : Controller σ) : Bool := c.session.isSome

/-- Whether there is a session whose program does not run. -/
def isAvailable (c : Controller σ) : Bool := c.isActive && c.view.status != .running

/-- Whether the program can take a step. -/
def canStep (c : Controller σ) : Bool := c.isAvailable && !c.view.state.nextUp

/-- Tell of an event. -/
def send (c : Controller σ) (e : Event) : Controller σ := { c with events := c.events ++ [e] }

/-- Change the status and tell of it. -/
def setStatus (c : Controller σ) (s : Status) : Controller σ :=
  { c with view := { c.view with status := s } }.send (.status s)

/-- Ask the debugger of a session. -/
def ask (c : Controller σ) (s : Session) (call : Call) :
    Except AdapterError call.Reply × Controller σ :=
  let (r, w) := S.adapters.answer s.number call c.world
  (r, { c with world := w })

/-- Ask the debugger of a session if `wanted`; an error is no answer. -/
def askIf (c : Controller σ) (wanted : Bool) (s : Session) (call : Call) :
    Option call.Reply × Controller σ :=
  if wanted then
    let (r, c) := c.ask S s call
    (r.toOption, c)
  else (none, c)

/-- Receive the events. -/
def drain (c : Controller σ) : List Event × Controller σ := (c.events, { c with events := [] })

/-! ## Reports -/

/-- Send the breakpoints of the user to the debugger, and take over the
numbers it gives. -/
def pushBreaks (c : Controller σ) (s : Session) : Except AdapterError Unit × Controller σ :=
  match c.ask S s (.updateBreaks c.view.breaks) with
  | (.error e, c) => (.error e, c)
  | (.ok pushed, c) =>
    let view := { c.view with breaks := Break.assignAll S.home c.view.breaks pushed }
    (.ok (), { c with view := view })

/-- Reflect a state that the debugger of a session reports. -/
def applyState (c : Controller σ) (s : Session) (st : State) : Controller σ :=
  let hasTasks := S.adapters.hasTasks s.number c.world
  let (details, c) := c.askIf S st.isStopped s (.details st)
  let (reported, c) := c.askIf S st.isStopped s .listBreaks
  let view := c.view.withState S.home hasTasks st details reported
  let marks := c.marks.follow S.home c.view view
  ({ c with view := view, marks := marks }.send (.status st.status)).send .refresh

/-- Unmark the line that the program is at. -/
def clearShown (c : Controller σ) : Controller σ :=
  match c.view.shown with
  | none => c
  | some l =>
    { c with view := { c.view with shown := none }, marks := c.marks.setAt l.path l.line none }

/-- Begin the view anew. -/
def resetView (c : Controller σ) (mode : Mode) : Controller σ :=
  { c with view := c.view.restarted mode }

/-- A debugger reports a status by itself. -/
def report (c : Controller σ) (status : Status) (message : String) : Controller σ :=
  let view := { c.view with status := status, message := message }
  ({ c with view := view }.send (.status status)).send .refresh

/-! ## Sessions -/

/-- Let the debugger of a session go. -/
def dismiss (c : Controller σ) (s : Session) : Controller σ :=
  (c.ask S s (.detach s.kills)).2

/-- Whether a session cannot be used again for these parameters: it has
another mode, or it was started before the last change, or a process is to
be attached to. -/
def isStale (s : Session) (mode : Mode) (latestChange : Stamp) : Bool :=
  mode == .attach || s.mode != mode || decide (s.started < latestChange)

/-- Run the program of a session anew. -/
def restart (c : Controller σ) (s : Session) (mode : Mode) :
    Except AdapterError Unit × Controller σ :=
  match { c with session := none }.ask S s .restart with
  | (.error e, c) => (.error e, c.setStatus .error)
  | (.ok _, c) =>
    (.ok (), (({ c with session := some s }.clearShown).resetView mode).setStatus .ready)

/-- The name of the sink for the output of a program. -/
def sinkName (exe : Path) : String := "Debug: " ++ exe.fileName?.getD exe.text

/-- Start a session at the time `now`, in place of the one there was. -/
def build (c : Controller σ) (sinks : Command.Sinks) (launch : Launch) (now : Stamp) :
    Except AdapterError Unit × Controller σ × Command.Sinks :=
  let c := match c.session with
    | some old => { c with session := none }.dismiss S old
    | none => c
  let c := c.clearShown.setStatus .building
  let sink := sinkName launch.exe
  let sinks := sinks.create sink true
  let say (sinks : Command.Sinks) (text : String) := sinks.append sink .status none text
  let mode := launch.params.mode
  let s : Session := ⟨c.starts + 1, now, mode⟩
  match c.ask S s (.start launch) with
  | (.error e, c) => (.error e, c.setStatus .error, say sinks e.message)
  | (.ok said, c) =>
    let c := { c with session := some s, starts := c.starts + 1 }
    (.ok (), (c.resetView mode).setStatus .ready, said.foldl say sinks)

/-- Start debugging. A session that is there is used again unless it is
stale. -/
def start (c : Controller σ) (sinks : Command.Sinks) (launch : Launch)
    (latestChange now : Stamp) : Except AdapterError Unit × Controller σ × Command.Sinks :=
  let mode := launch.params.mode
  match c.session with
  | some s =>
    if isStale s mode latestChange then c.build S sinks launch now
    else
      let (r, c) := c.restart S s mode
      (r, c, sinks)
  | none => c.build S sinks launch now

/-- End the session. -/
def detach (c : Controller σ) : Controller σ :=
  match c.session with
  | none => c
  | some s =>
    let wasRunning := c.view.status == .running
    let c := { c with session := none }
    let c := if wasRunning then (c.ask S s .stop).2 else c
    (((c.dismiss S s).clearShown).resetView s.mode).setStatus .notInit

/-! ## Running on -/

/-- Run the program on. The answer is the worker that follows it, if the
program runs. -/
def resume (c : Controller σ) : Option Worker × Controller σ :=
  match c.session with
  | none => (none, c)
  | some s =>
    if !c.isAvailable then (none, c)
    else
      match c.pushBreaks S s with
      | (.error _, c) => (none, c)
      | (.ok _, c) =>
        match c.ask S s .resume with
        | (.error _, c) => (none, c)
        | (.ok stream, c) =>
          let w : Worker := ⟨s.number, stream⟩
          (some w, { c with workers := c.workers ++ [w] }.setStatus .running)

/-- A worker is done with a stream that ended with the state `last`. If its
session is still there, the state is reflected; a stream without a state
leaves it to the debugger to say what the state is. -/
def finish (c : Controller σ) (w : Worker) (last : Option State) : Controller σ :=
  match c.session with
  | none => c
  | some s =>
    if s.number != w.session then c
    else
      match last with
      | some st => c.applyState S s st
      | none =>
        match c.ask S s .state with
        | (.ok st, c) => c.applyState S s st
        | (.error _, c) => c

/-- Let every worker of a list finish whose stream has ended. -/
def settleAll (c : Controller σ) : List Worker → Controller σ
  | [] => c
  | w :: ws =>
    match S.adapters.ended? w.stream c.world with
    | none => settleAll { c with workers := c.workers ++ [w] } ws
    | some last => settleAll (c.finish S w last) ws

/-- Let every worker finish whose stream has ended. -/
def settle (c : Controller σ) : Controller σ := settleAll S { c with workers := [] } c.workers

/-- Whether a worker is still at work. -/
def isAtWork (c : Controller σ) (w : Worker) : Bool := c.workers.contains w

/-- Take a step. -/
def step (c : Controller σ) (k : StepKind) : Bool × Controller σ :=
  match c.session with
  | none => (false, c)
  | some s =>
    if !c.canStep then (false, c)
    else
      match c.pushBreaks S s with
      | (.error _, c) => (false, c)
      | (.ok _, c) =>
        match c.ask S s (.step k) with
        | (.error _, c) => (false, c)
        | (.ok st, c) => (true, c.applyState S s st)

/-- Stop the program. -/
def stop (c : Controller σ) : Bool × Controller σ :=
  match c.session with
  | none => (false, c)
  | some s =>
    match c.ask S s .stop with
    | (.error _, c) => (false, c)
    | (.ok st, c) => (true, c.applyState S s st)

/-! ## Breakpoints -/

/-- Set a breakpoint; the debugger learns of it when the program runs
next. -/
def addBreak (c : Controller σ) (path : Path) (line : Nat) : Controller σ :=
  if c.view.breaks.any fun b => b.isAt S.home path line then c
  else
    let view := { c.view with breaks := c.view.breaks ++ [Break.onLine path line] }
    { c with view := view, marks := c.marks.setAt path line (some .active) }.send .refresh

/-- Take a breakpoint away, from the debugger too if it has given it a
number. -/
def deleteBreak (c : Controller σ) (path : Path) (line : Nat) : Bool × Controller σ :=
  match c.view.breaks.find? fun b => b.isAt S.home path line with
  | none => (false, c)
  | some b =>
    let c := match c.session with
      | some s => if b.id != 0 && c.isAvailable then (c.ask S s (.clearBreak b.id)).2 else c
      | none => c
    let breaks := c.view.breaks.filter fun e => !e.isAt S.home path line
    (true, { c with view := { c.view with breaks := breaks },
                    marks := c.marks.setAt path line none }.send .refresh)

/-- Switch the first breakpoint on a line on or off. -/
def toggleIn (home path : Path) (line : Nat) : List Break → List Break
  | [] => []
  | b :: bs =>
    if b.isAt home path line then { b with enabled := !b.enabled } :: bs
    else b :: toggleIn home path line bs

/-- Switch a breakpoint on or off. The answer is whether it is on. -/
def toggleBreak (c : Controller σ) (path : Path) (line : Nat) : Option Bool × Controller σ :=
  match c.view.breaks.find? fun b => b.isAt S.home path line with
  | none => (none, c)
  | some b =>
    let enabled := !b.enabled
    let view := { c.view with breaks := toggleIn S.home path line c.view.breaks }
    let mark : Mark := if enabled then .active else .inactive
    (some enabled,
      { c with view := view, marks := c.marks.setAt path line (some mark) }.send .refresh)

/-! ## Looking around -/

/-- Ask the debugger of a program that does not run; an error is no
answer. -/
def askStopped (c : Controller σ) (call : Call) : Option call.Reply × Controller σ :=
  match c.session with
  | none => (none, c)
  | some s => c.askIf S c.isAvailable s call

/-- Look at a frame of a thread or task. -/
def select (c : Controller σ) (selector : Selector) (frame : Nat) : Bool × Controller σ :=
  match c.askStopped S (.detailsAt c.view.state selector frame) with
  | (none, c) => (false, c)
  | (some d, c) =>
    let view := { c.view with
      selector := selector
      frame := frame
      stack := d.stack
      vars := d.vars }
    (true, { c with view := view }.send .refresh)

/-- Look at a frame of the thread or task that is looked at. -/
def setFrame (c : Controller σ) (depth : Nat) : Bool × Controller σ :=
  c.select S c.view.selector depth

/-- Look at the top frame of a thread, or of a task if the program has
them. -/
def setThread (c : Controller σ) (id : Nat) : Bool × Controller σ :=
  match c.session with
  | none => (false, c)
  | some s => c.select S (Selector.of (S.adapters.hasTasks s.number c.world) id) 0

/-- Look for the frames at a line. -/
def findFrames (c : Controller σ) (path : Path) (line : Nat) : List Frame × Controller σ :=
  let (frames, c) := c.askStopped S (.findFrames c.view.state path line)
  let frames : List Frame := frames.getD []
  (frames, { c with view := { c.view with foundFrames := frames } }.send .refresh)

/-- Look for global variables. -/
def listGlobals (c : Controller σ) (filter : String) : List Variable × Controller σ :=
  let (globals, c) := c.askStopped S (.listGlobals filter)
  let globals : List Variable := globals.getD []
  (globals, { c with view := { c.view with globals := globals } }.send .refresh)

/-- The variable of a name: one of the frame that is looked at, or else
what the debugger knows. -/
def lookUp (c : Controller σ) (name : String) : Option Variable × Controller σ :=
  match Variable.find? c.view.vars name with
  | some v => (some v, c)
  | none => c.askStopped S (.getVar name c.view.selector c.view.frame)

/-- Show a variable. -/
def showVar (c : Controller σ) (name : String) : Option Variable × Controller σ :=
  match c.lookUp S name with
  | (none, c) => (none, c)
  | (some v, c) =>
    (some v, { c with view := { c.view with inspected := some v } }.send .refresh)

/-- The value of a variable. -/
def varValue (c : Controller σ) (name : String) : Option String × Controller σ :=
  let (v, c) := c.lookUp S name
  (v.map Variable.value, c)

end Controller
end Debug
end CodeDesk
