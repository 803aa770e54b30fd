import CodeDesk.Debug.Break
import CodeDesk.Debug.Params
import CodeDesk.Debug.State

/-!
# Debuggers

What a controller may ask of a debugger and what it gets for an answer. A
debugger is anything that answers: `Adapters` holds the answers of all the
sessions that are ever started, over whatever state `σ` they share. A
session is known by its number, and so is the stream of states that
follows a request to run on.
-/

namespace CodeDesk
namespace Debug

/-- Why a debugger does not do what it is asked. -/
inductive AdapterError where
  /-- The program cannot be built. -/
  | build (text : String)
  /-- The debugger itself cannot be started. -/
  | spawn (text : String)
  /-- The program would have to be stopped. -/
  | isRunning
  /-- Another reason. -/
  | other (text : String)
  deriving DecidableEq, Repr, Inhabited

/-- The wording of an error. -/
def AdapterError.message : AdapterError → String
  | build text => "building the debug target failed: " ++ text
  | spawn text => "could not start the debugger: " ++ text
  | isRunning => "program is running"
  | other text => text

/-- What a session is started with. -/
structure Launch where
  /-- The executable. -/
  exe : Path
  /-- The root of the project. -/
  root : Path
  /-- The parameters. -/
  params : Params
  deriving DecidableEq, Repr, Inhabited

/-- How far a step goes. -/
inductive StepKind where
  /-- To the next line of the function. -/
  | line
  /-- Into the next call. -/
  | into
  /-- Out of the function. -/
  | out
  /-- One machine instruction. -/
  | instruction
  deriving DecidableEq, Repr, Inhabited

/-- What a controller asks of a debugger. -/
inductive Call where
  /-- To start a session. -/
  | start (l : Launch)
  /-- To run the program anew without building it. -/
  | restart
  /-- What the state is. -/
  | state
  /-- To run on. -/
  | resume
  /-- To take a step. -/
  | step (k : StepKind)
  /-- To stop the program. -/
  | stop
  /-- What the breakpoints are. -/
  | listBreaks
  /-- To have these breakpoints and no others, and to number the new
  ones. -/
  | updateBreaks (bs : List Break)
  /-- To forget the breakpoint of a number. -/
  | clearBreak (id : Nat)
  /-- The details of a stopped program. -/
  | details (s : State)
  /-- The details as a thread or task and a frame see them. -/
  | detailsAt (s : State) (selector : Selector) (frame : Nat)
  /-- The frames at a line. -/
  | findFrames (s : State) (path : Path) (line : Nat)
  /-- The global variables whose names contain a text. -/
  | listGlobals (filter : String)
  /-- The variable of a name. -/
  | getVar (name : String) (selector : Selector) (frame : Nat)
  /-- To let go of the program, or to kill it. -/
  | detach (kill : Bool)
  deriving DecidableEq, Repr, Inhabited

namespace Call

/-- What a debugger answers to each request. -/
abbrev Reply : Call → Type
  /- The lines it has to say. -/
  | start _ => List String
  | restart => Unit
  | state => State
  /- The number of the stream of states that follows. -/
  | resume => Nat
  | step _ => State
  | stop => State
  | listBreaks => List Break
  /- The breakpoints with their numbers. -/
  | updateBreaks _ => List Break
  | clearBreak _ => Unit
  | details _ => Details
  | detailsAt _ _ _ => Details
  | findFrames _ _ _ => List Frame
  | listGlobals _ => List Variable
  | getVar _ _ _ => Variable
  | detach _ => Unit

/-- The word for a request. -/
def word : Call → String
  | start _ => "start"
  | restart => "restart"
  | state => "state"
  | resume => "continue_execution"
  | step .line => "step_over"
  | step .into => "step_into"
  | step .out => "step_out"
  | step .instruction => "step_single"
  | stop => "stop"
  | listBreaks => "list_breaks"
  | updateBreaks _ => "update_breaks"
  | clearBreak _ => "clear_break"
  | details _ => "init_all_state"
  | detailsAt _ _ _ => "update_all_state"
  | findFrames _ _ _ => "find_frames"
  | listGlobals _ => "list_globals"
  | getVar _ _ _ => "get_var"
  | detach _ => "detach"

end Call

/-- Debuggers over a state that they share. -/
structure Adapters (σ : Type) where
  /-- The answer of a session to a request. -/
  answer : (session : Nat) → (c : Call) → σ → Except AdapterError c.Reply × σ
  /-- Whether the program of a session has tasks. -/
  hasTasks : (session : Nat) → σ → Bool
  /-- The last state of a stream, once the stream has ended; a stream may
  end without a state. -/
  ended? : (stream : Nat) → σ → Option (Option State)

end Debug
end CodeDesk
