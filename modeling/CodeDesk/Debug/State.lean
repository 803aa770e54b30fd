import CodeDesk.Files.Path

/-!
# The state of a program under the debugger

What a debugger reports about the program it runs: whether the program
runs, where it stopped, and what its threads, frames and variables are
then.
-/

namespace CodeDesk
namespace Debug

/-- What the user is told about the session. -/
inductive Status where
  /-- There is no session. -/
  | notInit
  /-- The program is being built. -/
  | building
  /-- The program was loaded and has not run yet. -/
  | ready
  /-- The program runs. -/
  | running
  /-- The program was stopped. -/
  | stopped
  /-- The program has come to a breakpoint. -/
  | breakpoint
  /-- The program has ended. -/
  | finished
  /-- The session could not be started. -/
  | error
  deriving DecidableEq, Repr, Inhabited

/-- The status in words. -/
def Status.text : Status → String
  | notInit => "not initialized"
  | building => "building"
  | ready => "ready"
  | running => "running"
  | stopped => "stopped"
  | breakpoint => "at breakpoint"
  | finished => "finished"
  | error => "error"

/-- The name of a status in descriptions of the controller. -/
def Status.name : Status → String
  | notInit => "NotInit"
  | building => "Building"
  | ready => "Ready"
  | running => "Running"
  | stopped => "Stopped"
  | breakpoint => "Breakpoint"
  | finished => "Finished"
  | error => "Error"

/-- Every status. -/
def Status.all : List Status :=
  [notInit, building, ready, running, stopped, breakpoint, finished, error]

/-- A line of source code within a function. -/
structure SourceLine where
  /-- The file. -/
  path : Path
  /-- The line, from one. -/
  line : Nat
  /-- The function. -/
  func : String
  deriving DecidableEq, Repr, Inhabited

/-- The state of execution that a debugger reports. -/
structure State where
  /-- Whether the program runs. -/
  running : Bool
  /-- Whether the program has ended. -/
  exited : Bool
  /-- Whether a step is under way. -/
  nextUp : Bool
  /-- The status the program ended with. -/
  exitStatus : Int
  /-- The number of the breakpoint it came to, or zero. -/
  curBreak : Nat
  /-- Where it is. -/
  location : Option SourceLine
  /-- The thread that it is in. -/
  thread : Nat
  /-- The task that it is in. -/
  task : Nat
  deriving DecidableEq, Repr, Inhabited

namespace State

/-- The state of a program that has not run. -/
def initial : State := ⟨false, false, false, 0, 0, none, 0, 0⟩

/-- Whether the program waits for the user. -/
def isStopped (s : State) : Bool := !s.running && !s.exited

/-- What the user is told about a state. -/
def status (s : State) : Status :=
  if s.running then .running
  else if s.exited then .finished
  else if 0 < s.curBreak then .breakpoint
  else .stopped

/-- The state after the debugger has stopped the program. -/
def halted (s : State) : State := { s with running := false, nextUp := false, curBreak := 0 }

end State

/-- A call on the stack. -/
structure Frame where
  /-- The number of calls above it. -/
  depth : Nat
  /-- Its thread. -/
  thread : Nat
  /-- The line it is at. -/
  location : SourceLine
  deriving DecidableEq, Repr, Inhabited

/-- A thread of the program. -/
structure Thread where
  /-- Its number. -/
  id : Nat
  /-- Its name. -/
  name : String
  /-- The line it is at. -/
  location : SourceLine
  deriving DecidableEq, Repr, Inhabited

/-- A lightweight task that runs on a thread. -/
structure Task where
  /-- Its number. -/
  id : Nat
  /-- Its thread. -/
  thread : Nat
  /-- The line it is at. -/
  location : SourceLine
  deriving DecidableEq, Repr, Inhabited

/-- A variable with its parts. -/
inductive Variable where
  /-- The name, the name of the type, the value and the parts. -/
  | mk (name typeName value : String) (children : List Variable)
  deriving Inhabited

namespace Variable

/-- The name of a variable. -/
def name : Variable → String
  | mk n _ _ _ => n

/-- The name of its type. -/
def typeName : Variable → String
  | mk _ t _ _ => t

/-- Its value in words. -/
def value : Variable → String
  | mk _ _ v _ => v

/-- Its parts. -/
def children : Variable → List Variable
  | mk _ _ _ cs => cs

/-- The first variable of a name. -/
def named? (vars : List Variable) (name : String) : Option Variable :=
  vars.find? fun v => v.name == name

/-- The variable that a list of names leads to, from a variable through its
parts. -/
def descend? (v : Variable) : List String → Option Variable
  | [] => some v
  | n :: ns => (named? v.children n).bind fun c => c.descend? ns

/-- The variable of a path with dots, such as `config.server.name`. -/
def find? (vars : List Variable) (path : String) : Option Variable :=
  match (splitChars '.' path.toList).map String.ofList with
  | [] => none
  | n :: ns => (named? vars n).bind fun v => v.descend? ns

end Variable

/-- Which thread or task is looked at. -/
inductive Selector where
  /-- A thread of a program without tasks. -/
  | thread (id : Nat)
  /-- A task. -/
  | task (id : Nat)
  deriving DecidableEq, Repr, Inhabited

/-- The selector of a number, which is that of a task if the program has
them. -/
def Selector.of (hasTasks : Bool) (id : Nat) : Selector := if hasTasks then .task id else .thread id

/-- The number of a selector. -/
def Selector.id : Selector → Nat
  | thread id => id
  | task id => id

/-- Everything a debugger reports about a stopped program. -/
structure Details where
  /-- The stack of the thread that is looked at. -/
  stack : List Frame
  /-- The threads. -/
  threads : List Thread
  /-- The tasks. -/
  tasks : List Task
  /-- The variables of the frame that is looked at. -/
  vars : List Variable
  deriving Inhabited

/-- Nothing known about a program. -/
def Details.unknown : Details := ⟨[], [], [], []⟩

end Debug
end CodeDesk
