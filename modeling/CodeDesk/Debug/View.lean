import CodeDesk.Data.Table
import CodeDesk.Debug.Adapter
import CodeDesk.Files.Path

/-!
# The view of a debug session

Everything an editor shows about the session, and how the reports of a
debugger change it. The breakpoints in the view are the user's list; it
outlives the sessions. Marks are the lines of source code that the debugger
marks in their editors; they count lines from zero.
-/

namespace CodeDesk
namespace Debug

/-- Everything an editor shows about a debug session. -/
structure View where
  /-- How the program came to run. -/
  mode : Mode
  /-- What the user is told. -/
  status : Status
  /-- The breakpoints of the user. -/
  breaks : List Break
  /-- The number of the breakpoint the program came to, or zero. -/
  curBreak : Nat
  /-- The state of execution. -/
  state : State
  /-- The stack of the thread that is looked at. -/
  stack : List Frame
  /-- The threads. -/
  threads : List Thread
  /-- The tasks. -/
  tasks : List Task
  /-- The variables of the frame that is looked at. -/
  vars : List Variable
  /-- The global variables that were asked for last. -/
  globals : List Variable
  /-- The frames that were asked for last. -/
  foundFrames : List Frame
  /-- The thread or task that is looked at. -/
  selector : Selector
  /-- The frame that is looked at. -/
  frame : Nat
  /-- The line that is marked as the one the program is at. -/
  shown : Option SourceLine
  /-- The variable that was asked for last. -/
  inspected : Option Variable
  /-- The last message of a debugger. -/
  message : String
  deriving Inhabited

namespace View

/-- The view of a mode and a status with these breakpoints and nothing
else. -/
def fresh (mode : Mode) (status : Status) (breaks : List Break) : View :=
  ⟨mode, status, breaks, 0, State.initial, [], [], [], [], [], [], .thread 0, 0, none, none, ""⟩

/-- The view before the first session. -/
def blank : View := fresh .exec .notInit []

/-- The view at the start of a session. -/
def restarted (v : View) (mode : Mode) : View := fresh mode v.status v.breaks

/-- The view with the details of a program. -/
def withDetails (v : View) (hasTasks : Bool) (d : Details) : View :=
  { v with
    stack := d.stack
    threads := d.threads
    tasks := if hasTasks then d.tasks else []
    vars := d.vars }

/-- The line that a state shows. -/
def lineOf (s : State) : Option SourceLine := if s.isStopped then s.location else none

/-- The view of a state that a debugger reports, with the details and the
breakpoints it reports along with it. -/
def withState (v : View) (home : Path) (hasTasks : Bool) (s : State) (details : Option Details)
    (reported : Option (List Break)) : View :=
  let v := { v with
    status := s.status
    curBreak := s.curBreak
    frame := 0
    selector := Selector.of hasTasks (if hasTasks then s.task else s.thread)
    state := s
    shown := lineOf s }
  let v := match details with
    | some d => v.withDetails hasTasks d
    | none => v
  match reported with
  | some bs => { v with breaks := Break.merge home v.breaks bs }
  | none => v

end View

/-! ## Marks -/

/-- How a line is marked. -/
inductive Mark where
  /-- It has a breakpoint that does not count. -/
  | inactive
  /-- It has a breakpoint. -/
  | active
  /-- The program stopped at its breakpoint. -/
  | current
  /-- The program stopped there without a breakpoint. -/
  | counter
  deriving DecidableEq, Repr, Inhabited

/-- A line of a file, from zero. -/
structure Place where
  /-- The file. -/
  path : Path
  /-- The line, from zero. -/
  line : Nat
  deriving DecidableEq, Repr, Inhabited

/-- Places by path and then by line. -/
instance : Ord Place :=
  ⟨fun a b => (compare a.path b.path).then (compare a.line b.line)⟩

/-- The marked lines, or `hidden` where nobody shows them. -/
inductive Marks where
  /-- Marks go nowhere. -/
  | hidden
  /-- The marks that are shown. -/
  | shown (table : Table Place Mark)
  deriving Inhabited

namespace Marks

/-- No marks on a display. -/
def blank : Marks := shown Table.empty

/-- Mark a line, or take its mark away. -/
def set (m : Marks) (path : Path) (line : Nat) (mark : Option Mark) : Marks :=
  match m, mark with
  | hidden, _ => hidden
  | shown t, some k => shown (t.set ⟨path, line⟩ k)
  | shown t, none => shown (t.erase ⟨path, line⟩)

/-- Mark a line that is counted from one. -/
def setAt (m : Marks) (path : Path) (line : Nat) (mark : Option Mark) : Marks :=
  m.set path (line - 1) mark

/-- The marked lines in order. -/
def toList : Marks → List (Place × Mark)
  | hidden => []
  | shown t => t.entries

end Marks

/-! ## The marks of a view -/

/-- The mark of a breakpoint. -/
def Break.mark (b : Break) : Mark := if b.enabled then .active else .inactive

/-- The mark that the breakpoints give a line. -/
def markAt (home : Path) (breaks : List Break) (path : Path) (line : Nat) : Option Mark :=
  (breaks.find? fun b => b.isAt home path line).map Break.mark

/-- The breakpoints that have moved to another line, as they were and as
they are. -/
def movedBreaks (home : Path) (before after : List Break) : List (Break × Break) :=
  (before.zip after).filter fun p => !p.2.isAt home p.1.path p.1.line

/-- The marks after a breakpoint has moved. -/
def Marks.move (m : Marks) (home : Path) (breaks : List Break) (p : Break × Break) : Marks :=
  (m.setAt p.1.path p.1.line (markAt home breaks p.1.path p.1.line)).setAt p.2.path p.2.line
    (some p.2.mark)

/-- The marks after the view has gone from `before` to `after`. -/
def Marks.follow (m : Marks) (home : Path) (before after : View) : Marks :=
  let m := (movedBreaks home before.breaks after.breaks).foldl
    (fun m p => m.move home after.breaks p) m
  let m := match before.shown with
    | some l => m.setAt l.path l.line (markAt home after.breaks l.path l.line)
    | none => m
  match after.shown with
  | some l =>
    m.setAt l.path l.line (some (if after.status = .breakpoint then .current else .counter))
  | none => m

end Debug
end CodeDesk
