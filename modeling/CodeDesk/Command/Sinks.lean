import CodeDesk.Command.Markup
import CodeDesk.Data.Table
import CodeDesk.Text.Lines
import CodeDesk.Text.Utf8

/-!
# Sinks

The output of commands, kept by name for display in tabs. Every change of a
sink is announced by an event, in the order of the changes.

Several threads may change the sinks at once. Adding a line and announcing it
is one step then, but to clear a sink takes two, and another thread may come
between them (`Broadcast`).
-/

namespace CodeDesk
namespace Command

/-- A line of output. -/
structure Line where
  /-- Where it comes from. -/
  stream : Stream
  /-- Its text. -/
  text : String
  /-- Its markup. -/
  markup : String
  deriving DecidableEq, Repr, Inhabited

/-- A change of a sink. -/
inductive SinkEvent where
  /-- A line was added. -/
  | line (sink : String) (l : Line)
  /-- All lines were taken out. -/
  | cleared (sink : String)
  deriving DecidableEq, Repr, Inhabited

/-- The lines of a sink after a change. -/
def SinkEvent.replay (lines : List Line) : SinkEvent → List Line
  | line _ l => lines ++ [l]
  | cleared _ => []

/-- The sinks and the events that nobody has received yet. -/
structure Sinks where
  /-- The lines by the name of their sink. -/
  table : Table String (List Line)
  /-- The events. -/
  events : List SinkEvent
  deriving Inhabited

namespace Sinks

/-- No sinks. -/
def empty : Sinks := ⟨Table.empty, []⟩

/-- The lines of a sink. -/
def get? (s : Sinks) (name : String) : Option (List Line) := s.table.get? name

/-- The names of the sinks in order. -/
def names (s : Sinks) : List String := s.table.keys

/-- The line that a text makes; the line breaks at its end do not
count. -/
def lineOf (stream : Stream) (links : Option Path) (text : String) : Line :=
  let text := trimBreaks text
  ⟨stream, text, Command.markup stream links text⟩

/-- Add a line to a sink. -/
def append (s : Sinks) (name : String) (stream : Stream) (links : Option Path) (text : String) :
    Sinks :=
  match s.get? name with
  | none => s
  | some ls =>
    let l := lineOf stream links text
    ⟨s.table.set name (ls ++ [l]), s.events ++ [.line name l]⟩

/-- Take all lines out of a sink. -/
def clear (s : Sinks) (name : String) : Sinks :=
  match s.get? name with
  | none => s
  | some _ => ⟨s.table.set name [], s.events ++ [.cleared name]⟩

/-- Make sure that a sink is there; one that was there before is cleared if
`clear` is set. -/
def create (s : Sinks) (name : String) (clear : Bool) : Sinks :=
  match s.get? name with
  | some _ => if clear then s.clear name else s
  | none => { s with table := s.table.set name [] }

/-- Take a sink away. -/
def remove (s : Sinks) (name : String) : Sinks := { s with table := s.table.erase name }

/-- Receive the events. -/
def drain (s : Sinks) : List SinkEvent × Sinks := (s.events, { s with events := [] })

/-- The lines that bytes end, and the bytes behind the last of them. -/
def cutLines : (acc : Bytes) → Bytes → List Bytes × Bytes
  | acc, [] => ([], acc.reverse)
  | acc, b :: bs =>
    if b = 10 then
      let (ls, rest) := cutLines [] bs
      ((b :: acc).reverse :: ls, rest)
    else cutLines (b :: acc) bs

/-- Add lines of bytes to a sink. -/
def appendAll (s : Sinks) (name : String) (stream : Stream) (links : Option Path)
    (ls : List Bytes) : Sinks :=
  ls.foldl (fun s l => s.append name stream links (Utf8.decodeLossy l)) s

/-- Add everything a reader gives to a sink. What follows the last line
break is a line unless the reader breaks off. -/
def pump (s : Sinks) (name : String) (stream : Stream) (links : Option Path) (bytes : Bytes)
    (breaksOff : Bool) : Sinks :=
  let (ls, rest) := cutLines [] bytes
  s.appendAll name stream links (if rest.isEmpty || breaksOff then ls else ls ++ [rest])

/-- The text of lines. -/
def textOf (ls : List Line) : String := unlines (ls.map (·.text))

/-- The markup of lines. -/
def markupOf (ls : List Line) : String := unlines (ls.map (·.markup))

end Sinks

/-! ## Several threads -/

/-- An entry of the record of a broadcast. -/
inductive Entry where
  /-- A line was added to a sink and announced. -/
  | added (name : String) (l : Line)
  /-- A sink without lines is there: it was made, or its lines were taken
  out. -/
  | fresh (name : String)
  /-- It was announced that all lines of a sink were taken out. -/
  | announced (name : String)
  deriving DecidableEq

/-- The sinks with their receiver, in the middle of the calls of several
threads. -/
structure Broadcast where
  /-- The sinks with the events that were not received yet. -/
  sinks : Sinks
  /-- The sinks of the clearings that have taken out the lines and are yet to
  be announced. -/
  clearing : List String
  /-- The events that were received. -/
  heard : List SinkEvent
  /-- The record. -/
  log : List Entry

namespace Broadcast

/-- A step of some thread. -/
inductive Act where
  /-- A sink is made unless it is there. -/
  | make (name : String)
  /-- A line is added to a sink and announced. -/
  | append (name : String) (stream : Stream) (links : Option Path) (text : String)
  /-- The first step of a clearing: the lines are taken out. -/
  | empty (name : String)
  /-- The second step of a clearing: it is announced. -/
  | announce (name : String)
  /-- A sink is taken away; what it is written to under its name, it is no
  more. -/
  | remove (name : String)
  /-- The events are received. -/
  | receive

/-- The state after a step. -/
def act (b : Broadcast) : Act → Broadcast
  | .make name =>
    match b.sinks.get? name with
    | some _ => b
    | none => { b with sinks := b.sinks.create name false, log := b.log ++ [.fresh name] }
  | .append name stream links text =>
    match b.sinks.get? name with
    | some _ =>
      { b with
        sinks := b.sinks.append name stream links text
        log := b.log ++ [.added name (Sinks.lineOf stream links text)] }
    | none => b
  | .empty name =>
    match b.sinks.get? name with
    | some _ =>
      { b with
        sinks := { b.sinks with table := b.sinks.table.set name [] }
        clearing := name :: b.clearing
        log := b.log ++ [.fresh name] }
    | none => b
  | .announce name =>
    if name ∈ b.clearing then
      { b with
        sinks := { b.sinks with events := b.sinks.events ++ [.cleared name] }
        clearing := b.clearing.erase name
        log := b.log ++ [.announced name] }
    else b
  | .remove name => { b with sinks := b.sinks.remove name }
  | .receive => { b with sinks := b.sinks.drain.2, heard := b.heard ++ b.sinks.drain.1 }

/-- No sinks. -/
def start : Broadcast := ⟨Sinks.empty, [], [], []⟩

/-- The state after the steps of a history. -/
def after (acts : List Act) : Broadcast := acts.foldl act start

/-- The events in the order in which the receiver has them once it has
received all. -/
def told (b : Broadcast) : List SinkEvent := b.heard ++ b.sinks.events

end Broadcast
end Command
end CodeDesk
