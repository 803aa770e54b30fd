import CodeDesk.Files.Disk
import CodeDesk.Machine.Process

/-!
# Live processes

A process that was started, with what it has still to do. It ends by itself
or by a signal, and its output closes when nothing can print any more that
it has started. Between its end and the moment at which somebody waits for
it, it is a process that has ended but is not reaped.
-/

namespace CodeDesk
namespace Command

/-- Something that happens to a process. -/
inductive Happening where
  /-- It does something. -/
  | does (a : Machine.Act)
  /-- It ends. -/
  | exits (e : Machine.Exit)
  /-- Its output closes. -/
  | closes
  deriving DecidableEq, Repr, Inhabited

/-- A process that was started. -/
structure LiveProcess where
  /-- What it has still to do, and when. -/
  acts : List (Stamp × Machine.Act)
  /-- When and how it ends if nothing ends it before. -/
  exits : Option (Stamp × Machine.Exit)
  /-- When its output closes, if ever. -/
  closes : Option Stamp
  /-- How it has ended, if it has. -/
  ended : Option Machine.Exit
  /-- Whether its output has closed. -/
  closed : Bool
  /-- Whether its end was waited for. -/
  reaped : Bool
  /-- What it has printed since the last line break. -/
  out : Bytes
  /-- What it has complained since the last line break. -/
  err : Bytes
  /-- The signals it was sent, the last first. -/
  signals : List Nat
  /-- Whether it goes on when it is asked to end. -/
  endures : Bool
  deriving DecidableEq, Repr, Inhabited

/-- The time it takes to start a program. -/
def startup : Stamp := 1000000

/-- Milliseconds as a time span. -/
def ofMillis (t : Machine.Millis) : Stamp := t * 1000000

/-- The signal that asks a process to end. -/
def terminate : Nat := 15

/-- The signal that ends a process. -/
def forceEnd : Nat := 9

/-- The first of those with the earliest time. -/
def earliest? {α : Type} (xs : List (Stamp × α)) : Option (Stamp × α) :=
  xs.foldl (fun best x =>
    match best with
    | none => some x
    | some b => if x.1 < b.1 then some x else some b) none

namespace LiveProcess

/-- The process that is started at a time. -/
def ofTrace (t : Machine.Trace) (now : Stamp) : LiveProcess where
  acts := t.acts.map fun a => (now + startup + ofMillis a.1, a.2)
  exits := t.exit.map fun e => (now + startup + ofMillis e.1, e.2)
  closes := t.closes.map fun c => now + startup + ofMillis c
  ended := none
  closed := false
  reaped := false
  out := []
  err := []
  signals := []
  endures := t.endures

/-- Whether it has not ended. -/
def isAlive (p : LiveProcess) : Bool := p.ended.isNone

/-- What happens to it next, and when. -/
def next? (p : LiveProcess) : Option (Stamp × Happening) :=
  let act := p.acts.head?.map fun a => (a.1, Happening.does a.2)
  let exit := p.exits.map fun e => (e.1, Happening.exits e.2)
  let close := if p.isAlive || p.closed then none else p.closes.map fun c => (c, Happening.closes)
  earliest? (act.toList ++ exit.toList ++ close.toList)

/-- Send it a signal. It ends, with everything it has started, unless it
goes on when it is asked to end. -/
def signal (p : LiveProcess) (n : Nat) (now : Stamp) : LiveProcess :=
  let p := { p with signals := n :: p.signals }
  if p.endures && n != forceEnd then p
  else { p with acts := [], exits := none, closes := some now, ended := p.ended.or (some (.signal n)) }

/-- Note that an act was done. -/
def shift (p : LiveProcess) : LiveProcess := { p with acts := p.acts.tail }

/-- End it. -/
def finish (p : LiveProcess) (e : Machine.Exit) : LiveProcess :=
  { p with exits := none, ended := some e }

/-- Close its output. -/
def close (p : LiveProcess) : LiveProcess := { p with closed := true }

/-- Wait for it. -/
def reap (p : LiveProcess) : LiveProcess := { p with reaped := true }

/-- What a channel has printed since the last line break. -/
def pending (p : LiveProcess) : Machine.Channel → Bytes
  | .out => p.out
  | .err => p.err

/-- Keep what a channel has printed since the last line break. -/
def keep (p : LiveProcess) (bytes : Bytes) : Machine.Channel → LiveProcess
  | .out => { p with out := bytes }
  | .err => { p with err := bytes }

end LiveProcess
end Command
end CodeDesk
