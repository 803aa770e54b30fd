import CodeDesk.Debug.Adapter

/-!
# Scripted debuggers

A debugger that has no program: it answers from a script, which says what
the states are that the program goes through, and records what it was
asked. A script may also name errors that stand in for answers; such a
request does not reach the rest of the script.
-/

namespace CodeDesk
namespace Debug

/-- What follows a request to run on. -/
inductive Passage where
  /-- These states, and then the stream ends. -/
  | states (ss : List State)
  /-- These states, and the stream ends when the program is stopped. -/
  | untilStopped (ss : List State)
  deriving DecidableEq, Repr, Inhabited

/-- The states of a passage. -/
def Passage.list : Passage → List State
  | states ss => ss
  | untilStopped ss => ss

/-- Whether the stream of a passage stays open. -/
def Passage.staysOpen : Passage → Bool
  | states _ => false
  | untilStopped _ => true

/-- A stream of states. -/
structure Stream where
  /-- The last state. -/
  last : Option State
  /-- Whether more states may come. -/
  isOpen : Bool
  deriving DecidableEq, Repr, Inhabited

/-- A script with the state of the program and the record of requests. -/
structure Script where
  /-- The requests that were answered. -/
  calls : List Call
  /-- The errors that stand in for answers, by the word for the
  request. -/
  faults : List (String × AdapterError)
  /-- What follows each request to run on. -/
  passages : List Passage
  /-- What each step leads to. -/
  steps : List (Except AdapterError State)
  /-- The details of the program. -/
  details : Details
  /-- The details as a frame sees them, where they differ. -/
  frameDetails : List (Nat × Details)
  /-- The global variables. -/
  globals : List Variable
  /-- The breakpoints of the debugger. -/
  breaks : List Break
  /-- The lines on which breakpoints are not possible, with those on which
  they are set instead. -/
  movedLines : List (Nat × Nat)
  /-- Whether the program has tasks. -/
  hasTasks : Bool
  /-- The error of the next start. -/
  failStart : Option AdapterError
  /-- The state of the program. -/
  state : State
  /-- The last number given to a breakpoint. -/
  lastId : Nat
  /-- Every stream there was. -/
  streams : List Stream
  /-- Whether a session was ever started. -/
  started : Bool
  deriving Inhabited

namespace Script

/-- The script that says nothing. -/
def blank : Script :=
  ⟨[], [], [], [], Details.unknown, [], [], [], [], false, none, State.initial, 0, [], false⟩

/-- What a program does without a script: it ends. -/
def defaultPassage : Passage := .states [{ State.initial with exited := true }]

/-- The first error for a word, and the errors without it. -/
def takeFault (word : String) :
    List (String × AdapterError) → Option (AdapterError × List (String × AdapterError))
  | [] => none
  | f :: fs =>
    if f.1 == word then some (f.2, fs)
    else (takeFault word fs).map fun r => (r.1, f :: r.2)

/-- Record a request. -/
def record (s : Script) (c : Call) : Script := { s with calls := s.calls ++ [c] }

/-- Receive the record. -/
def takeCalls (s : Script) : List Call × Script := (s.calls, { s with calls := [] })

/-- End the open stream, with another state if there is one. -/
def closeStreams (s : Script) (last : Option State) : Script :=
  { s with streams := s.streams.map fun t =>
      if t.isOpen then ⟨last.or t.last, false⟩ else t }

/-- Run on. -/
def resume (s : Script) : Nat × Script :=
  let p := (s.passages.head?).getD defaultPassage
  let state := (p.list.getLast?).getD s.state
  let s := if p.staysOpen then s.closeStreams none else s
  (s.streams.length,
    { s with
      passages := s.passages.tail
      state := state
      streams := s.streams ++ [⟨p.list.getLast?, p.staysOpen⟩] })

/-- Take a step. -/
def step (s : Script) : Except AdapterError State × Script :=
  match s.steps with
  | [] => (.ok s.state, s)
  | .error e :: rest => (.error e, { s with steps := rest })
  | .ok st :: rest => (.ok st, { s with steps := rest, state := st })

/-- Number the breakpoints that have no number. -/
def numberBreaks : (lastId : Nat) → List Break → List Break × Nat
  | n, [] => ([], n)
  | n, b :: bs =>
    if b.id = 0 then
      let (bs, last) := numberBreaks (n + 1) bs
      ({ b with id := n + 1 } :: bs, last)
    else
      let (bs, last) := numberBreaks n bs
      (b :: bs, last)

/-- Where the debugger sets a breakpoint. -/
def settle (moved : List (Nat × Nat)) (b : Break) : Break :=
  match moved.find? fun m => m.1 == b.line with
  | some m => { b with line := m.2 }
  | none => b

/-- The frames of the details at a line. -/
def framesAt (s : Script) (path : Path) (line : Nat) : List Frame :=
  s.details.stack.filter fun f => f.location.path == path && f.location.line == line

/-- The variable of a name. -/
def varNamed? (s : Script) (name : String) : Option Variable :=
  (Variable.find? s.details.vars name).or (Variable.find? s.globals name)

/-- The details as a frame sees them. -/
def detailsAt (s : Script) (frame : Nat) : Details :=
  ((s.frameDetails.find? fun f => f.1 == frame).map Prod.snd).getD s.details

/-- The answer of the script to a request that has been recorded. -/
def perform (s : Script) : (c : Call) → Except AdapterError c.Reply × Script
  | .start l =>
    match s.failStart with
    | some e => (.error e, { s with failStart := none })
    | none => (.ok ["debugging " ++ l.exe.text], { s with state := State.initial, started := true })
  | .restart => (.ok (), { s with state := State.initial })
  | .state => (.ok s.state, s)
  | .resume =>
    let (n, s) := s.resume
    (.ok n, s)
  | .step _ => s.step
  | .stop =>
    let st := s.state.halted
    (.ok st, { s with state := st }.closeStreams (some st))
  | .listBreaks => (.ok s.breaks, s)
  | .updateBreaks bs =>
    let (bs, last) := numberBreaks s.lastId bs
    (.ok bs, { s with lastId := last, breaks := bs.map (settle s.movedLines) })
  | .clearBreak id => (.ok (), { s with breaks := s.breaks.filter fun b => b.id != id })
  | .details st => (if st.running then .error .isRunning else .ok s.details, s)
  | .detailsAt st _ frame =>
    (if st.running then .error .isRunning else .ok (s.detailsAt frame), s)
  | .findFrames _ path line => (.ok (s.framesAt path line), s)
  | .listGlobals filter =>
    (.ok (s.globals.filter fun v => containsChars filter.toList v.name.toList), s)
  | .getVar name _ _ =>
    (match s.varNamed? name with
      | some v => .ok v
      | none => .error (.other ("no variable " ++ name)), s)
  | .detach _ => (.ok (), s.closeStreams none)

/-- The answer of the script to a request. -/
def answer (s : Script) (c : Call) : Except AdapterError c.Reply × Script :=
  match takeFault c.word s.faults with
  | some (e, faults) => (.error e, { s with faults := faults })
  | none => (s.record c).perform c

/-- The last state of a stream that has ended. -/
def ended? (s : Script) (stream : Nat) : Option (Option State) :=
  (s.streams[stream]?).bind fun t => if t.isOpen then none else some t.last

/-- Debuggers that all play one script. -/
def adapters : Adapters Script :=
  ⟨fun _ c s => s.answer c, fun _ s => s.hasTasks, fun n s => s.ended? n⟩

end Script
end Debug
end CodeDesk
