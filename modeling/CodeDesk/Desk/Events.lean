import CodeDesk.Command.Runner
import CodeDesk.Debug.Controller

/-!
# Events of a desk

What a desk tells comes from three sources, each with a channel of its own:
the output of commands, the runs, and the debugger. A reader takes them in
batches. While a batch is gathered the sources may go on, so gathering
proceeds by single receives: it empties one channel after the other and
never goes back. A reader that waits takes the first event from whichever
source has one, and sorts the batch by source in the end, so that in every
batch output comes before runs, and runs before the debugger.

Sends may fall between any two receives. A `Reader` has a history of sends
and of the receives of its batches, in any order; an `EventQueue` is a reader
whose sources may be closed, and a closed source ends a wait for it.
-/

namespace CodeDesk

/-- Something a desk tells. -/
inductive DeskEvent where
  /-- A sink has changed. -/
  | output (e : Command.SinkEvent)
  /-- A run was started or is over. -/
  | run (e : Command.RunEvent)
  /-- The view of the debugger has changed. -/
  | debug (e : Debug.Event)
  deriving DecidableEq, Repr, Inhabited

/-- Where an event comes from. -/
inductive EventSource where
  /-- The output of commands. -/
  | output
  /-- The runs. -/
  | run
  /-- The debugger. -/
  | debug
  deriving DecidableEq, Repr, Inhabited

/-- The place of a source in a batch. -/
def EventSource.rank : EventSource → Nat
  | output => 0
  | run => 1
  | debug => 2

/-- The source after this one. -/
def EventSource.next? : EventSource → Option EventSource
  | output => some run
  | run => some debug
  | debug => none

/-- Where an event comes from. -/
def DeskEvent.source : DeskEvent → EventSource
  | output _ => .output
  | run _ => .run
  | debug _ => .debug

/-- The events that were sent and that nobody has received yet. -/
structure Channels where
  /-- Those of the sinks. -/
  output : List Command.SinkEvent
  /-- Those of the runs. -/
  runs : List Command.RunEvent
  /-- Those of the debugger. -/
  debug : List Debug.Event
  deriving DecidableEq, Repr, Inhabited

/-- A batch while it is gathered. -/
structure Gathering where
  /-- What was received so far. -/
  taken : List DeskEvent
  /-- The source whose channel is being emptied, if any is left. -/
  source : Option EventSource
  deriving DecidableEq, Repr, Inhabited

namespace Channels

/-- Channels on which nothing was sent. -/
def empty : Channels := ⟨[], [], []⟩

/-- How many events there are. -/
def size (c : Channels) : Nat := c.output.length + c.runs.length + c.debug.length

/-- Send an event. -/
def send (c : Channels) : DeskEvent → Channels
  | .output e => { c with output := c.output ++ [e] }
  | .run e => { c with runs := c.runs ++ [e] }
  | .debug e => { c with debug := c.debug ++ [e] }

/-- Receive the first event of a source, if there is one. -/
def receive? (c : Channels) : EventSource → Option (DeskEvent × Channels)
  | .output =>
    match c.output with
    | [] => none
    | e :: es => some (.output e, { c with output := es })
  | .run =>
    match c.runs with
    | [] => none
    | e :: es => some (.run e, { c with runs := es })
  | .debug =>
    match c.debug with
    | [] => none
    | e :: es => some (.debug e, { c with debug := es })

end Channels

namespace Gathering

/-- Receive one more event, or turn to the next source. -/
def step (g : Gathering) (c : Channels) : Gathering × Channels :=
  match g.source with
  | none => (g, c)
  | some s =>
    match c.receive? s with
    | some (e, c) => ({ g with taken := g.taken ++ [e] }, c)
    | none => ({ g with source := s.next? }, c)

/-- Several steps, while nothing is sent. -/
def steps : Nat → Gathering → Channels → Gathering × Channels
  | 0, g, c => (g, c)
  | n + 1, g, c =>
    let (g, c) := g.step c
    steps n g c

end Gathering

namespace Channels

/-- Receive everything there is, after what was taken before. There is one
step for each event and one for each source. -/
def gather (c : Channels) (taken : List DeskEvent) : List DeskEvent × Channels :=
  let (g, c) := Gathering.steps (c.size + 3) ⟨taken, some .output⟩ c
  (g.taken, c)

/-- Receive everything there is. -/
def drain (c : Channels) : List DeskEvent × Channels := c.gather []

/-- A batch in the order of the sources; each source keeps its own order. -/
def sort (es : List DeskEvent) : List DeskEvent :=
  es.mergeSort fun a b => decide (a.source.rank ≤ b.source.rank)

/-- The first source that has an event. -/
def ready? (c : Channels) : Option EventSource :=
  [EventSource.output, .run, .debug].find? fun s => (c.receive? s).isSome

/-- Receive an event of a source and then everything else there is; `none`
if the source has no event. -/
def wait? (c : Channels) (first : EventSource) : Option (List DeskEvent × Channels) :=
  match c.receive? first with
  | none => none
  | some (e, c) =>
    let (es, c) := c.gather [e]
    some (sort es, c)

end Channels

/-! ## While events are sent -/

/-- One action of a sender or of the reader. -/
inductive ReaderAction where
  /-- An event is sent, by a run or by something else. -/
  | send (sender : Option Command.RunId) (e : DeskEvent)
  /-- The reader starts to take what there is. -/
  | drain
  /-- The reader, which has waited, takes the first event of a source. -/
  | wait (first : EventSource)
  /-- The reader receives one event or turns to the next source. -/
  | receive
  deriving Inhabited

/-- A reader between two actions. -/
structure Reader where
  /-- The events that were sent and not received. -/
  channels : Channels
  /-- The batch that is gathered, if one is. -/
  gathering : Option Gathering
  /-- Whether that batch will be sorted. -/
  sorts : Bool
  /-- The batches that were returned. -/
  batches : List (List DeskEvent)
  deriving Inhabited

namespace Reader

/-- A reader before anything was sent. -/
def start : Reader := ⟨.empty, none, false, []⟩

/-- Turn to a source, or return the batch if none is left. -/
def proceed (q : Reader) (g : Gathering) (c : Channels) : Reader :=
  match g.source with
  | some _ => { q with channels := c, gathering := some g }
  | none =>
    ⟨c, none, false, q.batches ++ [if q.sorts then Channels.sort g.taken else g.taken]⟩

/-- The reader after an action. A batch is started only when none is
gathered, and `wait` only when the source has an event. -/
def step (q : Reader) : ReaderAction → Reader
  | .send _ e => { q with channels := q.channels.send e }
  | .drain =>
    match q.gathering with
    | none => { q with gathering := some ⟨[], some .output⟩, sorts := false }
    | some _ => q
  | .wait first =>
    match q.gathering, q.channels.receive? first with
    | none, some (e, c) =>
      { q with channels := c, gathering := some ⟨[e], some .output⟩, sorts := true }
    | _, _ => q
  | .receive =>
    match q.gathering with
    | none => q
    | some g => q.proceed (g.step q.channels).1 (g.step q.channels).2

/-- Begin a batch that will be sorted with nothing, if none is gathered. -/
def wake (q : Reader) : Reader :=
  match q.gathering with
  | none => { q with gathering := some ⟨[], some .output⟩, sorts := true }
  | some _ => q

/-- The reader after a history. -/
def run (h : List ReaderAction) : Reader := h.foldl step start

/-- All that was returned. -/
def returned (q : Reader) : List DeskEvent := q.batches.flatten

/-- What was taken for the batch that is gathered. -/
def taken (q : Reader) : List DeskEvent :=
  match q.gathering with
  | some g => g.taken
  | none => []

/-- The source that the reader is at. -/
def source? (q : Reader) : Option EventSource := q.gathering.bind (·.source)

end Reader

/-- One action of a producer or of the consumer. -/
inductive QueueAction where
  /-- A producer sends an event. -/
  | send (e : DeskEvent)
  /-- A source is closed: nobody can send on it any more. -/
  | close (s : EventSource)
  /-- The consumer starts to take what there is. -/
  | drain
  /-- A source that is ready ends a wait of the consumer. -/
  | wait (first : EventSource)
  /-- The consumer receives one event or turns to the next source. -/
  | receive
  deriving Inhabited

/-- A queue, with its consumer and its producers, between two actions. -/
structure EventQueue extends Reader where
  /-- The sources that are closed. -/
  closed : List EventSource
  deriving Inhabited

namespace EventQueue

/-- A queue on which nothing was sent. -/
def start : EventQueue := ⟨Reader.start, []⟩

/-- The queue after an action. As long as its source is not ready, a wait
goes on; one that a closed source ends begins with nothing. -/
def step (q : EventQueue) : QueueAction → EventQueue
  | .send e =>
    if e.source ∈ q.closed then q else { q with toReader := q.toReader.step (.send none e) }
  | .close s => { q with closed := s :: q.closed }
  | .drain => { q with toReader := q.toReader.step .drain }
  | .wait first =>
    match q.channels.receive? first with
    | some _ => { q with toReader := q.toReader.step (.wait first) }
    | none => if first ∈ q.closed then { q with toReader := q.toReader.wake } else q
  | .receive => { q with toReader := q.toReader.step .receive }

/-- The queue after a history. -/
def run (h : List QueueAction) : EventQueue := h.foldl step start

end EventQueue
end CodeDesk
