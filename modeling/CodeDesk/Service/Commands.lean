import CodeDesk.Command.Registry
import CodeDesk.Command.Sinks
import CodeDesk.Service.Answer

/-!
# Requests about commands

What a front end asks of the command table and of the sinks. A request
changes the table, or the sinks, and its answer is what the front end shows:
a command with all its fields, the labels of the menu, or the lines of a
sink with their markup.
-/

namespace CodeDesk
namespace Service

/-- The failure of a command. -/
def commandFailure (e : Command.CommandError) : Value :=
  match e with
  | .unknown _ => failure "UnknownCommand" e.message
  | .invalidLabel _ => failure "InvalidLabel" e.message
  | .notConfirmed _ => failure "Confirm" e.message
  | .badTemplate _ => failure "BadTemplate" e.message
  | .noActiveBuffer _ => failure "NoActiveBuffer" e.message

/-- A request about the command table. -/
def registryRequest (name : String) (args : List Value) (s : Command.Registry × Disk) :
    Value × Command.Registry × Disk :=
  let (r, d) := s
  let a := arg args 0
  if name == "get" then
    match r.get (asText a) with
    | .ok c => (c.toValue, r, d)
    | .error e => (commandFailure e, r, d)
  else if name == "insert" then
    match Command.Spec.ofValue? a with
    | some c => (.texts (r.insert c).labels, r.insert c, d)
    | none => (jsonError, r, d)
  else if name == "remove" then
    let (c, r) := r.remove (asText a)
    (Value.ofOption Command.Spec.toValue c, r, d)
  else if name == "menu" then
    (.list ((r.menu a.text? (arg args 1).text?).map fun g =>
      .list [.text g.category, .texts (g.commands.map (·.label))]), r, d)
  else if name == "labels" then
    (obj [("labels", .texts r.labels), ("len", num r.commands.length),
      ("empty", .bool r.commands.isEmpty)], r, d)
  else if name == "dump" then (.list (r.commands.map Command.Spec.toValue), r, d)
  else if name == "save" then (.text r.save, r, d)
  else if name == "load" then
    match Command.Registry.load (content a) with
    | .ok r => (.texts r.labels, r, d)
    | .error e => (reportFailure e.message, r, d)
  else if name == "save_to" then
    match r.saveFile d (asPath a) with
    | .ok d => (.null, r, d)
    | .error e => (reportFailure e.message, r, d)
  else if name == "load_from" then
    match Command.Registry.loadFile d (asPath a) with
    | .ok r => (.texts r.labels, r, d)
    | .error e => (reportFailure e.message, r, d)
  else (.null, r, d)

/-- The word for a stream. -/
def streamName : Command.Stream → String
  | .stdout => "Stdout"
  | .stderr => "Stderr"
  | .status => "Status"

/-- A stream. -/
def asStream (v : Value) : Command.Stream :=
  if asText v == "Stderr" then .stderr else if asText v == "Status" then .status else .stdout

/-- What is left behind a time span with its unit, if characters start with
one. -/
def dropSpan? (cs : List Char) : Option (List Char) :=
  match cs.span fun c => isDigit c || c == '.' with
  | ([], _) => none
  | (_, rest) => ["ns", "µs", "ms", "s"].findSome? fun u => dropLead? u.toList rest

/-- What is left behind one of the phrases that stand before the time of a
run, with the phrase. -/
def dropPhrase? (cs : List Char) : Option (List Char × List Char) :=
  ["successful, took ", "killed after "].findSome? fun p =>
    (dropLead? p.toList cs).map fun rest => (p.toList, rest)

/-- Characters without the times that runs took, after `skip` of them were
dealt with. -/
def untimedChars : (skip : Nat) → List Char → List Char
  | _, [] => []
  | skip + 1, _ :: cs => untimedChars skip cs
  | 0, c :: cs =>
    match dropPhrase? (c :: cs) with
    | some (phrase, rest) =>
      match dropSpan? rest with
      | some tail => phrase ++ "<t>".toList ++ untimedChars (cs.length - tail.length) cs
      | none => c :: untimedChars 0 cs
    | none => c :: untimedChars 0 cs

/-- A text without the times that runs took. -/
def untimed (s : String) : String := String.ofList (untimedChars 0 s.toList)

/-- The text and the markup of a line. -/
def lineTexts (l : Command.Line) : Value × Value :=
  match l.stream with
  | .status => (.text (untimed l.text), .text (untimed l.markup))
  | _ => (.text l.text, .text l.markup)

/-- A line of output. -/
def line (l : Command.Line) : Value :=
  .list [.text (streamName l.stream), (lineTexts l).1, (lineTexts l).2]

/-- A change of a sink. -/
def sinkEvent : Command.SinkEvent → Value
  | .line sink l => .list [.text "Line", .text sink, line l]
  | .cleared sink => .list [.text "Cleared", .text sink]

/-- The lines of a sink, or null. -/
def sinkLines (s : Command.Sinks) (name : String) : Value :=
  Value.ofOption (fun ls => .list (ls.map line)) (s.get? name)

/-- A request about sinks. -/
def sinksRequest (name : String) (args : List Value) (s : Command.Sinks) : Value × Command.Sinks :=
  let sink := asText (arg args 0)
  let links (i : Nat) : Option Path := (arg args i).text?.map Path.mk
  let size (s : Command.Sinks) : Value := num ((s.get? sink).getD []).length
  if name == "names" then (.texts s.names, s)
  else if name == "create" then
    let s := s.create sink (asBool (arg args 1))
    (.list [.text sink, size s], s)
  else if name == "events" then
    let (es, s) := s.drain
    (.list (es.map sinkEvent), s)
  else
    match s.get? sink with
    | none => (.null, s)
    | some ls =>
      if name == "append" then
        let s := s.append sink (asStream (arg args 1)) (links 3) (asText (arg args 2))
        (size s, s)
      else if name == "pump" || name == "pump_err" then
        let s := s.pump sink (asStream (arg args 1)) (links 3) (content (arg args 2))
          (name == "pump_err")
        (size s, s)
      else if name == "clear" then
        let s := s.clear sink
        (size s, s)
      else if name == "dump" then
        (obj
          [("lines", .list (ls.map line)), ("text", .text (Command.Sinks.textOf ls)),
           ("markup", .text (Command.Sinks.markupOf ls)), ("len", num ls.length),
           ("empty", .bool ls.isEmpty)], s)
      else if name == "remove" then (.text (Command.Sinks.textOf ls), s.remove sink)
      else (.null, s)

end Service
end CodeDesk
