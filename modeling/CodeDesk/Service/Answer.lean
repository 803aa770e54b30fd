import CodeDesk.Data.Json.Parser
import CodeDesk.Document.Language
import CodeDesk.Find.Request
import CodeDesk.Text.Utf8

/-!
# Requests and answers

A front end that runs elsewhere talks to the desk in documents. It sends
requests, each a name with arguments, and gets answers. What a request
leaves out, or gives in another shape than expected, counts as empty. An
answer is a value, or a failure with its kind and, where the wording is
the desk's own, its wording.
-/

namespace CodeDesk
namespace Service

/-- A failure of a kind with its wording. -/
def failure (kind message : String) : Value :=
  .map [("error", .text kind), ("message", .text message)]

/-- A failure of a kind whose wording is not the desk's own. -/
def silent (kind : String) : Value := .map [("error", .text kind)]

/-- The failure of a document that does not have the expected shape. -/
def jsonError : Value := silent "Json"

/-- The failure of a request that cannot be understood. -/
def badInput (message : String) : Value := failure "BadInput" message

/-- A failure without a kind of its own. -/
def reportFailure (message : String) : Value := failure "Report" message

/-- The answer to a request. -/
def answer (r : Except Value Value) : Value :=
  match r with
  | .ok v => .map [("ok", v)]
  | .error e => e

/-- Named values. -/
def obj (ms : List (String × Value)) : Value := .map ms

/-- A number. -/
def num (n : Nat) : Value := Value.nat n

/-- A text, or null. -/
def optText (s : Option String) : Value := Value.ofOption Value.text s

/-- A number, or null. -/
def optNum (n : Option Nat) : Value := Value.ofOption num n

/-- A path. -/
def path (p : Path) : Value := .text p.text

/-! ## Requests -/

/-- A field, or null. -/
def field (v : Value) (name : String) : Value := (v.get? name).getD .null

/-- A text. -/
def asText (v : Value) : String := v.text?.getD ""

/-- A number. -/
def asNat (v : Value) : Nat := v.word?.getD 0

/-- A truth value. -/
def asBool (v : Value) : Bool := v.bool?.getD false

/-- The items of a list. -/
def asList (v : Value) : List Value := v.list?.getD []

/-- The texts of a list. -/
def asTexts (v : Value) : List String := (asList v).map asText

/-- A path. -/
def asPath (v : Value) : Path := ⟨asText v⟩

/-- A field that is a text. -/
def textAt (v : Value) (name : String) : String := asText (field v name)

/-- A field that is a list. -/
def listAt (v : Value) (name : String) : List Value := asList (field v name)

/-- An argument. -/
def arg (args : List Value) (i : Nat) : Value := (args[i]?).getD .null

/-- A field that is there and is not null. -/
def given (v : Value) (name : String) : Option Value :=
  match v.get? name with
  | some .null => none
  | x => x

/-- The bytes of a run of hexadecimal digits. -/
def hexBytes : List Char → Bytes
  | a :: b :: rest => UInt8.ofNat (hexValue [a, b]) :: hexBytes rest
  | _ => []

/-- The contents of a file: a text, `hex` with digits, or `repeat` with a text
and how often it comes. -/
def content (v : Value) : Bytes :=
  match v with
  | .text s => Utf8.encode s
  | _ =>
    match v.get? "hex" with
    | some h => hexBytes (asText h).toList
    | none =>
      match v.get? "repeat" with
      | some (.list [t, n]) => (List.replicate (asNat n) (Utf8.encode (asText t))).flatten
      | _ => []

/-- The contents of a file as a text. -/
def contentText (v : Value) : String := Utf8.decodeLossy (content v)

/-- A value of the input that may be given as a text instead. -/
def embedded (input : Value) (name : String) : Option Value :=
  match input.get? name with
  | some v => some v
  | none => (input.get? "json").bind fun j => Json.parse? (asText j)

/-! ## Positions -/

/-- A position. -/
def asPos (v : Value) : Pos :=
  let xs := asList v
  ⟨asNat (arg xs 0), asNat (arg xs 1)⟩

/-- A region. -/
def asRegion (v : Value) : Region :=
  let xs := asList v
  ⟨⟨asNat (arg xs 0), asNat (arg xs 1)⟩, ⟨asNat (arg xs 2), asNat (arg xs 3)⟩⟩

/-- An edit. -/
def asEdit (v : Value) : TextEdit := ⟨asRegion (field v "region"), asPos (field v "end")⟩

/-- A position. -/
def pos (p : Pos) : Value := .list [num p.line, num p.col]

/-- A region. -/
def region (r : Region) : Value :=
  .list [num r.start.line, num r.start.col, num r.stop.line, num r.stop.col]

/-- Regions. -/
def regions (rs : List Region) : Value := .list (rs.map region)

/-- An edit. -/
def edit (e : TextEdit) : Value := obj [("region", region e.region), ("end", pos e.stop)]

/-- A language, or null. -/
def language (l : Option Language) : Value := Value.ofOption Language.toValue l

end Service
end CodeDesk
