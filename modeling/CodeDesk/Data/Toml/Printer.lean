import CodeDesk.Data.Value
import CodeDesk.Text.Decimal

/-!
# Writing TOML

The scalars of a table come first, each on a line of its own, and then its
tables, each under a header. A list of more than one item is written over
several lines. A text is written in the first of several forms that shows
it without escapes, and keys are left without quotes where they can be.
-/

namespace CodeDesk
namespace Toml

/-- What decides the form a text is written in. -/
structure Traits where
  /-- The longest run of single quotes. -/
  singles : Nat
  /-- The longest run of double quotes. -/
  doubles : Nat
  /-- It holds a character that has no form but an escape. -/
  control : Bool
  /-- It holds a backslash. -/
  backslash : Bool
  /-- It holds a line feed. -/
  newline : Bool

/-- The length of the longest run of `q`; `run` is the run that ends here. -/
def longestRun (q : Char) : (run : Nat) → List Char → Nat
  | run, [] => run
  | run, c :: cs => if c = q then longestRun q (run + 1) cs else max run (longestRun q 0 cs)

/-- Whether `c` has no form but an escape. -/
def needsEscape (c : Char) : Bool :=
  (c.toNat < 0x20 && c ≠ '\t' && c ≠ '\n') || c.toNat = 0x7F

/-- The traits of a text. -/
def Traits.of (cs : List Char) : Traits where
  singles := longestRun '\'' 0 cs
  doubles := longestRun '"' 0 cs
  control := cs.any needsEscape
  backslash := cs.contains '\\'
  newline := cs.contains '\n'

/-- An upper case hexadecimal digit. -/
def upperHex (n : Nat) : Char :=
  if n < 10 then Char.ofNat ('0'.toNat + n) else Char.ofNat ('A'.toNat + (n - 10))

/-- The escape of a character. -/
def escapeChar (c : Char) : List Char :=
  if c = '\x08' then ['\\', 'b']
  else if c = '\t' then ['\\', 't']
  else if c = '\n' then ['\\', 'n']
  else if c = '\x0c' then ['\\', 'f']
  else if c = '\r' then ['\\', 'r']
  else if c = '"' then ['\\', '"']
  else if c = '\\' then ['\\', '\\']
  else ['\\', 'u', '0', '0', upperHex (c.toNat / 16), upperHex (c.toNat % 16)]

/-- The inside of a basic string. Over several lines, line feeds stay and
only every third of adjacent quotes is escaped; `run` counts the quotes
before. -/
def basicInside (multi : Bool) : (run : Nat) → List Char → List Char
  | _, [] => []
  | run, c :: cs =>
    if c = '"' then
      if (if multi then 2 else 0) < run + 1 then escapeChar c ++ basicInside multi 0 cs
      else c :: basicInside multi (run + 1) cs
    else if c = '\n' && multi then c :: basicInside multi 0 cs
    else if c.toNat < 0x20 || c.toNat = 0x7F || c = '\\' then
      escapeChar c ++ basicInside multi 0 cs
    else c :: basicInside multi 0 cs

/-- A basic string on one line. -/
def basic (cs : List Char) : List Char := '"' :: basicInside false 0 cs ++ ['"']

/-- A basic string between triple quotes; a text of several lines starts on
a line of its own. -/
def basicMulti (newline : Bool) (cs : List Char) : List Char :=
  let q := ['"', '"', '"']
  q ++ (if newline then ['\n'] else []) ++ basicInside true 0 cs ++ q

/-- A literal string on one line. -/
def literal (cs : List Char) : List Char := '\'' :: cs ++ ['\'']

/-- A literal string between triple quotes. -/
def literalMulti (newline : Bool) (cs : List Char) : List Char :=
  let q := ['\'', '\'', '\'']
  q ++ (if newline then ['\n'] else []) ++ cs ++ q

/-- A text as a value. -/
def textValue (s : String) : List Char :=
  let cs := s.toList
  let t := Traits.of cs
  if !t.control && !t.backslash && t.doubles = 0 && !t.newline then basic cs
  else if !t.control && t.singles = 0 && !t.newline then literal cs
  else if !t.control && !t.backslash && t.doubles ≤ 2 then basicMulti t.newline cs
  else if !t.control && t.singles ≤ 2 then literalMulti t.newline cs
  else if t.newline then basicMulti true cs
  else basic cs

/-- A key. -/
def keyText (s : String) : List Char :=
  let cs := s.toList
  let t := Traits.of cs
  if !cs.isEmpty && cs.all fun c => c.isAlphanum || c = '_' || c = '-' then cs
  else if !t.control && !t.newline && !t.backslash && t.doubles = 0 then basic cs
  else if !t.control && !t.newline && t.singles = 0 then literal cs
  else basic cs

/-- A scalar; a value without a form in this format has no text. -/
def scalar : Value → List Char
  | .bool true => ['t', 'r', 'u', 'e']
  | .bool false => ['f', 'a', 'l', 's', 'e']
  | .int n => (toString n).toList
  | .float x => (Decimal.document x).toList
  | .text s => textValue s
  | _ => []

/-- A list of scalars. -/
def listText : List Value → List Char
  | [] => ['[', ']']
  | [v] => '[' :: scalar v ++ [']']
  | vs => '[' :: vs.flatMap (fun v => ['\n', ' ', ' ', ' ', ' '] ++ scalar v ++ [',']) ++
      ['\n', ']']

/-- The line of a key that is not a table. -/
def keyLine (name : String) (v : Value) : List Char :=
  keyText name ++ [' ', '=', ' '] ++
    (match v with
      | .list items => listText items
      | v => scalar v) ++ ['\n']

/-- Whether a value is written under a header of its own. -/
def isTable : Value → Bool
  | .map _ => true
  | _ => false

/-- The lines of a table's keys that are not tables. -/
def keyLines (ms : List (String × Value)) : List Char :=
  (ms.filter fun m => !isTable m.2).flatMap fun m => keyLine m.1 m.2

/-- A table under its header. -/
def tableSection (name : String) (ms : List (String × Value)) : List Char :=
  ['\n', '['] ++ keyText name ++ [']', '\n'] ++ keyLines ms

/-- A document: a map whose members are scalars, lists of scalars, or maps
of these. -/
def document (ms : List (String × Value)) : String :=
  String.ofList (keyLines ms ++ ms.flatMap fun m =>
    match m.2 with
    | .map inner => tableSection m.1 inner
    | _ => [])

end Toml
end CodeDesk
