import CodeDesk.Data.Value
import CodeDesk.Text.Decimal

/-!
# Writing JSON

Two layouts of the same text: everything on one line, or every item and
member on a line of its own, indented by two blanks for each level. Empty
lists and maps are written without a line break in both.
-/

namespace CodeDesk
namespace Json

/-- The hexadecimal digit of a number below sixteen. -/
def lowerHex (n : Nat) : Char :=
  if n < 10 then Char.ofNat ('0'.toNat + n) else Char.ofNat ('a'.toNat + (n - 10))

/-- A character within a string. Quotes, backslashes and the characters
below the blank are written as escapes. -/
def escapeChar (c : Char) : List Char :=
  if c = '"' then ['\\', '"']
  else if c = '\\' then ['\\', '\\']
  else if c = '\x08' then ['\\', 'b']
  else if c = '\t' then ['\\', 't']
  else if c = '\n' then ['\\', 'n']
  else if c = '\x0c' then ['\\', 'f']
  else if c = '\r' then ['\\', 'r']
  else if c.toNat < 0x20 then
    ['\\', 'u', '0', '0', lowerHex (c.toNat / 16), lowerHex (c.toNat % 16)]
  else [c]

/-- A string with its quotes. -/
def quote (s : String) : List Char := '"' :: s.toList.flatMap escapeChar ++ ['"']

/-- A number; one that is not finite has no text of its own. -/
def floatText (x : Float) : List Char :=
  if x.isFinite then (Decimal.display x).toList else ['n', 'u', 'l', 'l']

/-- A scalar. -/
def scalar : Value → List Char
  | .null => ['n', 'u', 'l', 'l']
  | .bool true => ['t', 'r', 'u', 'e']
  | .bool false => ['f', 'a', 'l', 's', 'e']
  | .int n => (toString n).toList
  | .float x => floatText x
  | .text s => quote s
  | _ => ['n', 'u', 'l', 'l']

mutual

/-- A value on one line. -/
def compactChars : Value → List Char
  | .list items => '[' :: compactItems items ++ [']']
  | .map ms => '\x7b' :: compactMembers ms ++ ['\x7d']
  | v => scalar v

/-- Items separated by commas. -/
def compactItems : List Value → List Char
  | [] => []
  | [v] => compactChars v
  | v :: vs => compactChars v ++ ',' :: compactItems vs

/-- Members separated by commas. -/
def compactMembers : List (String × Value) → List Char
  | [] => []
  | [(n, v)] => quote n ++ ':' :: compactChars v
  | (n, v) :: ms => quote n ++ ':' :: compactChars v ++ ',' :: compactMembers ms

end

/-- A value on one line. -/
def compact (v : Value) : String := String.ofList (compactChars v)

/-- A new line at the given level. -/
def newline (level : Nat) : List Char := '\n' :: List.replicate (2 * level) ' '

mutual

/-- A value with its parts on lines of their own at the next level. -/
def prettyChars (level : Nat) : Value → List Char
  | .list [] => ['[', ']']
  | .list (v :: vs) => '[' :: prettyItems (level + 1) (v :: vs) ++ newline level ++ [']']
  | .map [] => ['\x7b', '\x7d']
  | .map (m :: ms) => '\x7b' :: prettyMembers (level + 1) (m :: ms) ++ newline level ++ ['\x7d']
  | v => scalar v

/-- Items, each on a line of its own. -/
def prettyItems (level : Nat) : List Value → List Char
  | [] => []
  | [v] => newline level ++ prettyChars level v
  | v :: vs => newline level ++ prettyChars level v ++ ',' :: prettyItems level vs

/-- Members, each on a line of its own. -/
def prettyMembers (level : Nat) : List (String × Value) → List Char
  | [] => []
  | [(n, v)] => newline level ++ quote n ++ ':' :: ' ' :: prettyChars level v
  | (n, v) :: ms =>
    newline level ++ quote n ++ ':' :: ' ' :: prettyChars level v ++ ',' :: prettyMembers level ms

end

/-- A value with every part on a line of its own. -/
def pretty (v : Value) : String := String.ofList (prettyChars 0 v)

end Json
end CodeDesk
