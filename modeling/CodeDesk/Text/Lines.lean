import CodeDesk.Text.Split
import CodeDesk.Unicode.Property

/-!
# Lines and blanks

The lines of a text, and its text without the white space around it.
-/

namespace CodeDesk

/-- A terminated line without the carriage return before its terminator. -/
def dropReturn (line : List Char) : List Char :=
  match line.reverse with
  | '\r' :: rest => rest.reverse
  | _ => line

/-- The lines of a text: each ends with a line feed, which may follow a
carriage return; what follows the last line feed is a line unless it is
empty. -/
def linesOf (cs : List Char) : List (List Char) :=
  let parts := splitChars '\n' cs
  let ended := (parts.dropLast).map dropReturn
  match parts.getLast? with
  | none => ended
  | some [] => ended
  | some unfinished => ended ++ [unfinished]

/-- The lines of a text. -/
def lines (s : String) : List String :=
  (linesOf s.toList).map String.ofList

/-- A list without the leading and trailing elements that `p` holds of. -/
def trimWhile (p : Char → Bool) (cs : List Char) : List Char :=
  ((cs.dropWhile p).reverse.dropWhile p).reverse

/-- A text without the white space around it. -/
def trim (s : String) : String :=
  String.ofList (trimWhile Unicode.whiteSpace.contains s.toList)

/-- A text without the line breaks at its end. -/
def trimBreaks (s : String) : String :=
  String.ofList ((s.toList.reverse.dropWhile fun c => c = '\n' || c = '\r').reverse)

/-- Texts that differ only in the case of ASCII letters. -/
def eqIgnoringCase (a b : String) : Bool :=
  a.toList.map Char.toLower == b.toList.map Char.toLower

/-- Every line followed by a line feed. -/
def unlines (ls : List String) : String :=
  String.join (ls.map fun l => l ++ "\n")

end CodeDesk
