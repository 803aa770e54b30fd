import CodeDesk.Unicode.Category
import CodeDesk.Unicode.Folding
import CodeDesk.Unicode.Property
import CodeDesk.Unicode.Script

/-!
# Regular expressions

The expressions that patterns stand for, after every abbreviation has been
expanded: a step over one character of a set, a condition on the place
between two characters, sequence, choice, repetition and capture. Choices
and repetitions are ordered, and the first way to match wins.
-/

namespace CodeDesk
namespace Regex

open Unicode

/-- The characters that make up words. -/
def wordChars : CharSet :=
  CharSet.union alphabetic
    (CharSet.union (categories ["mn", "mc", "me", "nd", "pc"])
      (CharSet.ofRanges [(0x200C, 0x200D)]))

/-- The ASCII characters that make up words. -/
def asciiWordChars : CharSet :=
  CharSet.ofRanges [(0x30, 0x39), (0x41, 0x5A), (0x5F, 0x5F), (0x61, 0x7A)]

/-- A condition on the place between two characters. The flag `ascii`
restricts words to ASCII. -/
inductive Look where
  /-- The start of the text. -/
  | textStart
  /-- The end of the text. -/
  | textEnd
  /-- The start of a line. -/
  | lineStart
  /-- The end of a line. -/
  | lineEnd
  /-- The start of a line whose break may have two characters. -/
  | breakStart
  /-- The end of a line whose break may have two characters. -/
  | breakEnd
  /-- Between a word character and another one. -/
  | wordEdge (ascii : Bool)
  /-- Not between a word character and another one. -/
  | noWordEdge (ascii : Bool)
  /-- Where a word starts. -/
  | wordStart (ascii : Bool)
  /-- Where a word ends. -/
  | wordEnd (ascii : Bool)
  /-- Not after a word character. -/
  | halfStart (ascii : Bool)
  /-- Not before a word character. -/
  | halfEnd (ascii : Bool)
  deriving DecidableEq, Repr, Inhabited

/-- Whether a neighbouring character belongs to a word. -/
def isWord (ascii : Bool) : Option Char → Bool
  | none => false
  | some c => if ascii then asciiWordChars.contains c else wordChars.contains c

/-- Whether the condition holds between the characters `before` and
`after`. -/
def Look.holds (before after : Option Char) : Look → Bool
  | textStart => before.isNone
  | textEnd => after.isNone
  | lineStart => before.isNone || before = some '\n'
  | lineEnd => after.isNone || after = some '\n'
  | breakStart =>
    before.isNone || before = some '\n' || (before = some '\r' && after ≠ some '\n')
  | breakEnd =>
    after.isNone || after = some '\r' || (after = some '\n' && before ≠ some '\r')
  | wordEdge a => isWord a before != isWord a after
  | noWordEdge a => isWord a before == isWord a after
  | wordStart a => !isWord a before && isWord a after
  | wordEnd a => isWord a before && !isWord a after
  | halfStart a => !isWord a before
  | halfEnd a => !isWord a after

/-- A regular expression. -/
inductive Expr where
  /-- Matches without moving. -/
  | empty
  /-- One character of a set. -/
  | chars (s : CharSet)
  /-- A condition on the place. -/
  | look (l : Look)
  /-- First `a`, then `b`. -/
  | cat (a b : Expr)
  /-- `a`, or else `b`. -/
  | alt (a b : Expr)
  /-- `e` at least `min` times and at most `max` times, as often as possible
  if greedy and as rarely as possible otherwise. -/
  | rep (min : Nat) (max : Option Nat) (greedy : Bool) (e : Expr)
  /-- `e`, remembered as group `index`. -/
  | group (index : Nat) (e : Expr)
  deriving Repr, Inhabited

namespace Expr

/-- Whether every match has at least one character. -/
def advances : Expr → Bool
  | empty => false
  | chars s => !s.isEmpty
  | look _ => false
  | cat a b => a.advances || b.advances
  | alt a b => a.advances && b.advances
  | rep min _ _ e => min ≠ 0 && e.advances
  | group _ e => e.advances

/-- How much room the expression takes when every repetition is written
out. -/
def size : Expr → Nat
  | empty => 1
  | chars s => 1 + s.ranges.size
  | look _ => 1
  | cat a b => a.size + b.size
  | alt a b => a.size + b.size + 1
  | rep min max _ e => (Nat.max min (max.getD min) + 1) * e.size + 1
  | group _ e => e.size + 2

/-- The sequence of expressions. -/
def seq : List Expr → Expr
  | [] => empty
  | [e] => e
  | e :: es => cat e (seq es)

/-- The choice among expressions. -/
def choice : List Expr → Expr
  | [] => empty
  | [e] => e
  | e :: es => alt e (choice es)

end Expr

/-- A single character, or every character that folds like it. -/
def charSet (ignoreCase : Bool) (c : Char) : CharSet :=
  if ignoreCase then (CharSet.single c).foldCase else CharSet.single c

/-- The expression that matches a text as it stands. -/
def literalExpr (ignoreCase : Bool) (s : String) : Expr :=
  Expr.seq (s.toList.map fun c => .chars (charSet ignoreCase c))

end Regex
end CodeDesk
