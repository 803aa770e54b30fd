import CodeDesk.Text.Split

/-!
# Sets of characters

A set of code points as ascending ranges that neither overlap nor touch.
Every set built by `ofRanges` has that shape, whatever ranges it is given,
so two sets with the same members are the same value.
-/

namespace CodeDesk
namespace Unicode

/-- The greatest code point. -/
def lastCode : Nat := 0x10FFFF

/-- A set of code points. -/
structure CharSet where
  /-- Ascending ranges, ends included. -/
  ranges : Array (Nat × Nat)
  deriving DecidableEq, Repr, Inhabited

namespace CharSet

/-- Insert a range into ascending disjoint ranges, merging what it overlaps
or touches. -/
def insertRange (r : Nat × Nat) : List (Nat × Nat) → List (Nat × Nat)
  | [] => [r]
  | s :: rest =>
    if r.2 + 1 < s.1 then r :: s :: rest
    else if s.2 + 1 < r.1 then s :: insertRange r rest
    else insertRange (min r.1 s.1, max r.2 s.2) rest

/-- Merge ranges that come in ascending order of their starts. -/
def mergeSorted : List (Nat × Nat) → List (Nat × Nat)
  | [] => []
  | r :: rest => insertRange r (mergeSorted rest)

/-- Whether every range starts after the one before it ends, with a gap. -/
def isAscending : List (Nat × Nat) → Bool
  | [] => true
  | [_] => true
  | r :: s :: rest => decide (r.2 + 1 < s.1) && isAscending (s :: rest)

/-- The set with the members of the given ranges. -/
def ofRanges (rs : List (Nat × Nat)) : CharSet :=
  let rs := rs.filter fun r => r.1 ≤ r.2
  if isAscending rs then ⟨rs.toArray⟩
  else ⟨(mergeSorted (rs.mergeSort fun a b => a.1 ≤ b.1)).toArray⟩

/-- The set with no members. -/
def empty : CharSet := ⟨#[]⟩

/-- The set of all code points. -/
def full : CharSet := ⟨#[(0, lastCode)]⟩

/-- The set of one character. -/
def single (c : Char) : CharSet := ⟨#[(c.toNat, c.toNat)]⟩

/-- Binary search for `c` among the ranges `lo`, …, `hi - 1`. -/
def search (rs : Array (Nat × Nat)) (c : Nat) : (fuel lo hi : Nat) → Bool
  | 0, _, _ => false
  | fuel + 1, lo, hi =>
    if lo < hi then
      let mid := (lo + hi) / 2
      match rs[mid]? with
      | none => false
      | some r =>
        if c < r.1 then search rs c fuel lo mid
        else if r.2 < c then search rs c fuel (mid + 1) hi
        else true
    else false

/-- Whether the code point `c` is a member. -/
def containsCode (s : CharSet) (c : Nat) : Bool :=
  search s.ranges c (s.ranges.size + 1) 0 s.ranges.size

/-- Whether the character `c` is a member. -/
def contains (s : CharSet) (c : Char) : Bool := s.containsCode c.toNat

/-- The gaps between ascending ranges from `start` on. -/
def gaps : (start : Nat) → List (Nat × Nat) → List (Nat × Nat)
  | start, [] => if start ≤ lastCode then [(start, lastCode)] else []
  | start, r :: rest =>
    if start < r.1 then (start, r.1 - 1) :: gaps (r.2 + 1) rest
    else gaps (r.2 + 1) rest

/-- Everything that is not a member. -/
def complement (s : CharSet) : CharSet := ⟨(gaps 0 s.ranges.toList).toArray⟩

/-- The members of either set. -/
def union (a b : CharSet) : CharSet := ofRanges (a.ranges.toList ++ b.ranges.toList)

/-- The members of both sets. -/
def inter (a b : CharSet) : CharSet := (union a.complement b.complement).complement

/-- The members of `a` that are not in `b`. -/
def diff (a b : CharSet) : CharSet := inter a b.complement

/-- The members of exactly one of the sets. -/
def symmDiff (a b : CharSet) : CharSet := union (diff a b) (diff b a)

/-- Whether the set has no members. -/
def isEmpty (s : CharSet) : Bool := s.ranges.isEmpty

/-- Whether every member is an ASCII character. -/
def isAscii (s : CharSet) : Bool := s.ranges.all fun r => r.2 < 0x80

/-- One range of a table: `lo-hi`, or one code point. -/
def rangeOfText (w : List Char) : Nat × Nat :=
  match splitChars '-' w with
  | [a, b] => (hexValue a, hexValue b)
  | _ => (hexValue w, hexValue w)

/-- The ranges of a table: hexadecimal numbers, separated by blanks
and line feeds. -/
def rangesOfText (text : String) : List (Nat × Nat) :=
  (words text.toList).map rangeOfText

/-- The set a table of ascending ranges describes. -/
def ofText (text : String) : CharSet := ⟨(rangesOfText text).toArray⟩

end CharSet
end Unicode
end CodeDesk
