import CodeDesk.Text.Split
import CodeDesk.Text.Utf8

/-!
# Positions and regions

A position is a line and a column, both from zero, the column in
characters. A region is a half-open range of positions. An edit replaces
the text of a region; `Region.adjusted` says where another region lies
afterwards.

Positions are found in two ways: by walking over the characters, and by way of
the bytes at which the lines start, which are listed once and then searched.
-/

namespace CodeDesk

/-- A line and a column within a text, both from zero. -/
structure Pos where
  /-- The line, from zero. -/
  line : Nat
  /-- The column in characters, from zero. -/
  col : Nat
  deriving DecidableEq, Repr, Inhabited

namespace Pos

/-- Positions in the order they come in a text. -/
def lt (a b : Pos) : Bool := a.line < b.line || (a.line == b.line && a.col < b.col)

/-- `a` comes before `b` or is the same position. -/
def le (a b : Pos) : Bool := !b.lt a

/-- The text of a position. -/
def text (p : Pos) : String := s!"{p.line}:{p.col}"

/-- The position after a character at `p`. -/
def step (p : Pos) (c : Char) : Pos :=
  if c = '\n' then ⟨p.line + 1, 0⟩ else ⟨p.line, p.col + 1⟩

/-- The position after the characters `cs`, which start at `p`. -/
def after (p : Pos) (cs : List Char) : Pos := cs.foldl step p

/-- The position before character number `i` of the text `cs`. -/
def ofIndex (cs : List Char) (i : Nat) : Pos := after ⟨0, 0⟩ (cs.take i)

/-- The number of characters before the position `line`, `col` of a text,
counted on from `i`. Only the end of the line or of the text lies past the
last character. -/
def indexFrom (i : Nat) : List Char → (line col : Nat) → Option Nat
  | _, 0, 0 => some i
  | [], _, _ => none
  | c :: cs, 0, col + 1 => if c = '\n' then none else indexFrom (i + 1) cs 0 col
  | c :: cs, line + 1, col =>
    if c = '\n' then indexFrom (i + 1) cs line col else indexFrom (i + 1) cs (line + 1) col

/-- The number of characters before `p` in the text `cs`, if `p` lies in
it. -/
def index? (cs : List Char) (p : Pos) : Option Nat := indexFrom 0 cs p.line p.col

/-- The number of bytes before `p` in the text `cs`, if `p` lies in it. -/
def offset? (cs : List Char) (p : Pos) : Option Nat :=
  (p.index? cs).map fun i => Utf8.size (cs.take i)

end Pos

/-- A range of positions without its end. -/
structure Region where
  /-- The first position. -/
  start : Pos
  /-- The position after the last one. -/
  stop : Pos
  deriving DecidableEq, Repr, Inhabited

/-- A finished replacement: `region` held the old text, and the new text
runs from its start to `stop`. -/
structure TextEdit where
  /-- Where the old text was. -/
  region : Region
  /-- Where the new text ends. -/
  stop : Pos
  deriving DecidableEq, Repr, Inhabited

/-- Move a position after `oldEnd` so that it keeps its distance to the end
of the edited text. -/
def Pos.shift (p oldEnd newEnd : Pos) : Pos :=
  if p.line = oldEnd.line then ⟨newEnd.line, newEnd.col + (p.col - oldEnd.col)⟩
  else ⟨p.line + newEnd.line - oldEnd.line, p.col⟩

namespace Region

/-- The text of a region. -/
def text (r : Region) : String := s!"{r.start.text}-{r.stop.text}"

/-- Whether a region covers no position. -/
def isEmpty (r : Region) : Bool := r.stop.le r.start

/-- Whether two regions share a position. -/
def overlaps (a b : Region) : Bool := a.start.lt b.stop && b.start.lt a.stop

/-- Where a region lies after an edit, or `none` when the edit touched
it. -/
def adjusted (r : Region) (e : TextEdit) : Option Region :=
  if r = e.region || r.overlaps e.region then none
  else if r.stop.le e.region.start then some r
  else some ⟨r.start.shift e.region.stop e.stop, r.stop.shift e.region.stop e.stop⟩

/-- The numbers of characters before the start and the end of a region of
the text `cs`, if the region lies in it and is not reversed. -/
def indices? (cs : List Char) (r : Region) : Option (Nat × Nat) :=
  match r.start.index? cs, r.stop.index? cs with
  | some i, some j => if i ≤ j then some (i, j) else none
  | _, _ => none

end Region

/-- The numbers of bytes before the start and the end of a region of the text
`cs`, if the region lies in it and is not reversed. -/
def Region.offsets? (cs : List Char) (r : Region) : Option (Nat × Nat) :=
  (r.indices? cs).map fun p => (Utf8.size (cs.take p.1), Utf8.size (cs.take p.2))

/-- The characters numbered from `i` up to `j`. -/
def sliceChars (cs : List Char) (i j : Nat) : List Char := (cs.drop i).take (j - i)

/-- The text with the characters from `i` up to `j` exchanged for `new`. -/
def spliceChars (cs : List Char) (i j : Nat) (new : List Char) : List Char :=
  cs.take i ++ new ++ cs.drop j

/-- The regions of ascending index ranges of a text, found in one walk. The
walk stands at `p`, before character number `here`, with `cs` still ahead. -/
def regionsFrom (p : Pos) (here : Nat) (cs : List Char) : List (Nat × Nat) → List Region
  | [] => []
  | (i, j) :: rest =>
    let ahead := cs.drop (i - here)
    let start := p.after (cs.take (i - here))
    let stop := start.after (ahead.take (j - i))
    ⟨start, stop⟩ :: regionsFrom stop j (ahead.drop (j - i)) rest

/-- The regions of ascending index ranges of a text. -/
def regionsOf (cs : List Char) (ranges : List (Nat × Nat)) : List Region :=
  regionsFrom ⟨0, 0⟩ 0 cs ranges

/-! ## By way of bytes -/

/-- The bytes behind the line breaks of a text that starts at byte
`here`. -/
def breaksFrom (here : Nat) : List Char → List Nat
  | [] => []
  | c :: cs =>
    if c = '\n' then (here + 1) :: breaksFrom (here + 1) cs
    else breaksFrom (here + c.utf8Size) cs

/-- The bytes at which the lines of a text start. -/
def lineStarts (cs : List Char) : Array Nat := (0 :: breaksFrom 0 cs).toArray

/-- Look for `x` between the indices `lo` and `hi` of ascending numbers: the
index where it is, or else the one where it would have to be put. -/
def bisect (a : Array Nat) (x lo hi : Nat) : Except Nat Nat :=
  if lo < hi then
    let mid := lo + (hi - lo) / 2
    match a[mid]? with
    | none => .error lo
    | some y =>
      if y = x then .ok mid
      else if y < x then bisect a x (mid + 1) hi
      else bisect a x lo mid
  else .error lo
termination_by hi - lo

/-- The line of byte number `n`, where the lines start at the bytes
`starts`. -/
def lineOf? (starts : Array Nat) (n : Nat) : Option Nat :=
  match bisect starts n 0 starts.size with
  | .ok line => some line
  | .error 0 => none
  | .error (next + 1) => some next

/-- The byte at which a line of the text `cs` ends that starts at byte
`start` with `rest` ahead. -/
def lineStop (cs : List Char) (start : Nat) (rest : List Char) : Nat :=
  match cutFirst '\n' rest with
  | some (front, _) => start + Utf8.size front
  | none => Utf8.size cs

namespace Pos

/-- The position of byte number `n` of a text whose lines start at the bytes
`starts`. -/
def atOffset? (cs : List Char) (starts : Array Nat) (n : Nat) : Option Pos := do
  let line ← lineOf? starts n
  let start ← starts[line]?
  let ahead ← Utf8.slice? cs start n
  some ⟨line, ahead.length⟩

/-- The byte of a position, `none` within if the position does not lie in
the text. -/
def offsetIn? (cs : List Char) (p : Pos) : Option (Option Nat) :=
  match (lineStarts cs)[p.line]? with
  | none => some none
  | some start => do
    let rest ← Utf8.drop? cs start
    let line ← Utf8.slice? cs start (lineStop cs start rest)
    if p.col = line.length then some (some (lineStop cs start rest))
    else if p.col < line.length then some (some (start + Utf8.size (line.take p.col)))
    else some none

end Pos

/-- The region of a range of bytes. -/
def Region.ofRange? (cs : List Char) (starts : Array Nat) (m : Nat × Nat) : Option Region := do
  let start ← Pos.atOffset? cs starts m.1
  let stop ← Pos.atOffset? cs starts m.2
  some ⟨start, stop⟩

/-- The regions of the ranges of bytes that hold any. -/
def regionsIn? (cs : List Char) (ranges : List (Nat × Nat)) : Option (List Region) :=
  (ranges.filter fun m => m.1 != m.2).mapM (Region.ofRange? cs (lineStarts cs))

end CodeDesk
