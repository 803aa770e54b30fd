import CodeDesk.Regex.Parser
import CodeDesk.Regex.Program

/-!
# Searching

A search walks over a text once with a list of threads, ordered by
preference. A thread stands at an instruction that moves over a character
or that completes the match; every other instruction is followed at once.
No instruction is entered twice at one place, so the number of threads is
bounded by the program. A match that completes cuts every thread behind
it, which leaves the leftmost match and of these the preferred one.
-/

namespace CodeDesk
namespace Regex

/-- The remembered places: the start of group `i` at `2 * i` and its end at
`2 * i + 1`. -/
abbrev Slots := Array (Option Nat)

/-- A way through the program. -/
structure Thread where
  /-- The instruction it stands at. -/
  place : Nat
  /-- What it has remembered. -/
  slots : Slots
  deriving Inhabited

/-- A place between two characters of a text. -/
structure Cursor where
  /-- The number of characters before it. -/
  index : Nat
  /-- The character before it. -/
  before : Option Char
  /-- The characters after it. -/
  rest : List Char

namespace Cursor

/-- The start of a text. -/
def start (cs : List Char) : Cursor := ⟨0, none, cs⟩

/-- The place `n` characters further. -/
def advance (k : Cursor) : Nat → Cursor
  | 0 => k
  | n + 1 =>
    match k.rest with
    | [] => k
    | c :: cs => advance ⟨k.index + 1, some c, cs⟩ n

end Cursor

/-- Follow the threads on the stack, first one first, to instructions that
wait for a character or complete the match. `seen` has a bit for each
instruction entered before; `waiting` holds the threads found, last one
first. -/
def follow (p : Program) (index : Nat) (before after : Option Char) :
    (fuel : Nat) → (seen : Nat) → (waiting stack : List Thread) → Nat × List Thread
  | 0, seen, waiting, _ => (seen, waiting)
  | _ + 1, seen, waiting, [] => (seen, waiting)
  | fuel + 1, seen, waiting, t :: stack =>
    if seen.testBit t.place then follow p index before after fuel seen waiting stack
    else
      let seen := seen ||| (1 <<< t.place)
      match p.code[t.place]? with
      | none => follow p index before after fuel seen waiting stack
      | some (.char _ _) => follow p index before after fuel seen (t :: waiting) stack
      | some .done => follow p index before after fuel seen (t :: waiting) stack
      | some (.look l next) =>
        if l.holds before after then
          follow p index before after fuel seen waiting (⟨next, t.slots⟩ :: stack)
        else follow p index before after fuel seen waiting stack
      | some (.fork first second) =>
        follow p index before after fuel seen waiting
          (⟨first, t.slots⟩ :: ⟨second, t.slots⟩ :: stack)
      | some (.save slot next) =>
        follow p index before after fuel seen waiting
          (⟨next, t.slots.setIfInBounds slot (some index)⟩ :: stack)

/-- The threads that survive the next character, in order, and the slots of
the first thread that completes the match. Threads behind that one are
dropped. -/
def step (p : Program) (next : Option Char) : List Thread → List Thread × Option Slots
  | [] => ([], none)
  | t :: ts =>
    match p.code[t.place]? with
    | some .done => ([], some t.slots)
    | some (.char s target) =>
      let (moved, found) := step p next ts
      match next with
      | some c => (if s.contains c then ⟨target, t.slots⟩ :: moved else moved, found)
      | none => (moved, found)
    | _ => step p next ts

/-- Walk over the text. While no match is known, a new thread starts at
every place with the least preference. -/
def walk (p : Program) (index : Nat) (before : Option Char) (threads : List Thread)
    (best : Option Slots) : List Char → Option Slots
  | [] =>
    let starting := if best.isSome then [] else [⟨p.entry, Array.replicate (2 * p.groups) none⟩]
    let pending := threads ++ starting
    let (_, waiting) := follow p index before none (2 * p.code.size + pending.length + 1) 0 []
      pending
    match (step p none waiting.reverse).2 with
    | some slots => some slots
    | none => best
  | c :: cs =>
    let starting := if best.isSome then [] else [⟨p.entry, Array.replicate (2 * p.groups) none⟩]
    let pending := threads ++ starting
    if pending.isEmpty then best
    else
      let (_, waiting) := follow p index before (some c)
        (2 * p.code.size + pending.length + 1) 0 [] pending
      match step p (some c) waiting.reverse with
      | (moved, some slots) => walk p (index + 1) (some c) moved (some slots) cs
      | (moved, none) => walk p (index + 1) (some c) moved best cs

/-- The slots of the first match at or after a place. -/
def Program.searchFrom (p : Program) (k : Cursor) : Option Slots :=
  walk p k.index k.before [] none k.rest

/-- The range of group `i`. -/
def groupRange (slots : Slots) (i : Nat) : Option (Nat × Nat) :=
  match slots[2 * i]?, slots[2 * i + 1]? with
  | some (some a), some (some b) => some (a, b)
  | _, _ => none

/-- The range of the first match at or after a place. -/
def Program.findFrom (p : Program) (k : Cursor) : Option (Nat × Nat) :=
  (p.searchFrom k).bind fun slots => groupRange slots 0

/-- The range of the first match. -/
def Program.find (p : Program) (cs : List Char) : Option (Nat × Nat) :=
  p.findFrom (Cursor.start cs)

/-- Whether there is a match. -/
def Program.matches (p : Program) (cs : List Char) : Bool := (p.find cs).isSome

/-- The slots of the matches one after the other from the place `k`, which is
where the last match ended if `resumed`. A match without characters is not
reported there; the search goes on one character further. -/
def searchAllFrom (p : Program) : (fuel : Nat) → (resumed : Bool) → Cursor → List Slots
  | 0, _, _ => []
  | fuel + 1, resumed, k =>
    match p.searchFrom k with
    | none => []
    | some slots =>
      match groupRange slots 0 with
      | none => []
      | some (i, j) =>
        if resumed && i = j && j = k.index then
          if k.rest.isEmpty then [] else searchAllFrom p fuel false (k.advance 1)
        else slots :: searchAllFrom p fuel true (k.advance (j - k.index))

/-- The slots of all matches, which do not overlap. -/
def Program.searchAll (p : Program) (cs : List Char) : List Slots :=
  searchAllFrom p (2 * cs.length + 3) false (Cursor.start cs)

/-- The ranges of all matches, which do not overlap. -/
def Program.findAll (p : Program) (cs : List Char) : List (Nat × Nat) :=
  (p.searchAll cs).filterMap fun slots => groupRange slots 0

/-- The program of a pattern, if it is well formed. -/
def compile? (ignoreCase : Bool) (pattern : String) : Option Program :=
  (parse? ignoreCase pattern).map fun p => Program.ofExpr p.1 p.2.count p.2.names

/-- The program that finds a text as it stands. -/
def literal (ignoreCase : Bool) (s : String) : Program :=
  Program.ofExpr (literalExpr ignoreCase s) 1 []

end Regex
end CodeDesk
