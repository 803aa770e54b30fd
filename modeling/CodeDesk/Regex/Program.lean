import CodeDesk.Regex.Expr

/-!
# Programs of regular expressions

An expression written out as numbered instructions. A program is built from
its end: each expression is placed in front of the instruction that follows
it, and its own entry is the instruction a match starts at. At a fork the
first branch is preferred, which is how the order of choices and the greed
of repetitions survive.
-/

namespace CodeDesk
namespace Regex

open Unicode

/-- One step of a match. -/
inductive Instruction where
  /-- Move over a character of the set. -/
  | char (s : CharSet) (next : Nat)
  /-- Go on only where the condition holds. -/
  | look (l : Look) (next : Nat)
  /-- Try `first`, then `second`. -/
  | fork (first second : Nat)
  /-- Remember the place in a slot. -/
  | save (slot : Nat) (next : Nat)
  /-- The match is complete. -/
  | done
  deriving Inhabited

/-- The instructions placed so far. -/
abbrev Code := Array Instruction

/-- A fork that prefers the body when greedy and the way out otherwise. -/
def branch (greedy : Bool) (body out : Nat) : Instruction :=
  if greedy then .fork body out else .fork out body

/-- `n` copies of a body in front of `next`. -/
def copies (body : Nat → Code → Nat × Code) : (n : Nat) → (next : Nat) → Code → Nat × Code
  | 0, next, code => (next, code)
  | n + 1, next, code =>
    let (entry, code) := copies body n next code
    body entry code

/-- Up to `n` copies of a body in front of `out`, each of which may be left
out together with those after it. -/
def optionalCopies (body : Nat → Code → Nat × Code) (greedy : Bool) (out : Nat) :
    (n : Nat) → Code → Nat × Code
  | 0, code => (out, code)
  | n + 1, code =>
    let (later, code) := optionalCopies body greedy out n code
    let (entry, code) := body later code
    (code.size, code.push (branch greedy entry out))

/-- A body that is repeated at least once. -/
def onceOrMore (body : Nat → Code → Nat × Code) (greedy : Bool) (next : Nat) (code : Code) :
    Nat × Code :=
  let again := code.size
  let (entry, code) := body again (code.push .done)
  (entry, code.setIfInBounds again (branch greedy entry next))

/-- A body that is repeated any number of times. One that may match without
moving is written as an optional repetition, which keeps the order of
preference when an empty match ends it. -/
def anyTimes (body : Nat → Code → Nat × Code) (greedy advances : Bool) (next : Nat)
    (code : Code) : Nat × Code :=
  if advances then
    let again := code.size
    let (entry, code) := body again (code.push .done)
    (again, code.setIfInBounds again (branch greedy entry next))
  else
    let (entry, code) := onceOrMore body greedy next code
    (code.size, code.push (branch greedy entry next))

/-- The entry of an expression placed in front of `next`, and the code with
it. -/
def Expr.place : Expr → (next : Nat) → Code → Nat × Code
  | .empty, next, code => (next, code)
  | .chars s, next, code => (code.size, code.push (.char s next))
  | .look l, next, code => (code.size, code.push (.look l next))
  | .cat a b, next, code =>
    let (entry, code) := b.place next code
    a.place entry code
  | .alt a b, next, code =>
    let (first, code) := a.place next code
    let (second, code) := b.place next code
    (code.size, code.push (.fork first second))
  | .rep min max greedy e, next, code =>
    match max with
    | some max =>
      let (entry, code) := optionalCopies e.place greedy next (max - min) code
      copies e.place min entry code
    | none =>
      match min with
      | 0 => anyTimes e.place greedy e.advances next code
      | min + 1 =>
        let (entry, code) := onceOrMore e.place greedy next code
        copies e.place min entry code
  | .group index e, next, code =>
    let stop := code.size
    let (entry, code) := e.place stop (code.push (.save (2 * index + 1) next))
    (code.size, code.push (.save (2 * index) entry))

/-- A regular expression ready to be searched for. -/
structure Program where
  /-- The instructions. -/
  code : Code
  /-- The instruction a match starts at. -/
  entry : Nat
  /-- How many groups there are, the whole match included. -/
  groups : Nat
  /-- The names of groups. -/
  names : List (String × Nat)
  deriving Inhabited

/-- The program of an expression, whose whole match is group 0. -/
def Program.ofExpr (e : Expr) (groups : Nat) (names : List (String × Nat)) : Program :=
  let (entry, code) := (Expr.group 0 e).place 0 #[.done]
  ⟨code, entry, groups, names⟩

end Regex
end CodeDesk
