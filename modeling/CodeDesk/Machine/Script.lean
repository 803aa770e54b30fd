import CodeDesk.Text.Split

/-!
# Scripts

The commands that a shell runs, as they are written: words with their
quotes and expansions, redirections, and the compound commands. A script
that is not well formed has a fault at the place where its reader had to
give up; everything in front of the line of the fault can still be run.
-/

namespace CodeDesk
namespace Machine

/-- The operators of an expansion `${name…}`. -/
inductive ExpansionKind where
  /-- The value. -/
  | value
  /-- The length of the value. -/
  | length
  /-- A word in place of a missing value. -/
  | fallback
  /-- A word in place of a missing value, which becomes the value. -/
  | assign
  /-- A word in place of a value that is there. -/
  | instead
  /-- The value, which must not be missing; the word says what is wrong. -/
  | demand
  /-- The value without the shortest matching start. -/
  | cutStart
  /-- The value without the longest matching start. -/
  | cutStartMost
  /-- The value without the shortest matching end. -/
  | cutEnd
  /-- The value without the longest matching end. -/
  | cutEndMost
  deriving DecidableEq, Repr, Inhabited

/-- Where a redirection leads. -/
inductive RedirectKind where
  /-- From a file. -/
  | read
  /-- Into a file. -/
  | write
  /-- To the end of a file. -/
  | append
  /-- To where another stream leads. -/
  | duplicate
  /-- From a text that stands in the script. -/
  | here
  deriving DecidableEq, Repr, Inhabited

mutual

/-- A part of a word. -/
inductive Part where
  /-- Characters as they are. -/
  | text (cs : List Char) (quoted : Bool)
  /-- The value of a variable; an empty value counts as missing if `colon`
  is set. -/
  | expand (name : String) (kind : ExpansionKind) (colon : Bool) (word : List Part)
      (quoted : Bool)
  /-- The value of an arithmetic expression. -/
  | arithmetic (word : List Part) (quoted : Bool)
  /-- The output of a script. -/
  | output (body : Script) (quoted : Bool)
  /-- An expansion that has no meaning. -/
  | senseless

/-- A redirection of a stream. -/
inductive Redirect where
  /-- The stream `fd` is led to or from `target`. -/
  | mk (fd : Nat) (kind : RedirectKind) (target : List Part)

/-- Commands of a script. -/
inductive Script where
  /-- Nothing. -/
  | nothing
  /-- A place that could not be read. -/
  | fault (line : Nat) (text : String)
  /-- Assignments, and a program with its arguments. -/
  | simple (line : Nat) (assignments : List (String × List Part)) (words : List (List Part))
      (redirects : List Redirect)
  /-- The definition of a function. -/
  | define (name : String) (body : Script)
  /-- Scripts, each of which reads what the one before it prints. -/
  | pipeline (scripts : List Script)
  /-- A script whose success counts as failure and the other way round. -/
  | negate (s : Script)
  /-- The second script if the first one succeeds. -/
  | both (a b : Script)
  /-- The second script if the first one fails. -/
  | either (a b : Script)
  /-- One script after the other. -/
  | sequence (a b : Script)
  /-- A script that nobody waits for. -/
  | background (s : Script)
  /-- A script with redirections. -/
  | group (s : Script) (redirects : List Redirect)
  /-- A script whose variables are its own. -/
  | subshell (s : Script) (redirects : List Redirect)
  /-- A choice. -/
  | choice (condition yes no : Script)
  /-- A loop that goes on while its condition succeeds, or fails. -/
  | loop (whileFails : Bool) (condition body : Script)
  /-- A loop over words, or over the arguments. -/
  | each (name : String) (words : Option (List (List Part))) (body : Script)
  /-- A choice by patterns. -/
  | select (word : List Part) (arms : List (List (List Part) × Script))

end

instance : Inhabited Script := ⟨.nothing⟩

instance : Inhabited Redirect := ⟨.mk 0 .read []⟩

end Machine
end CodeDesk
