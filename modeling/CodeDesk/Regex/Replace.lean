import CodeDesk.Regex.Search

/-!
# Replacement texts

A replacement may refer to the groups of a match: a dollar sign and a run of
letters, digits and underscores, or a dollar sign and any text in braces. A
number means the group of that number, another text the group of that name.
Two dollar signs stand for one, and one that introduces nothing stands for
itself.
-/

namespace CodeDesk
namespace Regex

/-- The text between the braces or the run of letters that follows a dollar
sign, and what comes after it. -/
def reference? (cs : List Char) : Option (List Char × List Char) :=
  match cs with
  | '\x7b' :: rest => cutFirst '\x7d' rest
  | _ =>
    let name := cs.takeWhile isIdentChar
    if name.isEmpty then none else some (name, cs.dropWhile isIdentChar)

/-- The text that a group of a match has matched; a group without part in
the match has none. -/
def groupText (cs : List Char) (slots : Slots) (i : Nat) : List Char :=
  match groupRange slots i with
  | some (a, b) => (cs.drop a).take (b - a)
  | none => []

/-- The text that a reference stands for. -/
def referenceText (p : Program) (cs : List Char) (slots : Slots) (name : List Char) : List Char :=
  match word? name with
  | some i => groupText cs slots i
  | none =>
    match p.names.find? fun n => n.1 == String.ofList name with
    | some n => groupText cs slots n.2
    | none => []

/-- A replacement with its references filled in from a match in `cs`. -/
def expandFrom (p : Program) (cs : List Char) (slots : Slots) :
    (fuel : Nat) → List Char → List Char
  | 0, text => text
  | _ + 1, [] => []
  | fuel + 1, c :: text =>
    if c ≠ '$' then c :: expandFrom p cs slots fuel text
    else
      match text with
      | '$' :: rest => '$' :: expandFrom p cs slots fuel rest
      | _ =>
        match reference? text with
        | some (name, rest) => referenceText p cs slots name ++ expandFrom p cs slots fuel rest
        | none => '$' :: expandFrom p cs slots fuel text

/-- `expandFrom` for a whole replacement. -/
def expand (p : Program) (cs : List Char) (slots : Slots) (text : List Char) : List Char :=
  expandFrom p cs slots (text.length + 1) text

/-- The text with its first match exchanged for a replacement. -/
def Program.replaceFirst (p : Program) (replacement cs : List Char) : List Char :=
  match p.searchFrom (Cursor.start cs) with
  | none => cs
  | some slots =>
    match groupRange slots 0 with
    | some (a, b) => cs.take a ++ expand p cs slots replacement ++ cs.drop b
    | none => cs

end Regex
end CodeDesk
