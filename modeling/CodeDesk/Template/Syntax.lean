import CodeDesk.Text.Split

/-!
# Templates

A template is a text that refers to variables as names in braces. A
backslash before an opening brace takes the braces and what they enclose as
they stand. A brace that is never closed, or that encloses something other
than a name, stands for itself. Values that take the place of a reference
are not read again.

Two functions read templates, each in a pass of its own: `bind` puts a value
in the place of each reference, and `names` lists the references.
-/

namespace CodeDesk
namespace Template

/-- Whether a text may be the name of a variable. -/
def isName (cs : List Char) : Bool := !cs.isEmpty && cs.all isIdentChar

/-- What follows a separator is shorter than the text. -/
theorem cutFirst_length {sep : Char} {cs a b : List Char} (h : cutFirst sep cs = some (a, b)) :
    b.length < cs.length := by
  induction cs generalizing a b with
  | nil => simp [cutFirst] at h
  | cons c cs ih =>
    simp only [cutFirst] at h
    split at h
    · simp only [Option.some.injEq, Prod.mk.injEq] at h
      obtain ⟨-, rfl⟩ := h
      simp
    · simp only [Option.map_eq_some_iff] at h
      obtain ⟨⟨x, y⟩, hxy, hp⟩ := h
      simp only [Prod.mk.injEq] at hp
      obtain ⟨-, rfl⟩ := hp
      have := ih hxy
      simp only [List.length_cons]
      omega

/-- Bind the template `cs`: every reference gives way to its value under
`lookup`, or to no text where `lookup` knows none. -/
def bindChars (lookup : String → Option String) : List Char → List Char
  | [] => []
  | c :: cs =>
    if c = '\\' then
      if cs.head? = some '\x7b' then
        match h : cutFirst '\x7d' cs with
        | some (inner, rest) =>
          have := cutFirst_length h
          inner ++ '\x7d' :: bindChars lookup rest
        | none => cs
      else c :: bindChars lookup cs
    else if c = '\x7b' then
      match h : cutFirst '\x7d' cs with
      | some (name, rest) =>
        have := cutFirst_length h
        if isName name then
          ((lookup (String.ofList name)).getD "").toList ++ bindChars lookup rest
        else c :: bindChars lookup cs
      | none => c :: cs
    else c :: bindChars lookup cs
termination_by cs => cs.length

/-- A template with every reference replaced by its value under `lookup`. -/
def bind (lookup : String → Option String) (template : String) : String :=
  String.ofList (bindChars lookup template.toList)

/-- The names a template refers to, in order. -/
def namesOf : List Char → List String
  | [] => []
  | c :: cs =>
    if c = '\\' then
      match cs.head? == some '\x7b', h : cutFirst '\x7d' cs with
      | true, some (_, rest) =>
        have := cutFirst_length h
        namesOf rest
      | true, none => []
      | false, _ => namesOf cs
    else if c = '\x7b' then
      match h : cutFirst '\x7d' cs with
      | some (name, rest) =>
        have := cutFirst_length h
        if isName name then String.ofList name :: namesOf rest else namesOf cs
      | none => []
    else namesOf cs
termination_by cs => cs.length

/-- The names of every variable that binding a template looks up. -/
def names (template : String) : List String := namesOf template.toList

end Template
end CodeDesk
