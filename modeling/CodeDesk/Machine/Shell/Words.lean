import CodeDesk.Machine.Shell.Basic

/-!
# Words

How the pieces of an expanded word become the words of a command. Pieces
that come from values are split at the characters of `IFS`; what results is
a list of fields, and a field that is a pattern is replaced by the paths
that it fits.
-/

namespace CodeDesk
namespace Machine

/-- A piece of an expanded word. -/
inductive Piece where
  /-- Characters that are what they are. -/
  | quoted (cs : List Char)
  /-- Characters that may be a pattern. -/
  | plain (cs : List Char)
  /-- Characters that may be a pattern and are split. -/
  | split (cs : List Char)
  /-- The end of a field. -/
  | cut
  /-- The end of a field that is not empty. -/
  | gap

/-- A field: its characters, and whether each may belong to a pattern. -/
abbrev Field := List (Char × Bool)

/-- The characters of a field. -/
def Field.chars (f : Field) : List Char := f.map Prod.fst

/-- The characters of a piece that is not split. -/
def Piece.chars : Piece → List Char
  | quoted cs => cs
  | plain cs => cs
  | split cs => cs
  | cut => [' ']
  | gap => [' ']

/-- A piece as a field. -/
def Piece.field : Piece → Field
  | quoted cs => cs.map fun c => (c, false)
  | p => p.chars.map fun c => (c, true)

/-! ## Fields -/

/-- Fields that have been found so far. -/
structure Fields where
  /-- Those that have ended. -/
  done : List Field
  /-- The one that has not. -/
  current : Option Field
  /-- Whether the last one was ended by blanks only. -/
  blanks : Bool

namespace Fields

/-- The characters that fields are split at unless `IFS` says otherwise. -/
def defaultSeparators : List Char := [' ', '\t', '\n']

/-- Add characters to the current field. -/
def add (fs : Fields) (f : Field) : Fields :=
  { fs with current := some (fs.current.getD [] ++ f), blanks := false }

/-- End the current field at a separator. Blanks that stand beside another
separator belong to it. -/
def separate (fs : Fields) (isBlank : Bool) : Fields :=
  match fs.current with
  | some f => ⟨fs.done ++ [f], none, isBlank⟩
  | none =>
    if isBlank then fs
    else if fs.blanks then { fs with blanks := false }
    else { fs with done := fs.done ++ [[]] }

/-- Split characters into fields. -/
def split (separators : List Char) (fs : Fields) (cs : List Char) : Fields :=
  cs.foldl (fun fs c =>
    if separators.contains c then fs.separate (defaultSeparators.contains c)
    else fs.add [(c, true)]) fs

/-- Add a piece. -/
def addPiece (separators : List Char) (fs : Fields) : Piece → Fields
  | .quoted cs => fs.add (cs.map fun c => (c, false))
  | .plain cs => fs.add (cs.map fun c => (c, true))
  | .split cs => fs.split separators cs
  | .cut => ⟨fs.done ++ [fs.current.getD []], none, false⟩
  | .gap => ⟨fs.done ++ fs.current.toList, none, false⟩

end Fields

/-- The fields of pieces. -/
def fieldsOf (separators : List Char) (ps : List Piece) : List Field :=
  let fs := ps.foldl (Fields.addPiece separators) ⟨[], none, false⟩
  fs.done ++ fs.current.toList

/-! ## Patterns -/

/-- The members of a set of characters in brackets, of which the opening
bracket has been read. -/
def bracket? (f : Field) : Option (List Char × Field) :=
  match (f.map Prod.fst).span (· ≠ ']') with
  | (cs, ']' :: _) => some (cs, f.drop (cs.length + 1))
  | _ => none

/-- Whether a character is in a set. -/
def inBracket (c : Char) : List Char → Bool
  | a :: '-' :: b :: rest => (a ≤ c && c ≤ b) || inBracket c rest
  | a :: rest => a == c || inBracket c rest
  | [] => false

/-- Whether characters match a pattern. -/
def fits : (fuel : Nat) → Field → List Char → Bool
  | 0, _, _ => false
  | _ + 1, [], cs => cs.isEmpty
  | fuel + 1, ('*', true) :: f, cs =>
    fits fuel f cs ||
      match cs with
      | [] => false
      | _ :: cs => fits fuel (('*', true) :: f) cs
  | fuel + 1, ('?', true) :: f, cs =>
    match cs with
    | [] => false
    | _ :: cs => fits fuel f cs
  | fuel + 1, ('[', true) :: f, cs =>
    match bracket? f, cs with
    | some ('!' :: set, f), c :: cs => !inBracket c set && fits fuel f cs
    | some (set, f), c :: cs => inBracket c set && fits fuel f cs
    | none, c :: cs => c == '[' && fits fuel f cs
    | _, [] => false
  | fuel + 1, (a, _) :: f, cs =>
    match cs with
    | [] => false
    | c :: cs => a == c && fits fuel f cs

/-- Whether characters match a pattern. -/
def matchesField (f : Field) (cs : List Char) : Bool :=
  fits (2 * (f.length + cs.length) + 2) f cs

/-- Whether a field is a pattern. -/
def isPattern (f : Field) : Bool :=
  f.any fun p => p.2 && (p.1 = '*' || p.1 = '?' || p.1 = '[')

/-- The segments of a field. -/
def segments (f : Field) : List Field :=
  f.foldr (fun p acc =>
    if p.1 = '/' then [] :: acc
    else
      match acc with
      | [] => [[p]]
      | s :: rest => (p :: s) :: rest) [[]]

/-- The paths below `base` that segments lead to. The paths are written
with `shown` in front. -/
def pathsAt (d : Disk) (base : Path) : (shown : String) → List Field → List String
  | shown, [] => [shown]
  | shown, seg :: rest =>
    let below (name : String) : List String :=
      let written := shown ++ name
      if rest.isEmpty then [written] else pathsAt d base (written ++ "/") rest
    if !isPattern seg then below (String.ofList (Field.chars seg))
    else
      let here := if shown.isEmpty then base else base.join ⟨shown⟩
      let names := ((d.list here).toOption.getD []).map Prod.fst
      let hidden := (Field.chars seg).head? == some '.'
      let fit := names.filter fun n =>
        (hidden || n.toList.head? != some '.') && matchesField seg n.toList
      (fit.mergeSort fun a b => decide (a ≤ b)).flatMap below

/-- The value without a matching start or end: the shortest one, or the
longest. -/
def cutValue (fromEnd most : Bool) (f : Field) (cs : List Char) : List Char :=
  let n := cs.length
  let lengths := if most then (List.range (n + 1)).reverse else List.range (n + 1)
  match lengths.find? fun i =>
      if fromEnd then matchesField f (cs.drop (n - i)) else matchesField f (cs.take i) with
  | some i => if fromEnd then cs.take (n - i) else cs.drop i
  | none => cs

/-! ## Words of a shell -/

namespace Shell

/-- The characters that the shell splits at. -/
def separators (s : Shell) : List Char :=
  match s.get? "IFS" with
  | some v => v.toList
  | none => Fields.defaultSeparators

/-- The words of a field: the paths it is a pattern for, or else the field
as it is. -/
def wordsOf (s : Shell) (f : Field) : List String :=
  let literal := String.ofList (Field.chars f)
  if s.options.literal || !isPattern f then [literal]
  else
    let found := (pathsAt s.console.disk s.dir "" (segments f)).filter fun w =>
      s.console.disk.exists? (s.dir.join ⟨w⟩)
    if found.isEmpty then [literal] else found

/-- The value of a name, which may be that of an argument or of something
that the shell knows. -/
def value? (s : Shell) (n : String) : Option String :=
  match n.toList with
  | [] => none
  | '?' :: _ => some (toString s.status)
  | '$' :: _ => some (toString processId)
  | '#' :: _ => some (toString s.args.length)
  | '!' :: _ =>
    if s.detached.isEmpty then none else some (toString (processId + s.detached.length))
  | '-' :: _ => some (if s.options.strict then "e" else "")
  | '@' :: _ => if s.args.isEmpty then none else some (String.intercalate " " s.args)
  | '*' :: _ => if s.args.isEmpty then none else some (String.intercalate " " s.args)
  | cs =>
    if cs.all isDigit then
      let i := digitsValue cs
      if i = 0 then some s.name else s.args[i - 1]?
    else s.get? n

/-- The pieces of all arguments. -/
def argumentPieces (s : Shell) (n : String) (quoted : Bool) : List Piece :=
  if quoted then
    if n = "*" then
      let sep := (s.separators.head?.map String.singleton).getD ""
      [.quoted (String.intercalate sep s.args).toList]
    else (s.args.map fun a => Piece.quoted a.toList).intersperse .cut
  else (s.args.map fun a => Piece.split a.toList).intersperse .gap

end Shell
end Machine
end CodeDesk
