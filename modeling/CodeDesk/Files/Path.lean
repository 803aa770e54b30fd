import CodeDesk.Text.Split

/-!
# Paths

A path is a text whose segments are separated by slashes. Empty segments
and segments `.` after the first mean nothing, so two paths name the same
place in the same way when their components agree: `a//b/` and `a/./b` are
equal. The operations cut and join texts and leave the segments they do
not touch as they were written.
-/

namespace CodeDesk

/-- A path as it is written. -/
structure Path where
  /-- The text of the path. -/
  text : String
  deriving DecidableEq, Repr, Inhabited

/-- One meaningful part of a path. -/
inductive Component where
  /-- The slash an absolute path starts with. -/
  | root
  /-- The `.` a relative path may start with. -/
  | current
  /-- A segment `..`. -/
  | parent
  /-- A segment that names an entry. -/
  | name (text : String)
  deriving DecidableEq, Repr, Inhabited, Ord

/-- What a segment means after the first one. -/
def Component.ofSegment (seg : List Char) : Option Component :=
  if seg = [] || seg = ['.'] then none
  else if seg = ['.', '.'] then some .parent
  else some (.name (String.ofList seg))

namespace Path

/-- The path with no text. -/
def empty : Path := ⟨""⟩

/-- Whether the path starts with a slash. -/
def isAbsolute (p : Path) : Bool := p.text.toList.head? == some '/'

/-- The segments between the slashes. -/
def segments (p : Path) : List (List Char) := splitChars '/' p.text.toList

/-- The first segment with its meaning. -/
def firstComponent (p : Path) : List Component :=
  match p.segments with
  | [] => []
  | first :: rest =>
    if first = [] then if rest.isEmpty then [] else [.root]
    else if first = ['.'] then [.current]
    else (Component.ofSegment first).toList

/-- The meaningful parts of a path. -/
def components (p : Path) : List Component :=
  p.firstComponent ++ p.segments.tail.filterMap Component.ofSegment

/-- Paths are the same when their components are. -/
instance : BEq Path := ⟨fun a b => a.components == b.components⟩

/-- Paths in the order of their components. -/
instance : Ord Path := ⟨fun a b => compare a.components b.components⟩

/-- The segments without the meaningless ones at the end. The first segment
stays unless it is the only text of a path without text. -/
def dropIdle (segs : List (List Char)) : List (List Char) :=
  match segs with
  | [] => []
  | first :: rest =>
    first :: (rest.reverse.dropWhile fun s => (Component.ofSegment s).isNone).reverse

/-- A path of segments; only a root is written as a single slash. -/
def ofSegments (segs : List (List Char)) : Path :=
  match segs with
  | [[]] => ⟨"/"⟩
  | _ => ⟨String.ofList (joinChars '/' segs)⟩

/-- The last meaningful part. -/
def lastComponent (p : Path) : Option Component := p.components.getLast?

/-- The path without its last part; a root has none, and neither has a path
without text. -/
def parent? (p : Path) : Option Path :=
  match p.lastComponent with
  | none => none
  | some .root => none
  | some _ =>
    match dropIdle p.segments with
    | [] => none
    | [_] => some empty
    | segs => some (ofSegments (dropIdle segs.dropLast))

/-- The name of the entry the path leads to, if its last part is a name. -/
def fileName? (p : Path) : Option String :=
  match p.lastComponent with
  | some (.name n) => some n
  | _ => none

/-- The name of the entry, or no text. -/
def fileName (p : Path) : String := p.fileName?.getD ""

/-- The name split at its last dot. A dot at the start does not count. -/
def stemAndExtension (name : String) : String × Option String :=
  match cutLast '.' name.toList with
  | none => (name, none)
  | some ([], _) => (name, none)
  | some (stem, ext) => (String.ofList stem, some (String.ofList ext))

/-- The name without its extension. -/
def fileStem? (p : Path) : Option String := p.fileName?.map fun n => (stemAndExtension n).1

/-- What follows the last dot of the name. -/
def extension? (p : Path) : Option String := p.fileName?.bind fun n => (stemAndExtension n).2

/-- `q` taken from `p`: an absolute `q` stands for itself. -/
def join (p q : Path) : Path :=
  if q.isAbsolute then q
  else if p.text.isEmpty || p.text.toList.getLast? == some '/' then ⟨p.text ++ q.text⟩
  else ⟨p.text ++ "/" ++ q.text⟩

/-- The entry `name` below `p`. -/
def child (p : Path) (name : String) : Path := p.join ⟨name⟩

/-- The path with another name for its last entry. -/
def withFileName (p : Path) (name : String) : Path :=
  if p.fileName?.isSome then (p.parent?.getD empty).child name else p.child name

/-- Whether the components of `a` begin those of `b`. -/
def leads : (a b : List Component) → Bool
  | [], _ => true
  | _ :: _, [] => false
  | a :: as, b :: bs => a == b && leads as bs

/-- The segments from the `n`-th meaningful one on. -/
def dropNames : (n : Nat) → List (List Char) → List (List Char)
  | _, [] => []
  | n, s :: rest =>
    if (Component.ofSegment s).isNone then dropNames n rest
    else match n with
      | 0 => s :: rest
      | n + 1 => dropNames n rest

/-- The rest of `p` below `base`, if `base` leads to it. -/
def stripPrefix? (p base : Path) : Option Path :=
  let cs := base.components
  if !leads cs p.components then none
  else if cs.isEmpty then
    match p.segments with
    | [[]] => some empty
    | segs => some (ofSegments (dropIdle segs))
  else
    let rest := dropNames (cs.length - p.firstComponent.length) p.segments.tail
    match dropIdle rest with
    | [] => some empty
    | segs => some ⟨String.ofList (joinChars '/' segs)⟩

/-- The path of a list of parts. -/
def ofComponents (cs : List Component) : Path :=
  cs.foldl (fun p c => match c with
    | .root => ⟨"/"⟩
    | .current => p.child "."
    | .parent => p.child ".."
    | .name n => p.child n) empty

/-- `p` with its parts written plainly, taken from the directory `cwd` when
it is relative. Links are not followed and `..` stays. A path without text
has no absolute form. -/
def absolute? (cwd p : Path) : Option Path :=
  if p.text.isEmpty then none
  else
    let cs := match p.components with
      | .current :: rest => rest
      | cs => cs
    let start := if p.isAbsolute then empty else cwd
    let plain := cs.foldl (fun q c => match c with
      | .root => ⟨"/"⟩
      | .current => q.child "."
      | .parent => q.child ".."
      | .name n => q.child n) start
    some (if p.text.toList.getLast? == some '/' then plain.child "" else plain)

end Path
end CodeDesk
