import CodeDesk.Settings.Stored

/-!
# Recent paths

The paths that were used last, the newest first. A path that is used again
moves to the front, and the oldest ones are dropped when there are too
many.
-/

namespace CodeDesk
namespace Settings

/-- The paths that were used last. -/
structure Recent where
  /-- The paths, the newest first. -/
  paths : List Path
  /-- How many are kept. -/
  max : Nat
  deriving Inhabited

namespace Recent

/-- How many paths are kept if nothing else is said. -/
def standardMax : Nat := 25

/-- No paths, of which `max` are kept. -/
def withMax (max : Nat) : Recent := ⟨[], max⟩

/-- The paths other than `p`. -/
def others (r : Recent) (p : Path) : List Path := r.paths.filter fun q => !(q == p)

/-- Use a path. -/
def add (r : Recent) (p : Path) : Recent := { r with paths := (p :: r.others p).take r.max }

/-- Take a path away. The answer is whether it was there. -/
def remove (r : Recent) (p : Path) : Bool × Recent :=
  ((r.others p).length != r.paths.length, { r with paths := r.others p })

/-- Keep the paths that lead somewhere. -/
def prune (r : Recent) (d : Disk) : Recent := { r with paths := r.paths.filter d.exists? }

/-- Change how many paths are kept. -/
def setMax (r : Recent) (max : Nat) : Recent := ⟨r.paths.take max, max⟩

/-- Read paths; either field may be missing. -/
def ofValue? (v : Value) : Option Recent := do
  let fs ← v.record? ["paths", "max"]
  match fs with
  | [paths, max] =>
    let paths ← Value.defaulted [] (Value.listOf? Value.text?) paths
    let max ← Value.defaulted standardMax Value.word? max
    some ⟨paths.map Path.mk, max⟩
  | _ => none

/-- The paths as a document has them. -/
def toValue (r : Recent) : Value :=
  .map [("paths", .texts (r.paths.map (·.text))), ("max", .nat r.max)]

instance : Stored Recent := ⟨withMax standardMax, ofValue?, toValue⟩

end Recent
end Settings
end CodeDesk
