import CodeDesk.Files.Disk

/-!
# Changes of a disk

What has to be done to one disk to make it another. `Disk.changesTo` lists
the changes in an order in which each can be made: what is gone goes first,
from the deepest entry up, and a directory is made before its contents.
-/

namespace CodeDesk

/-- One change of a disk. -/
inductive Change where
  /-- A file or a link is removed. -/
  | removeFile (at_ : Location)
  /-- An empty directory is removed. -/
  | removeDir (at_ : Location)
  /-- A directory is made. -/
  | makeDir (at_ : Location)
  /-- A link is made. -/
  | makeLink (at_ : Location) (target : String)
  /-- A file is written. -/
  | write (at_ : Location) (bytes : Bytes)
  deriving DecidableEq, Repr, Inhabited

/-- The removal of an entry. -/
def Entry.removal (at_ : Location) : Entry → Change
  | .dir => .removeDir at_
  | _ => .removeFile at_

/-- The making of an entry. -/
def Entry.making (at_ : Location) : Entry → Change
  | .dir => .makeDir at_
  | .link target => .makeLink at_ target
  | .file bytes _ _ => .write at_ bytes

/-- Whether an entry holds what another does. Times and permissions do not
count. -/
def Entry.holdsSame : Entry → Entry → Bool
  | .dir, .dir => true
  | .link a, .link b => a == b
  | .file a _ _, .file b _ _ => a == b
  | _, _ => false

/-- Whether an entry can be written over another of its kind. -/
def Entry.sameKind (a b : Entry) : Bool :=
  (a.isDir && b.isDir) || (a.isFile && b.isFile)

namespace Disk

/-- What `d` holds and `e` does not, or as something of another kind. -/
def gone (d e : Disk) : List (Location × Entry) :=
  d.entries.filter fun x =>
    match e.entryAt? x.1 with
    | some y => !(x.2.sameKind y || x.2.holdsSame y)
    | none => true

/-- What `e` holds and `d` does not, or with other contents. -/
def fresh (d e : Disk) : List (Location × Entry) :=
  e.entries.filter fun y =>
    match d.entryAt? y.1 with
    | some x => !x.holdsSame y.2
    | none => true

/-- What has to be done to `d` to make it `e`. -/
def changesTo (d e : Disk) : List Change :=
  (((d.gone e).mergeSort fun a b => decide (b.1.length ≤ a.1.length)).map fun x =>
      x.2.removal x.1) ++
    ((d.fresh e).mergeSort fun a b => decide (a.1.length ≤ b.1.length)).map fun y =>
      y.2.making y.1

end Disk
end CodeDesk
