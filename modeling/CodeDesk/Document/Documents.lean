import CodeDesk.Document.OpenList

/-!
# The documents of a desk

The store of buffers together with the list of the open ones. Whatever reads
the list drops the buffers from it that were closed, so readers return the
documents as well as their answer.
-/

namespace CodeDesk

/-- The buffers and which of them are open. -/
structure Documents where
  /-- The buffers. -/
  store : Store
  /-- The open ones. -/
  list : OpenList
  deriving Inhabited

/-- What to do about unsaved changes. -/
inductive SaveChoice where
  /-- Do not go on. -/
  | cancel
  /-- Go on without saving. -/
  | discard
  /-- Save and go on. -/
  | saveAll
  deriving DecidableEq, Repr, Inhabited

/-- The outcome of a question about unsaved changes. -/
structure SaveCheck where
  /-- Whether there were unsaved changes, or why saving failed. -/
  unsaved : Except DocumentError Bool
  /-- The number of changed documents the user was asked about, if the user
  was asked. -/
  asked : Option Nat
  /-- The buffers that were saved. -/
  saved : List BufferId
  /-- Whether to go on. -/
  proceeds : Bool

namespace Documents

/-- No documents. -/
def ofDisk (d : Disk) : Documents := ⟨Store.ofDisk d, OpenList.empty⟩

/-- Drop the buffers that were closed from the list. -/
def purge (d : Documents) : Documents := { d with list := d.list.live d.store }

/-- Read the list. -/
def read {α : Type} (d : Documents) (f : OpenList → Store → α) : α × Documents :=
  (f d.list d.store, d.purge)

/-- Bring a buffer to the front; the result tells whether it was new. -/
def add (d : Documents) (id : BufferId) : Bool × Documents :=
  ((d.list.add id).1, { d with list := (d.list.add id).2 })

/-- Take a buffer out; the result tells whether it was there. -/
def remove (d : Documents) (id : BufferId) : Bool × Documents :=
  ((d.list.remove id).1, { d with list := (d.list.remove id).2 })

/-- The open buffers. -/
def buffers (d : Documents) : List BufferId × Documents := d.read OpenList.buffers

/-- The names of the tabs. -/
def names (d : Documents) : List String × Documents := d.read OpenList.names

/-- How many documents have unsaved changes. -/
def changed (d : Documents) : Nat × Documents := d.read OpenList.changed

/-- The first document of a name, which may carry a mark. -/
def byName (d : Documents) (name : String) : Option BufferId × Documents :=
  d.read fun l s => l.byName s name

/-- The first document of a path. -/
def byPath (d : Documents) (p : Path) : Option BufferId × Documents :=
  d.read fun l s => l.byPath s p

/-- Save every document with unsaved changes. The result holds the buffers
that were saved, also when a later one failed. -/
def saveAll (d : Documents) : Except DocumentError Nat × List BufferId × Documents :=
  let (r, saved, s) := d.list.saveAll d.store
  (r, saved, { d.purge with store := s })

/-- The buffers with unsaved changes. -/
def dirty (d : Documents) : List BufferId × Documents := d.read OpenList.dirty

/-- Deal with unsaved changes before going on, where `changed` counts the
documents that have some and `saveAll` saves them. The user is asked only
when there are some, and cannot cancel unless `canCancel` is set. -/
def checkUnsaved {σ : Type} (changed : σ → Nat × σ)
    (saveAll : σ → Except DocumentError Nat × List BufferId × σ) (canCancel : Bool)
    (choice : SaveChoice) (s : σ) : SaveCheck × σ :=
  let (n, s) := changed s
  if n = 0 then (⟨.ok false, none, [], true⟩, s)
  else
    match choice with
    | .cancel => (⟨.ok true, some n, [], !canCancel⟩, s)
    | .discard => (⟨.ok true, some n, [], true⟩, s)
    | .saveAll =>
      match saveAll s with
      | (.ok _, saved, s) => (⟨.ok true, some n, saved, true⟩, s)
      | (.error e, saved, s) => (⟨.error e, some n, saved, false⟩, s)

/-- Deal with unsaved changes before going on. -/
def saveAllCheck (d : Documents) (canCancel : Bool) (choice : SaveChoice) :
    SaveCheck × Documents :=
  checkUnsaved changed saveAll canCancel choice d

end Documents
end CodeDesk
