import CodeDesk.Document.Store

/-!
# Open documents

The list of the documents that are open, most recently used first. A buffer
that was closed elsewhere stays in the list until the list is next read, and
is dropped then; the functions here answer as if that were done.
-/

namespace CodeDesk

/-- The numbers of the open buffers, most recently used first. -/
structure OpenList where
  /-- The buffers. -/
  ids : List BufferId
  deriving Inhabited, Repr, DecidableEq

namespace OpenList

/-- No open documents. -/
def empty : OpenList := ⟨[]⟩

/-- Bring a buffer to the front; the result tells whether it was new. -/
def add (l : OpenList) (id : BufferId) : Bool × OpenList :=
  (!l.ids.contains id, ⟨id :: l.ids.filter (· != id)⟩)

/-- Take a buffer out; the result tells whether it was there. -/
def remove (l : OpenList) (id : BufferId) : Bool × OpenList :=
  (l.ids.contains id, ⟨l.ids.filter (· != id)⟩)

/-- The list without the buffers that were closed. -/
def live (l : OpenList) (s : Store) : OpenList := ⟨l.ids.filter s.isAttached⟩

/-- The open buffers. -/
def buffers (l : OpenList) (s : Store) : List BufferId := (l.live s).ids

/-- The mark of a document with unsaved changes. -/
def dirtyMark : String := "*"

/-- The name of a buffer's tab. -/
def tabName (s : Store) (id : BufferId) : String :=
  if s.isDirty id then s.nameOf id ++ dirtyMark else s.nameOf id

/-- The names of the tabs. -/
def names (l : OpenList) (s : Store) : List String := (l.buffers s).map (tabName s)

/-- The open buffers with unsaved changes. -/
def dirty (l : OpenList) (s : Store) : List BufferId := (l.buffers s).filter s.isDirty

/-- How many documents have unsaved changes. -/
def changed (l : OpenList) (s : Store) : Nat := (l.dirty s).length

/-- A tab's name without its mark. -/
def dropMark (name : String) : String :=
  match name.toList.reverse with
  | '*' :: rest => String.ofList rest.reverse
  | _ => name

/-- The first document of a name, which may carry a mark. -/
def byName (l : OpenList) (s : Store) (name : String) : Option BufferId :=
  (l.buffers s).find? fun id => s.nameOf id == dropMark name

/-- The first document of a path. -/
def byPath (l : OpenList) (s : Store) (p : Path) : Option BufferId :=
  (l.buffers s).find? fun id => s.pathOf id == p

/-- Save buffers one after the other up to the first failure, and after each
of them do what `after` says. The result holds the buffers that were
saved. -/
def saveEach {σ : Type} (save : BufferId → σ → Except DocumentError Unit × σ)
    (after : BufferId → σ → σ) :
    List BufferId → σ → Except DocumentError Unit × List BufferId × σ
  | [], s => (.ok (), [], s)
  | id :: ids, s =>
    match save id s with
    | (.error e, s) => (.error e, [], s)
    | (.ok (), s) =>
      let (r, saved, s) := saveEach save after ids (after id s)
      (r, id :: saved, s)

/-- Save every document with unsaved changes. The result holds the buffers
that were saved, also when a later one failed. -/
def saveAll (l : OpenList) (s : Store) : Except DocumentError Nat × List BufferId × Store :=
  let (r, saved, s) := saveEach (fun id s => s.save id) (fun _ s => s) (l.dirty s) s
  (r.map fun _ => saved.length, saved, s)

end OpenList

end CodeDesk
