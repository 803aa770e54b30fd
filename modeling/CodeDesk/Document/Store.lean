import CodeDesk.Document.Buffer

/-!
# The store of buffers

Buffers are shared: the list of open documents, a search and its results
may all hold the same one. They hold its number in the store, which keeps
every buffer ever made together with the disk.
-/

namespace CodeDesk

/-- The number of a buffer in the store. -/
abbrev BufferId := Nat

/-- The disk and the buffers. -/
structure Store where
  /-- The files. -/
  disk : Disk
  /-- Every buffer made so far, by number. -/
  buffers : List Buffer
  deriving Inhabited

namespace Store

/-- A store without buffers. -/
def ofDisk (d : Disk) : Store := ⟨d, []⟩

/-- The buffer of a number. -/
def buffer? (s : Store) (id : BufferId) : Option Buffer := s.buffers[id]?

/-- Exchange a buffer. -/
def put (s : Store) (id : BufferId) (b : Buffer) : Store :=
  { s with buffers := s.buffers.set id b }

/-- Change a buffer. -/
def modify (s : Store) (id : BufferId) (f : Buffer → Buffer) : Store :=
  match s.buffer? id with
  | some b => s.put id (f b)
  | none => s

/-- Put in a new buffer. -/
def insert (s : Store) (b : Buffer) : BufferId × Store :=
  (s.buffers.length, { s with buffers := s.buffers ++ [b] })

/-- The time, and the store with the clock moved on. -/
def tick (s : Store) : Stamp × Store := (s.disk.tick.1, { s with disk := s.disk.tick.2 })

/-- Make a buffer of a file. -/
def openFile (s : Store) (path : Path) : Except DocumentError (BufferId × Store) :=
  match Buffer.ofFile s.disk path with
  | .ok b => .ok (s.insert b)
  | .error e => .error e

/-- Make a buffer of a text that was never saved. -/
def ofText (s : Store) (path : Path) (text : String) : BufferId × Store :=
  s.tick.2.insert (Buffer.ofText s.tick.1 path text)

/-- Put back the disk and a buffer after an operation on both. -/
def restore (s : Store) (id : BufferId) (r : Except DocumentError Unit × Disk × Buffer) :
    Except DocumentError Unit × Store :=
  (r.1, { s with disk := r.2.1 }.put id r.2.2)

/-- Save a buffer. -/
def save (s : Store) (id : BufferId) : Except DocumentError Unit × Store :=
  match s.buffer? id with
  | some b => s.restore id (b.save s.disk)
  | none => (.ok (), s)

/-- Revert a buffer. -/
def revert (s : Store) (id : BufferId) : Except DocumentError Unit × Store :=
  match s.buffer? id with
  | some b => s.restore id (b.revert s.disk)
  | none => (.ok (), s)

/-- Keep the unsaved changes of a buffer. -/
def autosave (s : Store) (id : BufferId) : Except DocumentError (Bool × Store) :=
  match s.buffer? id with
  | some b => (b.autosave s.disk).map fun r => (r.1, { s with disk := r.2 })
  | none => .ok (false, s)

/-- Close a buffer. -/
def close (s : Store) (id : BufferId) : Store := s.modify id fun b => { b with attached := false }

/-- Exchange the text of a buffer. -/
def setText (s : Store) (id : BufferId) (text : String) : Store :=
  s.tick.2.modify id fun b => b.setText s.tick.1 text

/-- Mark a buffer as changed or as saved. -/
def setDirty (s : Store) (id : BufferId) (dirty : Bool) : Store :=
  s.modify id fun b => { b with dirty := dirty }

/-- Highlight regions of a buffer. -/
def highlight (s : Store) (id : BufferId) (rs : List Region) : Store :=
  s.modify id fun b => { b with highlights := rs }

/-- Exchange the text of a region of a buffer. -/
def replace (s : Store) (id : BufferId) (region : Region) (text : String) (keepCase : Bool) :
    Except DocumentError (TextEdit × Store) :=
  match s.buffer? id with
  | none => .error (.invalidRegion region)
  | some b =>
    match b.replace s.tick.1 region text keepCase with
    | .ok (b, edit) => .ok (edit, s.tick.2.put id b)
    | .error e => .error e

/-- Whether a buffer is open. -/
def isAttached (s : Store) (id : BufferId) : Bool :=
  match s.buffer? id with
  | some b => b.attached
  | none => false

/-- Whether a buffer has unsaved changes. -/
def isDirty (s : Store) (id : BufferId) : Bool :=
  match s.buffer? id with
  | some b => b.dirty
  | none => false

/-- The name of a buffer's file. -/
def nameOf (s : Store) (id : BufferId) : String :=
  match s.buffer? id with
  | some b => b.name
  | none => ""

/-- The path of a buffer's file. -/
def pathOf (s : Store) (id : BufferId) : Path :=
  match s.buffer? id with
  | some b => b.path
  | none => Path.empty

/-- The text of a buffer. -/
def textOf (s : Store) (id : BufferId) : String :=
  match s.buffer? id with
  | some b => b.text
  | none => ""

end Store
end CodeDesk
