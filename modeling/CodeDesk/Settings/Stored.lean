import CodeDesk.Data.Json.Parser
import CodeDesk.Data.Json.Printer
import CodeDesk.Files.Disk

/-!
# State that is kept in a file

A value that an editor keeps between its runs, as a JSON document. A
`StateFile` is such a value together with the path of its document; the
document is written whenever the value changes.

Writing may fail at any point, for reasons that are not on the disk, and what
goes wrong is an argument of every operation that writes (`Mishap`). A desk
takes the operations where nothing goes wrong.
-/

namespace CodeDesk
namespace Settings

/-- Values that documents hold. -/
class Stored (α : Type) where
  /-- The value that is there when no document was written. -/
  standard : α
  /-- Read a value from a document. -/
  ofValue? : Value → Option α
  /-- The value as a document has it. -/
  toValue : α → Value

/-- Why a state was not read or written. -/
inductive StateError where
  /-- The text does not hold the state. -/
  | reading
  /-- The file does not hold the state, or cannot be read. -/
  | loading
  /-- The file cannot be written. -/
  | saving
  /-- The file of a new state cannot be written. -/
  | creating
  deriving DecidableEq, Repr, Inhabited

/-- The wording of an error. -/
def StateError.message : StateError → String
  | reading => "reading state"
  | loading => "loading state"
  | saving => "saving state"
  | creating => "saving state file"

variable {α : Type} [Stored α]

/-- The text of a document. -/
def textOf (a : α) : String := Json.pretty (Stored.toValue a)

/-- The value of a document. -/
def ofBytes? (bytes : Bytes) : Option α :=
  ((Utf8.decode? bytes).bind Json.parse?).bind Stored.ofValue?

/-- The value of a document, or why there is none. -/
def ofBytes (bytes : Bytes) : Except StateError α :=
  match ofBytes? bytes with
  | some a => .ok a
  | none => .error .reading

/-- The value of the document in a file. -/
def load? (d : Disk) (p : Path) : Option α := (d.read p).toOption.bind ofBytes?

/-! ## Writing -/

/-- What goes wrong while a document is written, beside what the disk does not
allow. A call that fails does nothing. -/
inductive Mishap where
  /-- Nothing. -/
  | calm
  /-- The directories that lead to the document cannot be created. -/
  | directories
  /-- The file cannot be opened. -/
  | opening
  /-- After so many bytes of the text, none can be written any more. -/
  | writing (room : Nat)
  deriving DecidableEq, Repr

/-- What of a text is written. -/
def Mishap.kept : Mishap → Bytes → Bytes
  | writing room, bytes => bytes.take room
  | _, bytes => bytes

/-- What has become of a document that was to be written. -/
inductive Written where
  /-- The file was not touched. -/
  | nothing
  /-- The beginning of the document is all there is. -/
  | part
  /-- The document was written. -/
  | whole
  deriving DecidableEq, Repr

/-- Whether the document was written. -/
def Written.isWhole : Written → Bool
  | whole => true
  | _ => false

/-- Create the directories that lead to a document. -/
def readyBy (m : Mishap) (d : Disk) (p : Path) : Option Disk :=
  match p.parent? with
  | some dir => if m = .directories then none else (d.createDirs dir).toOption
  | none => some d

/-- Open a file, which empties it, and write a text. -/
def writeBy (m : Mishap) (d : Disk) (p : Path) (bytes : Bytes) : Written × Disk :=
  if m = .opening then (.nothing, d)
  else
    match d.write p (m.kept bytes) with
    | .error _ => (.nothing, d)
    | .ok d => (if m.kept bytes = bytes then .whole else .part, d)

/-- Write a document, and the directories that lead to it. The second part
of the answer is the disk as it is then. -/
def storeBy (m : Mishap) (d : Disk) (p : Path) (a : α) : Written × Disk :=
  match readyBy m d p with
  | none => (.nothing, d)
  | some d => writeBy m d p (Utf8.encode (textOf a))

/-! ## State files -/

/-- A value and the path of its document. -/
structure StateFile (α : Type) where
  /-- The path. -/
  path : Path
  /-- The value. -/
  current : α
  deriving Inhabited

namespace StateFile

variable {β : Type}

/-- The value of the document at a path, if it can be read. If not, it is
written with the standard value. -/
def openBy (m : Mishap) (readable : Bool) (d : Disk) (p : Path) :
    Except StateError (StateFile α) × Disk :=
  match if readable then load? d p else none with
  | some a => (.ok ⟨p, a⟩, d)
  | none =>
    let a : α := Stored.standard
    let (written, d) := storeBy m d p a
    (if written.isWhole then .ok ⟨p, a⟩ else .error .creating, d)

/-- Read the document again, if it can be read. -/
def loadBy (readable : Bool) (f : StateFile α) (d : Disk) : Except StateError (StateFile α) :=
  match if readable then load? d f.path else none with
  | some a => .ok { f with current := a }
  | none => .error .loading

/-- Write the document. -/
def saveBy (m : Mishap) (f : StateFile α) (d : Disk) : Except StateError Unit × Disk :=
  let (written, d) := storeBy m d f.path f.current
  (if written.isWhole then .ok () else .error .saving, d)

/-- Change the value and write the document. The value changes even if the
document cannot be written. -/
def updateBy (m : Mishap) (f : StateFile α) (d : Disk) (change : α → β × α) :
    Except StateError β × StateFile α × Disk :=
  let (b, a) := change f.current
  let f := { f with current := a }
  let (saved, d) := f.saveBy m d
  (saved.map fun _ => b, f, d)

/-- Open a state file, where nothing goes wrong. -/
def openAt (d : Disk) (p : Path) : Except StateError (StateFile α) × Disk := openBy .calm true d p

/-- Read the document again, where nothing goes wrong. -/
def load (f : StateFile α) (d : Disk) : Except StateError (StateFile α) := f.loadBy true d

/-- Write the document, where nothing goes wrong. -/
def save (f : StateFile α) (d : Disk) : Except StateError Unit × Disk := f.saveBy .calm d

/-- Change the value and write the document, where nothing goes wrong. -/
def update (f : StateFile α) (d : Disk) (change : α → β × α) :
    Except StateError β × StateFile α × Disk :=
  f.updateBy .calm d change

end StateFile
end Settings
end CodeDesk
