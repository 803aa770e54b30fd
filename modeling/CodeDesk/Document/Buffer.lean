import CodeDesk.Document.Language
import CodeDesk.Document.Sidecar
import CodeDesk.Files.Disk
import CodeDesk.Regex.Search
import CodeDesk.Text.Region
import CodeDesk.Unicode.CaseMap
import CodeDesk.Unicode.Property

/-!
# Buffers

A buffer is the text of one open document. It is read from its file, edited
in memory and written back; unsaved changes may be kept in the sidecar. The
operations that reach the disk return the disk and the buffer as they are
afterwards together with the outcome, since a failure may come after a part
of the work is done. They are carried out with calls of a file system any of
which may fail; a desk carries them out on its disk, where only the calls
fail that have to.

A replacement may take on the case of the text it replaces: all capitals, all
small letters, or a capital first letter.
-/

namespace CodeDesk

/-- The regions of the matches that have text. -/
def findRegions (p : Regex.Program) (text : String) : List Region :=
  regionsOf text.toList ((p.findAll text.toList).filter fun m => m.1 < m.2)

open Unicode in
/-- A replacement in the case of `matched`. A text without letters and a
text of mixed case leave it as it is, and a single capital counts as a
capital first letter. -/
def matchCase (matched replacement : String) : String :=
  let letters := matched.toList.filter alphabetic.contains
  match letters with
  | [] => replacement
  | first :: others =>
    if letters.all uppercase.contains && !others.isEmpty then upper replacement
    else if letters.all lowercase.contains then lower replacement
    else if uppercase.contains first && others.all lowercase.contains then
      match replacement.toList with
      | [] => ""
      | c :: cs => String.ofList (upperChar c ++ cs.flatMap lowerChar)
    else replacement

/-- Why an operation on a document failed. -/
inductive DocumentError where
  /-- The file cannot be read. -/
  | read (path : Path)
  /-- The file cannot be written. -/
  | write (path : Path)
  /-- The region lies outside the text. -/
  | invalidRegion (region : Region)
  /-- The buffer was closed. -/
  | detached (path : Path)
  deriving DecidableEq, Repr, Inhabited

/-- The wording of an error. -/
def DocumentError.message : DocumentError → String
  | read path => s!"reading {path.text}"
  | write path => s!"writing {path.text}"
  | invalidRegion region => s!"region {region.text} is outside the buffer"
  | detached path => s!"buffer {path.text} is no longer open"

/-- The text of one document. -/
structure Buffer where
  /-- The file the text belongs to. -/
  path : Path
  /-- The text. -/
  text : String
  /-- Whether there are unsaved changes. -/
  dirty : Bool
  /-- Whether the buffer is still open. -/
  attached : Bool
  /-- When the text was last changed, in memory or on disk. -/
  modified : Stamp
  /-- The regions an editor shows highlighted. -/
  highlights : List Region
  deriving Inhabited, Repr, DecidableEq

namespace Buffer

/-- The name of the file. -/
def name (b : Buffer) : String := b.path.fileName

/-- The language of the file. -/
def language? (b : Buffer) : Option Language := Language.ofPath? b.path

/-- Whether unsaved changes are kept in a sidecar: not those of a
sidecar. -/
def keepsSidecar (b : Buffer) : Bool := !isSidecar b.path

/-- The text and the time of a file. -/
def readFileBy (c : Disk.Calls) (d : Disk) (path : Path) :
    Except DocumentError (String × Stamp) :=
  match c.read d path, c.modified d path with
  | .ok bytes, .ok t => .ok (Utf8.decodeLossy bytes, t)
  | _, _ => .error (.read path)

/-- The text and the time of a file, where only the calls fail that have
to. -/
def readFile (d : Disk) (path : Path) : Except DocumentError (String × Stamp) :=
  readFileBy .ofDisk d path

/-- The buffer of a file on disk. -/
def ofFile (d : Disk) (path : Path) : Except DocumentError Buffer :=
  match readFile d path with
  | .ok (text, t) => .ok ⟨path, text, false, true, t, []⟩
  | .error e => .error e

/-- A buffer for a file whose text was never saved. -/
def ofText (t : Stamp) (path : Path) (text : String) : Buffer := ⟨path, text, true, true, t, []⟩

/-- Exchange the whole text. -/
def setText (b : Buffer) (t : Stamp) (text : String) : Buffer :=
  { b with text := text, dirty := true, modified := t }

/-- Exchange the text of a region, in the case of the text that was there
if `keepCase` is set. -/
def replace (b : Buffer) (t : Stamp) (region : Region) (text : String) (keepCase : Bool) :
    Except DocumentError (Buffer × TextEdit) :=
  match region.indices? b.text.toList with
  | none => .error (.invalidRegion region)
  | some (i, j) =>
    let old := String.ofList (sliceChars b.text.toList i j)
    let new := if keepCase then matchCase old text else text
    .ok (b.setText t (String.ofList (spliceChars b.text.toList i j new.toList)),
      ⟨region, region.start.after new.toList⟩)

/-- Remove the sidecar of a file; the result tells whether there was
one. -/
def removeSidecarBy (c : Disk.Calls) (d : Disk) (path : Path) :
    Except DocumentError (Bool × Disk) :=
  match c.removeFile d (sidecarOf path) with
  | .ok d => .ok (true, d)
  | .error .missing => .ok (false, d)
  | .error _ => .error (.write (sidecarOf path))

/-- Remove the sidecar of a file, where only the calls fail that have to. -/
def removeSidecar (d : Disk) (path : Path) : Except DocumentError (Bool × Disk) :=
  removeSidecarBy .ofDisk d path

/-- Write the sidecar of a file; the result is its path. -/
def writeSidecar (d : Disk) (path : Path) (text : String) : Except DocumentError (Path × Disk) :=
  match d.write (sidecarOf path) (Utf8.encode text) with
  | .ok d => .ok (sidecarOf path, d)
  | .error _ => .error (.write (sidecarOf path))

/-- Remove the sidecar after the buffer was brought in step with its
file. -/
def settleBy (c : Disk.Calls) (d : Disk) (b : Buffer) :
    Except DocumentError Unit × Disk × Buffer :=
  match removeSidecarBy c d b.path with
  | .ok (_, d) => (.ok (), d, b)
  | .error e => (.error e, d, b)

/-- Write the text to the file. -/
def saveBy (c : Disk.Calls) (d : Disk) (b : Buffer) : Except DocumentError Unit × Disk × Buffer :=
  if !b.attached then (.error (.detached b.path), d, b)
  else
    match c.write d b.path (Utf8.encode b.text) with
    | .error _ => (.error (.write b.path), d, b)
    | .ok d => settleBy c d.tick.2 { b with dirty := false, modified := d.tick.1 }

/-- Read the text from the file again. -/
def revertBy (c : Disk.Calls) (d : Disk) (b : Buffer) :
    Except DocumentError Unit × Disk × Buffer :=
  match readFileBy c d b.path with
  | .error e => (.error e, d, b)
  | .ok (text, t) => settleBy c d { b with text := text, dirty := false, modified := t }

/-- Write the text to the file, where only the calls fail that have to. -/
def save (d : Disk) (b : Buffer) : Except DocumentError Unit × Disk × Buffer := saveBy .ofDisk d b

/-- Read the text from the file again, where only the calls fail that have
to. -/
def revert (d : Disk) (b : Buffer) : Except DocumentError Unit × Disk × Buffer :=
  revertBy .ofDisk d b

/-- Keep unsaved changes in the sidecar; the result tells whether it was
written. -/
def autosave (d : Disk) (b : Buffer) : Except DocumentError (Bool × Disk) :=
  if b.keepsSidecar && b.dirty then
    match writeSidecar d b.path b.text with
    | .ok (_, d) => .ok (true, d)
    | .error e => .error e
  else .ok (false, d)

/-- The regions where a text occurs. -/
def search (b : Buffer) (pattern : String) (ignoreCase : Bool) : List Region :=
  findRegions (Regex.literal ignoreCase pattern) b.text

end Buffer

/-- What to do with a sidecar that is found when its document is opened. -/
inductive SidecarChoice where
  /-- Throw it away. -/
  | discard
  /-- Open it as a document of its own. -/
  | openSeparately
  deriving DecidableEq, Repr, Inhabited

/-- What became of the sidecar of an opened document. -/
inductive Reconciled where
  /-- There was none, or the buffer has unsaved changes. -/
  | nothing
  /-- It was thrown away. -/
  | discarded
  /-- It is to be opened as a document of its own. -/
  | openSeparately (sidecar : Path)
  deriving DecidableEq, Repr, Inhabited

/-- Whether a freshly opened buffer has a sidecar to ask about. -/
def Buffer.hasSidecar (d : Disk) (b : Buffer) : Bool :=
  !(isSidecar b.path || b.dirty) && d.isFile (sidecarOf b.path)

/-- Deal with the sidecar of a freshly opened buffer as chosen. -/
def Buffer.reconcile (d : Disk) (b : Buffer) (choice : SidecarChoice) :
    Except DocumentError (Reconciled × Disk) :=
  if b.hasSidecar d then
    match choice with
    | .openSeparately => .ok (.openSeparately (sidecarOf b.path), d)
    | .discard =>
      match removeSidecar d b.path with
      | .ok (_, d) => .ok (.discarded, d)
      | .error e => .error e
  else .ok (.nothing, d)

end CodeDesk
