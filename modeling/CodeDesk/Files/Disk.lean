import CodeDesk.Files.Path
import CodeDesk.Text.Utf8

/-!
# The disk

A tree of files, directories and symbolic links as a value. An entry is
stored under its location, the list of names that leads to it from the
root; the root itself is always a directory. Paths are resolved to
locations by one walk that follows links. Every change of a file takes a
new time from the clock, so later changes have later times.

An operation fails on its own only where what is on the disk does not allow
it. What a file system refuses beyond that, for whatever reason, is said by
the calls (`Disk.Calls`) that an operation on documents is carried out with.
-/

namespace CodeDesk

/-- The names that lead to an entry from the root. -/
abbrev Location := List String

/-- A point in time, in nanoseconds. -/
abbrev Stamp := Nat

/-- What a location holds. -/
inductive Entry where
  /-- A file with its contents, the time of its last change and its
  permission bits. -/
  | file (bytes : Bytes) (modified : Stamp) (mode : Nat)
  /-- A directory. -/
  | dir
  /-- A symbolic link to the path `target`. -/
  | link (target : String)
  deriving Inhabited

/-- Whether an entry is a regular file. -/
def Entry.isFile : Entry → Bool
  | file _ _ _ => true
  | _ => false

/-- Whether an entry is a directory. -/
def Entry.isDir : Entry → Bool
  | dir => true
  | _ => false

/-- Why an operation on the disk failed. -/
inductive FileError where
  /-- The path leads nowhere. -/
  | missing
  /-- A file stands where a directory is needed. -/
  | notDirectory
  /-- A directory stands where a file is needed. -/
  | isDirectory
  /-- Something stands where nothing may be. -/
  | occupied
  /-- The path leads through more links than are followed. -/
  | tooManyLinks
  /-- A name or the path is too long. -/
  | tooLong
  /-- The path holds a character that no name may hold. -/
  | badName
  /-- The contents are not a text. -/
  | notText
  deriving DecidableEq, Repr, Inhabited

/-- The files and the clock. -/
structure Disk where
  /-- The entries by location, without the root. -/
  entries : List (Location × Entry)
  /-- The time the clock shows next. -/
  clock : Stamp
  /-- The directory that relative paths start from. -/
  cwd : Location
  deriving Inhabited

namespace Disk

/-- How many links a path may lead through. -/
def linkLimit : Nat := 40

/-- How many bytes a name may have. -/
def nameLimit : Nat := 255

/-- How many bytes a path may have. -/
def pathLimit : Nat := 4095

/-- The permission bits of a new file. -/
def plainMode : Nat := 0o644

/-- What a location holds. -/
def entryAt? (d : Disk) (at_ : Location) : Option Entry :=
  if at_ = [] then some .dir
  else (d.entries.find? fun e => e.1 == at_).map Prod.snd

/-- Put an entry at a location. -/
def put (d : Disk) (at_ : Location) (e : Entry) : Disk :=
  if d.entries.any fun x => x.1 == at_ then
    { d with entries := d.entries.map fun x => if x.1 == at_ then (at_, e) else x }
  else { d with entries := d.entries ++ [(at_, e)] }

/-- Take away an entry and everything below it. -/
def drop (d : Disk) (at_ : Location) : Disk :=
  { d with entries := d.entries.filter fun x => !at_.isPrefixOf x.1 }

/-- The time, and the disk with the clock moved on. -/
def tick (d : Disk) : Stamp × Disk := (d.clock, { d with clock := d.clock + 1 })

/-- The segments of a path. -/
def segmentsOf (text : String) : List String :=
  (splitChars '/' text.toList).map String.ofList

/-- The location that segments lead to from the directory `at_`. Nothing
need be there as long as its directory exists. A link at the end is
followed if `follow` is set. -/
def walk (d : Disk) (follow : Bool) (links : Nat) (at_ : Location) (segs : List String) :
    Except FileError Location :=
  match segs with
  | [] => .ok at_
  | seg :: rest =>
    match d.entryAt? at_ with
    | none => .error .missing
    | some (.file _ _ _) => .error .notDirectory
    | some (.link _) => .error .missing
    | some .dir =>
      if seg = "" || seg = "." then walk d follow links at_ rest
      else if seg = ".." then walk d follow links at_.dropLast rest
      else if nameLimit < seg.utf8ByteSize then .error .tooLong
      else
        match d.entryAt? (at_ ++ [seg]) with
        | none => if rest.isEmpty then .ok (at_ ++ [seg]) else .error .missing
        | some (.link target) =>
          if rest.isEmpty && !follow then .ok (at_ ++ [seg])
          else
            match links with
            | 0 => .error .tooManyLinks
            | links + 1 =>
              walk d follow links (if target.toList.head? = some '/' then [] else at_)
                (segmentsOf target ++ rest)
        | some _ => walk d follow links (at_ ++ [seg]) rest
termination_by (links, segs.length)

/-- The location that a path leads to. -/
def locate (d : Disk) (follow : Bool) (p : Path) : Except FileError Location :=
  if p.text.isEmpty then .error .missing
  else if p.text.toList.contains '\x00' then .error .badName
  else if pathLimit < p.text.utf8ByteSize then .error .tooLong
  else walk d follow linkLimit (if p.isAbsolute then [] else d.cwd) (segmentsOf p.text)

/-- The entry that a path leads to. -/
def entry (d : Disk) (follow : Bool) (p : Path) : Except FileError Entry :=
  match d.locate follow p with
  | .error e => .error e
  | .ok at_ =>
    match d.entryAt? at_ with
    | some e => .ok e
    | none => .error .missing

/-- Whether a path leads to something. -/
def exists? (d : Disk) (p : Path) : Bool := (d.entry true p).isOk

/-- Whether a path leads to a file. -/
def isFile (d : Disk) (p : Path) : Bool :=
  match d.entry true p with
  | .ok e => e.isFile
  | .error _ => false

/-- Whether a path leads to a directory. -/
def isDir (d : Disk) (p : Path) : Bool :=
  match d.entry true p with
  | .ok e => e.isDir
  | .error _ => false

/-- The contents of a file. -/
def read (d : Disk) (p : Path) : Except FileError Bytes :=
  match d.entry true p with
  | .ok (.file bytes _ _) => .ok bytes
  | .ok _ => .error .isDirectory
  | .error e => .error e

/-- The contents of a file that must be a text. -/
def readText (d : Disk) (p : Path) : Except FileError String :=
  match d.read p with
  | .error e => .error e
  | .ok bytes =>
    match Utf8.decode? bytes with
    | some text => .ok text
    | none => .error .notText

/-- When a file was last changed. -/
def modified (d : Disk) (p : Path) : Except FileError Stamp :=
  match d.entry true p with
  | .ok (.file _ modified _) => .ok modified
  | .ok _ => .ok d.clock
  | .error e => .error e

/-- Whether a path text names a directory by its last character. -/
def endsInSlash (p : Path) : Bool := p.text.toList.getLast? = some '/'

/-- Write a file, which is created when it is missing. Its directory must
exist. -/
def write (d : Disk) (p : Path) (bytes : Bytes) : Except FileError Disk :=
  match d.locate true p with
  | .error .missing => if endsInSlash p then .error .isDirectory else .error .missing
  | .error e => .error e
  | .ok at_ =>
    match d.entryAt? at_ with
    | none => .ok (d.tick.2.put at_ (.file bytes d.tick.1 plainMode))
    | some (.file _ _ mode) => .ok (d.tick.2.put at_ (.file bytes d.tick.1 mode))
    | some _ => .error .isDirectory

/-- Create a directory whose parent exists. -/
def createDir (d : Disk) (p : Path) : Except FileError Disk :=
  match d.locate false ⟨String.ofList (p.text.toList.reverse.dropWhile (· = '/')).reverse⟩ with
  | .error e =>
    if p.text.toList.all (· = '/') && !p.text.isEmpty then .error .occupied else .error e
  | .ok at_ =>
    match d.entryAt? at_ with
    | none => .ok (d.put at_ .dir)
    | some _ => .error .occupied

/-- Create a directory and those above it that are missing. `fuel` bounds
how many are tried. -/
def createDirsFrom (d : Disk) : (fuel : Nat) → Path → Except FileError Disk
  | 0, _ => .error .missing
  | fuel + 1, p =>
    if p.text.isEmpty then .ok d
    else
      match d.createDir p with
      | .ok d => .ok d
      | .error .missing =>
        match p.parent? with
        | none => .error .missing
        | some q =>
          match createDirsFrom d fuel q with
          | .error e => .error e
          | .ok d =>
            match d.createDir p with
            | .ok d => .ok d
            | .error e => if d.isDir p then .ok d else .error e
      | .error e => if d.isDir p then .ok d else .error e

/-- Create a directory and those above it that are missing. -/
def createDirs (d : Disk) (p : Path) : Except FileError Disk :=
  d.createDirsFrom (p.components.length + 2) p

/-- Remove a file or a link. -/
def removeFile (d : Disk) (p : Path) : Except FileError Disk :=
  match d.locate false p with
  | .error e => .error e
  | .ok at_ =>
    match d.entryAt? at_ with
    | none => .error .missing
    | some .dir => .error .isDirectory
    | some _ => .ok (d.drop at_)

/-- Remove whatever a path leads to, with everything below it. -/
def removeTree (d : Disk) (p : Path) : Except FileError Disk :=
  match d.locate false p with
  | .error e => .error e
  | .ok at_ => if (d.entryAt? at_).isSome then .ok (d.drop at_) else .error .missing

/-- The name of an entry that lies directly in the directory at `at_`. -/
def nameIn? (at_ loc : Location) : Option String :=
  if at_.isPrefixOf loc then
    match loc.drop at_.length with
    | [name] => some name
    | _ => none
  else none

/-- The entries directly in the directory at `at_`, by name. -/
def entriesIn (d : Disk) (at_ : Location) : List (String × Entry) :=
  (d.entries.filterMap fun e => (nameIn? at_ e.1).map fun n => (n, e.2)).mergeSort
    fun a b => decide (a.1 ≤ b.1)

/-- The entries of a directory, by name. -/
def list (d : Disk) (p : Path) : Except FileError (List (String × Entry)) :=
  match d.locate true p with
  | .error e => .error e
  | .ok at_ =>
    match d.entryAt? at_ with
    | some .dir => .ok (d.entriesIn at_)
    | some _ => .error .notDirectory
    | none => .error .missing

/-- The regular files below a directory in the order of a walk that visits
the entries of each directory by name. Links are not followed, and a
directory is entered only if `enter` holds of its name. `fuel` bounds the
depth of the walk. -/
def filesBelow (d : Disk) (enter : String → Bool) :
    (fuel : Nat) → Location → Path → List (Path × Entry)
  | 0, _, _ => []
  | fuel + 1, at_, p =>
    (d.entriesIn at_).flatMap fun e =>
      match e.2 with
      | .file _ _ _ => [(p.child e.1, e.2)]
      | .dir => if enter e.1 then filesBelow d enter fuel (at_ ++ [e.1]) (p.child e.1) else []
      | .link _ => []

/-- One more than the greatest depth of an entry. -/
def depth (d : Disk) : Nat := (d.entries.map fun e => e.1.length).foldl Nat.max 0 + 1

/-- The regular files that a walk from a path meets. The path itself may be
a file; a link there is followed to a directory. -/
def filesUnder (d : Disk) (enter : String → Bool) (p : Path) : List (Path × Entry) :=
  match d.entry false p with
  | .ok (.file b m x) => [(p, .file b m x)]
  | .ok .dir =>
    if enter p.fileName then
      match d.locate true p with
      | .ok at_ => d.filesBelow enter d.depth at_ p
      | .error _ => []
    else []
  | .ok (.link _) =>
    match d.locate true p with
    | .ok at_ =>
      match d.entryAt? at_ with
      | some .dir => d.filesBelow enter d.depth at_ p
      | _ => []
    | .error _ => []
  | .error _ => []

/-- Change the time of a file's last change. -/
def setModified (d : Disk) (p : Path) (t : Stamp) : Except FileError Disk :=
  match d.locate true p with
  | .error e => .error e
  | .ok at_ =>
    match d.entryAt? at_ with
    | some (.file bytes _ mode) => .ok (d.put at_ (.file bytes t mode))
    | some _ => .ok d
    | none => .error .missing

/-- Change the permission bits of a file. -/
def setMode (d : Disk) (p : Path) (mode : Nat) : Except FileError Disk :=
  match d.locate true p with
  | .error e => .error e
  | .ok at_ =>
    match d.entryAt? at_ with
    | some (.file bytes t _) => .ok (d.put at_ (.file bytes t mode))
    | some _ => .ok d
    | none => .error .missing

/-- Create a symbolic link. -/
def createLink (d : Disk) (p : Path) (target : String) : Except FileError Disk :=
  match d.locate false p with
  | .error e => .error e
  | .ok at_ =>
    match d.entryAt? at_ with
    | none => .ok (d.put at_ (.link target))
    | some _ => .error .occupied

/-- The calls of a file system on which any of them may fail, for whatever
reason. One that succeeds does what it should, and one that fails leaves the
disk as it is. What is not missing is not said to be missing. -/
structure Calls where
  /-- The contents of a file. -/
  read : Disk → Path → Except FileError Bytes
  /-- When a file was last changed. -/
  modified : Disk → Path → Except FileError Stamp
  /-- Write a file. -/
  write : Disk → Path → Bytes → Except FileError Disk
  /-- Remove a file or a link. -/
  removeFile : Disk → Path → Except FileError Disk
  read_ok : ∀ {d p bytes}, read d p = .ok bytes → d.read p = .ok bytes
  modified_ok : ∀ {d p t}, modified d p = .ok t → d.modified p = .ok t
  write_ok : ∀ {d p bytes d'}, write d p bytes = .ok d' → d.write p bytes = .ok d'
  removeFile_ok : ∀ {d p d'}, removeFile d p = .ok d' → d.removeFile p = .ok d'
  removeFile_missing : ∀ {d p}, removeFile d p = .error .missing → d.removeFile p = .error .missing

/-- The calls of a disk on which none fails but those that have to. -/
def Calls.ofDisk : Calls where
  read := Disk.read
  modified := Disk.modified
  write := Disk.write
  removeFile := Disk.removeFile
  read_ok := id
  modified_ok := id
  write_ok := id
  removeFile_ok := id
  removeFile_missing := id

end Disk
end CodeDesk
