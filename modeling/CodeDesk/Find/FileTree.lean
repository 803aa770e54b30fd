import CodeDesk.Document.Store
import CodeDesk.Files.Disk

/-!
# The file tree

The tree of a project as a search sees it: which directories are open, and
which files have a buffer.
-/

namespace CodeDesk
namespace Find

/-- The name of the directory that is never looked into. -/
def hiddenDir : String := ".git"

/-- A file or a directory of the tree. -/
inductive Node where
  /-- A file, with its buffer if it has one. -/
  | file (path : Path) (buffer : Option BufferId)
  /-- A directory, with its contents as far as they are known. -/
  | dir (path : Path) (isOpen : Bool) (children : List Node)
  deriving Inhabited

namespace Node

/-- The contents of a directory on disk, where the directories that `isOpen`
holds of are listed in turn. `fuel` bounds the depth. -/
def listing (d : Disk) (isOpen : Path → Bool) : (fuel : Nat) → Location → Path → List Node
  | 0, _, _ => []
  | fuel + 1, place, p =>
    (d.entriesIn place).filterMap fun e =>
      let q := p.child e.1
      match e.2 with
      | .file _ _ _ => some (.file q none)
      | .dir =>
        if e.1 == hiddenDir then none
        else
          some (.dir q (isOpen q)
            (if isOpen q then listing d isOpen fuel (place ++ [e.1]) q else []))
      | .link _ => none

/-- The tree below a directory on disk. -/
def scan (d : Disk) (isOpen : Path → Bool) (root : Path) : Except FileError Node :=
  match d.list root with
  | .error e => .error e
  | .ok _ =>
    match d.locate true root with
    | .error e => .error e
    | .ok place => .ok (.dir root true (listing d isOpen d.depth place root))

mutual

/-- The tree with every file given the buffer that `find` knows for it. -/
def attach (find : Path → Option BufferId) : Node → Node
  | file p b => file p (find p <|> b)
  | dir p isOpen children => dir p isOpen (attachAll find children)

/-- `attach` for every node of a list. -/
def attachAll (find : Path → Option BufferId) : List Node → List Node
  | [] => []
  | n :: ns => attach find n :: attachAll find ns

end

/-- The tree with every file given the first of the buffers that belongs to
it. -/
def attachBuffers (s : Store) (ids : List BufferId) (n : Node) : Node :=
  n.attach fun p => ids.find? fun id => s.pathOf id == p

mutual

/-- The files of a node in open directories. -/
def visible : Node → List (Path × Option BufferId)
  | file p b => [(p, b)]
  | dir _ isOpen children => if isOpen then visibleAll children else []

/-- The files of nodes in open directories. -/
def visibleAll : List Node → List (Path × Option BufferId)
  | [] => []
  | n :: ns => visible n ++ visibleAll ns

end

/-- Whether a node is a directory. -/
def isDir : Node → Bool
  | file _ _ => false
  | dir _ _ _ => true

/-- The contents of a node. -/
def children : Node → List Node
  | file _ _ => []
  | dir _ _ ns => ns

/-- The files in open directories below a node, without those directly in it
if `skipTop` is set. -/
def openFiles (skipTop : Bool) (n : Node) : List (Path × Option BufferId) :=
  visibleAll (if skipTop then n.children.filter isDir else n.children)

end Node
end Find
end CodeDesk
