import CodeDesk.Files.Path

/-!
# Sidecars

Unsaved changes of a document are kept in a sidecar, a file of the same
directory with the document's name between two number signs.
-/

namespace CodeDesk

/-- The name of a document's sidecar. -/
def sidecarName (name : String) : String := "#" ++ name ++ "#"

/-- The sidecar of a document. -/
def sidecarOf (p : Path) : Path := p.withFileName (sidecarName p.fileName)

/-- Whether a name is the name of a sidecar. -/
def isSidecarName (name : String) : Bool :=
  2 < name.utf8ByteSize && name.toList.head? == some '#' && name.toList.getLast? == some '#'

/-- Whether a path leads to a sidecar. -/
def isSidecar (p : Path) : Bool := isSidecarName p.fileName

end CodeDesk
