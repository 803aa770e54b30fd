import CodeDesk.Data.Power
import CodeDesk.Data.Table
import CodeDesk.Files.Path
import CodeDesk.Template.Syntax
import CodeDesk.Template.Variable

/-!
# Values of variables

The values that the templates of one command are bound with: those that
follow from the active file, the project and the editor, and the answers
that the user has given.
-/

namespace CodeDesk
namespace Template

/-- What the project contributes. -/
structure ProjectPaths where
  /-- The root directory. -/
  root : Path
  /-- The directory of build products. -/
  buildDir : Path
  /-- What is built. -/
  buildTarget : Path
  /-- What is run. -/
  runExec : Path
  deriving Inhabited, Repr

/-- What the editor contributes. -/
structure EditorContext where
  /-- The line of the cursor, from zero. -/
  line : Nat
  /-- The column of the cursor, from zero. -/
  col : Nat
  /-- The selected text. -/
  selection : String
  deriving Inhabited, Repr, DecidableEq

/-- A relative path taken from the project's root. No text stays no
text. -/
def ProjectPaths.absolute (project : ProjectPaths) (p : Path) : Path :=
  if p.text.isEmpty || p.isAbsolute then p else project.root.join p

/-- Why a template cannot be bound. -/
inductive BindError where
  /-- These slots have no answer. -/
  | missingPrompts (slots : List Nat)
  /-- There is no such slot. -/
  | invalidSlot (slot : Nat)
  deriving DecidableEq, Repr, Inhabited

/-- The wording of an error. -/
def BindError.message : BindError → String
  | missingPrompts slots =>
    "template needs user input for prompt slots [" ++
      String.intercalate ", " (slots.map toString) ++ "]"
  | invalidSlot slot => s!"invalid prompt slot {slot}"

/-- Values by the name of their variable. -/
structure Values where
  /-- The values. -/
  table : Table String String
  deriving Inhabited, DecidableEq

namespace Values

/-- No values at all. -/
def empty : Values := ⟨Table.empty⟩

/-- The value of a variable. -/
def get? (v : Values) (name : String) : Option String := v.table.get? name

/-- Give a variable a value. -/
def set (v : Values) (name value : String) : Values := ⟨v.table.set name value⟩

/-- A directory without its root. -/
def rootless (dir : Path) : Path :=
  Path.ofComponents (dir.components.filter fun c => c != .root)

/-- Where a directory lies within the project, or its path without the root
if it lies elsewhere. -/
def projectRelative (root dir : Path) : Path :=
  (dir.stripPrefix? root).getD (rootless dir)

/-- The value of every variable that follows from the active file, the
project and the editor. -/
def resolve (file : Option Path) (project : ProjectPaths) (editor : Option EditorContext) :
    Values :=
  let path := match file with
    | some f => project.absolute f
    | none => Path.empty
  let dir := path.parent?.getD Path.empty
  let (line, col, selection) := match editor with
    | some e => (wordSucc e.line, wordSucc e.col, e.selection)
    | none => (0, 0, "")
  ⟨Table.ofList
    [("FilePath", path.text),
     ("FileDir", dir.fileName),
     ("FileDirProjRel", (projectRelative project.root dir).text),
     ("Filename", path.fileName),
     ("FilenameNoExt", path.fileStem?.getD ""),
     ("FileExt", path.extension?.getD ""),
     ("CursorLine", toString line),
     ("CursorCol", toString col),
     ("SelectionText", selection),
     ("ProjectRoot", project.root.text),
     ("BuildDir", (project.absolute project.buildDir).text),
     ("BuildTarg", (project.absolute project.buildTarget).text),
     ("RunExec", (project.absolute project.runExec).text)]⟩

/-- A template with these values. -/
def bind (v : Values) (template : String) : String := Template.bind v.get? template

/-- Record the answer for a slot. -/
def setPrompt (v : Values) (slot : Nat) (answer : String) : Except BindError Values :=
  if 1 ≤ slot && slot ≤ promptSlots then .ok (v.set (promptName slot) answer)
  else .error (.invalidSlot slot)

/-- Forget every answer. -/
def clearPrompts (v : Values) : Values :=
  ⟨⟨v.table.entries.filter fun e => (promptSlot? e.1).isNone⟩⟩

/-- Numbers in ascending order, each once. -/
def ascending (ns : List Nat) : List Nat :=
  ns.foldr (fun n seen =>
    seen.takeWhile (· < n) ++ n :: (seen.dropWhile (· < n)).filter (· != n)) []

/-- The slots a template refers to that have no answer. -/
def missingPrompts (v : Values) (template : String) : List Nat :=
  ascending (((names template).filterMap promptSlot?).filter fun slot =>
    !v.table.contains (promptName slot))

/-- The slots that any of the templates refers to and that have no
answer. -/
def missingPromptsOf (v : Values) (templates : List String) : List Nat :=
  ascending (templates.flatMap v.missingPrompts)

/-- Refuse templates that refer to slots without an answer. -/
def checkPrompts (v : Values) (templates : List String) : Except BindError Unit :=
  match v.missingPromptsOf templates with
  | [] => .ok ()
  | slots => .error (.missingPrompts slots)

end Values
end Template
end CodeDesk
