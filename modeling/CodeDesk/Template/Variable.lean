import CodeDesk.Text.Split

/-!
# Variables

The variables that a template may refer to, and the numbered slots of the
texts that the user is asked for.
-/

namespace CodeDesk
namespace Template

/-- What kind of value a variable has. -/
inductive Kind where
  /-- The path or the name of a file. -/
  | file
  /-- The path or the name of a directory. -/
  | dir
  /-- The extension of a file. -/
  | ext
  /-- A place in the active buffer. -/
  | pos
  /-- Text from the active buffer. -/
  | text
  /-- A text the user enters. -/
  | prompt
  /-- A value of the project. -/
  | project
  deriving DecidableEq, Repr, Inhabited

/-- Whether values of this kind exist only with an active buffer. -/
def Kind.needsBuffer : Kind → Bool
  | file => true
  | dir => true
  | ext => true
  | pos => true
  | text => true
  | prompt => false
  | project => false

/-- A variable. -/
structure Variable where
  /-- Its name. -/
  name : String
  /-- What kind of value it has. -/
  kind : Kind
  /-- What its value is, in words. -/
  description : String
  deriving DecidableEq, Repr, Inhabited

/-- How many texts a command may ask for. -/
def promptSlots : Nat := 3

/-- Every variable there is. -/
def catalogue : List Variable :=
  [⟨"FilePath", .file, "Current file name with full path"⟩,
   ⟨"FileDir", .dir, "Name only of current file's directory"⟩,
   ⟨"FileDirProjRel", .dir, "Path of current file's directory relative to the project root"⟩,
   ⟨"Filename", .file, "Current file name only, without path"⟩,
   ⟨"FilenameNoExt", .file, "Current file name only, without path or extension"⟩,
   ⟨"FileExt", .ext, "Extension of current file, without the dot"⟩,
   ⟨"CursorLine", .pos, "Line number of the cursor, starting at 1"⟩,
   ⟨"CursorCol", .pos, "Column of the cursor, starting at 1"⟩,
   ⟨"SelectionText", .text, "Text of the current selection"⟩,
   ⟨"ProjectRoot", .project, "Root directory of the project"⟩,
   ⟨"BuildDir", .project, "Build directory from the project settings"⟩,
   ⟨"BuildTarg", .project, "Build target from the project settings"⟩,
   ⟨"RunExec", .project, "Executable to run from the project settings"⟩,
   ⟨"PromptString1", .prompt, "First string entered by the user at dispatch"⟩,
   ⟨"PromptString2", .prompt, "Second string entered by the user at dispatch"⟩,
   ⟨"PromptString3", .prompt, "Third string entered by the user at dispatch"⟩]

/-- The variable of a name. -/
def lookup? (name : String) : Option Variable := catalogue.find? fun v => v.name == name

/-- What the names of prompt variables start with. -/
def promptStem : String := "PromptString"

/-- The name of the prompt variable of a slot. -/
def promptName (slot : Nat) : String := promptStem ++ toString slot

/-- The slot that the name of a prompt variable means. The number may be
written with a plus sign and zeros in front. -/
def promptSlot? (name : String) : Option Nat :=
  match (dropLead? promptStem.toList name.toList).bind word? with
  | some slot => if 1 ≤ slot && slot ≤ promptSlots then some slot else none
  | none => none

end Template
end CodeDesk
