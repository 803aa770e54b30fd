import CodeDesk.Command.Spec
import CodeDesk.Data.Json.Parser
import CodeDesk.Data.Json.Printer
import CodeDesk.Files.Disk

/-!
# The command table

The commands there are, each category and name at most once. A command that
is put in again takes the place of the earlier one. The table is stored as
a JSON list.
-/

namespace CodeDesk
namespace Command

/-- Why a command was not run. -/
inductive CommandError where
  /-- There is no command of this label. -/
  | unknown (label : String)
  /-- The text is not a label. -/
  | invalidLabel (label : String)
  /-- The user did not confirm the command. -/
  | notConfirmed (label : String)
  /-- Its templates cannot be bound. -/
  | badTemplate (e : Template.BindError)
  /-- It is about the active buffer, and there is none. -/
  | noActiveBuffer (label : String)
  deriving DecidableEq, Repr, Inhabited

/-- The wording of an error. -/
def CommandError.message : CommandError → String
  | unknown label => s!"unknown command {label}"
  | invalidLabel label => s!"invalid command label '{label}', expected 'Category: Name'"
  | notConfirmed label => s!"{label} was not confirmed"
  | badTemplate e => e.message
  | noActiveBuffer label => s!"{label} needs an active editor view, but none is open"

/-- The category and the name of a label, which a colon separates. -/
def splitLabel? (label : String) : Option (String × String) :=
  match cutFirst ':' label.toList with
  | none => none
  | some (category, name) =>
    let category := trim (String.ofList category)
    let name := trim (String.ofList name)
    if category.isEmpty || name.isEmpty then none else some (category, name)

/-- The commands there are. -/
structure Registry where
  /-- The commands, in the order in which they were first put in. -/
  commands : List Spec
  deriving DecidableEq, Repr, Inhabited

/-- Commands of one category as a menu shows them. -/
structure MenuGroup where
  /-- The category. -/
  category : String
  /-- The commands by name. -/
  commands : List Spec
  deriving DecidableEq, Repr, Inhabited

namespace Registry

/-- A table without commands. -/
def empty : Registry := ⟨[]⟩

/-- Whether two commands have the same category and name. -/
def same (a b : Spec) : Bool := a.category == b.category && a.name == b.name

/-- Whether a command has a category and a name. -/
def isNamed (category name : String) (c : Spec) : Bool :=
  c.category == category && c.name == name

/-- Put a command in, in the place of the one with its category and name if
there is one. -/
def insert (r : Registry) (c : Spec) : Registry :=
  if r.commands.any (same c) then ⟨r.commands.map fun x => if same c x then c else x⟩
  else ⟨r.commands ++ [c]⟩

/-- The table of a list of commands. -/
def ofList (cs : List Spec) : Registry := cs.foldl insert empty

/-- The command of a label. -/
def get (r : Registry) (label : String) : Except CommandError Spec :=
  match splitLabel? label with
  | none => .error (.invalidLabel label)
  | some (category, name) =>
    match r.commands.find? (isNamed category name) with
    | some c => .ok c
    | none => .error (.unknown label)

/-- The table without the command of a label, and that command. -/
def remove (r : Registry) (label : String) : Option Spec × Registry :=
  match splitLabel? label with
  | none => (none, r)
  | some (category, name) =>
    (r.commands.find? (isNamed category name), ⟨r.commands.eraseP (isNamed category name)⟩)

/-- The labels of all commands. -/
def labels (r : Registry) : List String := r.commands.map Spec.label

/-- Categories in order, each once. -/
def categoriesOf (cs : List Spec) : List String :=
  ((cs.map (·.category)).mergeSort fun a b => decide (a ≤ b)).eraseDups

/-- Where a category stands in a menu: the builds first, then what belongs
to the version control system in use, then the rest. -/
def rank (vcs : Option String) (category : String) : Nat :=
  if category == "Build" then 0
  else if vcs.any (eqIgnoringCase category) then 1
  else 2

/-- The commands for a language and a version control system, by category
and by name. -/
def menu (r : Registry) (lang vcs : Option String) : List MenuGroup :=
  let cs := r.commands.filter fun c => c.forLanguage lang && c.forVcs vcs
  let groups := (categoriesOf cs).map fun category =>
    MenuGroup.mk category
      ((cs.filter fun c => c.category == category).mergeSort fun a b => decide (a.name ≤ b.name))
  groups.mergeSort fun a b => decide (rank vcs a.category ≤ rank vcs b.category)

/-- The text of a stored table. -/
def save (r : Registry) : String := Json.pretty (.list (r.commands.map Spec.toValue))

/-- The table of a stored text. -/
def load? (bytes : Bytes) : Option Registry := do
  let text ← Utf8.decode? bytes
  let v ← Json.parse? text
  let cs ← v.listOf? Spec.ofValue?
  some (ofList cs)

/-- Why a stored table was not read or written. -/
inductive StoreError where
  /-- The text is not a table. -/
  | unreadable
  /-- There is no file to read. -/
  | missing (path : Path)
  /-- The file does not hold a table. -/
  | unloadable
  /-- The file cannot be written. -/
  | unwritable
  deriving DecidableEq, Repr, Inhabited

/-- The wording of an error. -/
def StoreError.message : StoreError → String
  | unreadable => "reading command table"
  | missing path => s!"opening command table {path.text}"
  | unloadable => "loading command table"
  | unwritable => "creating command table file"

/-- The table of a stored text, or why there is none. -/
def load (bytes : Bytes) : Except StoreError Registry :=
  match load? bytes with
  | some r => .ok r
  | none => .error .unreadable

/-- The table of a file. -/
def loadFile (d : Disk) (p : Path) : Except StoreError Registry :=
  match d.read p with
  | .error .isDirectory => .error .unloadable
  | .error _ => .error (.missing p)
  | .ok bytes =>
    match load? bytes with
    | some r => .ok r
    | none => .error .unloadable

/-- Write the table to a file. -/
def saveFile (r : Registry) (d : Disk) (p : Path) : Except StoreError Disk :=
  match d.write p (Utf8.encode r.save) with
  | .ok d => .ok d
  | .error _ => .error .unwritable

/-! ## The commands of a desk without a table of its own -/

/-- A command with a single program. -/
def simple (category name desc lang program : String) (args : List String) (dir : String)
    (focus : Bool) (filter : Filter) : Spec :=
  ⟨category, name, desc, [lang], [], [⟨program, args⟩], dir, false, focus, false, filter⟩

/-- A command for projects under version control with `git`. -/
def gitCommand (name desc : String) (steps : List (List String)) (wait confirm : Bool) : Spec :=
  ⟨"Git", name, desc, ["Any"], ["git"], steps.map fun args => ⟨"git", args⟩,
    "\x7bProjectRoot\x7d", wait, false, confirm, .plain⟩

/-- The commands that are there when no table was stored. -/
def defaults : Registry :=
  let root := "\x7bProjectRoot\x7d"
  let buildDir := "\x7bBuildDir\x7d"
  let file := "\x7bFilePath\x7d"
  let prompt := "\x7bPromptString1\x7d"
  ofList
    [simple "Build" "Go Build Proj" "go build the project build directory" "Go" "go"
       ["build", "-v"] buildDir true .links,
     simple "Build" "Cargo Build" "cargo build the project" "Rust" "cargo" ["build"] root true
       .links,
     simple "Build" "Make" "run make in the build directory" "Any" "make" [] buildDir true .links,
     simple "Run" "Run Exec" "run the project executable" "Any" "\x7bRunExec\x7d" [] buildDir true
       .plain,
     simple "Go" "Run File" "go run the current file" "Go" "go" ["run", "\x7bFilename\x7d"]
       "\x7bProjectRoot\x7d/\x7bFileDirProjRel\x7d" false .plain,
     simple "Go" "Imports File" "run goimports on the current file" "Go" "goimports" ["-w", file]
       root false .plain,
     simple "Rust" "Fmt File" "run rustfmt on the current file" "Rust" "rustfmt" [file] root false
       .links,
     simple "Rust" "Cargo Test" "cargo test the project" "Rust" "cargo" ["test"] root false .links,
     simple "File" "Grep" "recursive grep for a prompted string" "Any" "grep" ["-rn", prompt, "."]
       root false .plain,
     gitCommand "Status" "git status" [["status"]] false false,
     gitCommand "Add" "git add the current file" [["add", file]] false false,
     gitCommand "Diff" "git diff the current file" [["diff", file]] false false,
     gitCommand "Commit" "commit all changes" [["commit", "-am", prompt]] false true,
     gitCommand "Pull Push" "pull then push" [["pull"], ["push"]] true false]

end Registry
end Command
end CodeDesk
