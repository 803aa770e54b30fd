import CodeDesk.Data.Table
import CodeDesk.Data.Toml.Parser
import CodeDesk.Data.Toml.Printer
import CodeDesk.Debug.Params
import CodeDesk.Files.Disk
import CodeDesk.Find.Request
import CodeDesk.Unicode.CaseMap

/-!
# Project settings

Everything that a project file holds, as a TOML document: where the project
is, how it is built, run and debugged, and what the user last did in it.
-/

namespace CodeDesk
namespace Settings

/-- Read the members of a map into a table, in which the last member of each
name counts. -/
def tableOf? {α : Type} (f : Value → Option α) (v : Value) : Option (Table String α) := do
  let ms ← v.map?
  let es ← ms.mapM fun m => (f m.2).map fun a => (m.1, a)
  some (Table.ofList es)

/-- A table as the members of a map. -/
def tableValue {α : Type} (f : α → Value) (t : Table String α) : Value :=
  .map (t.entries.map fun e => (e.1, f e.2))

/-! ## Parts -/

/-- How a project is debugged. -/
structure DebugSettings where
  /-- How the program comes to run. -/
  mode : Debug.Mode
  /-- The process to attach to. -/
  pid : Nat
  /-- The arguments of the debugger and those of the program, in one
  list. -/
  args : List String
  /-- The pattern that selects the tests to run. -/
  testRun : String
  deriving DecidableEq, Repr, Inhabited

namespace DebugSettings

/-- Settings that nobody has made. -/
def blank : DebugSettings := ⟨.exec, 0, [], ""⟩

/-- The parameters of a session with these settings. -/
def params (s : DebugSettings) : Debug.Params :=
  let (debugArgs, args) := Debug.Params.splitArgs s.args
  ⟨s.mode, s.pid, debugArgs, args, s.testRun⟩

/-- The settings that give these parameters. -/
def ofParams (p : Debug.Params) : DebugSettings := ⟨p.mode, p.pid, p.combinedArgs, p.testRun⟩

/-- Read settings; every field may be missing. -/
def ofValue? (isUnit : Value → Bool) (v : Value) : Option DebugSettings := do
  let fs ← v.record? ["Mode", "Pid", "Args", "TestRun"]
  match fs with
  | [mode, pid, args, testRun] =>
    let mode ← Value.defaulted Debug.Mode.exec (Debug.Mode.ofValue? isUnit) mode
    let pid ← Value.defaulted 0 (Value.nat? (twoTo 32)) pid
    let args ← Value.defaulted [] (Value.listOf? Value.text?) args
    let testRun ← Value.defaulted "" Value.text? testRun
    some ⟨mode, pid, args, testRun⟩
  | _ => none

/-- The settings as a document has them. -/
def toValue (s : DebugSettings) : Value :=
  .map
    [("Mode", .text s.mode.keyword), ("Pid", .nat s.pid), ("Args", .texts s.args),
     ("TestRun", .text s.testRun)]

end DebugSettings

/-- The last search for a symbol. -/
structure SymbolSearch where
  /-- The name. -/
  name : String
  /-- The kind of symbol. -/
  kind : String
  deriving DecidableEq, Repr, Inhabited

namespace SymbolSearch

/-- Read a search; either field may be missing. -/
def ofValue? (v : Value) : Option SymbolSearch := do
  let fs ← v.record? ["Name", "Kind"]
  match fs with
  | [name, kind] =>
    let name ← Value.defaulted "" Value.text? name
    let kind ← Value.defaulted "" Value.text? kind
    some ⟨name, kind⟩
  | _ => none

/-- The search as a document has it. -/
def toValue (s : SymbolSearch) : Value := .map [("Name", .text s.name), ("Kind", .text s.kind)]

end SymbolSearch

/-! ## The whole -/

/-- Everything that a project file holds. -/
structure ProjectSettings where
  /-- The root of the project. -/
  root : Path
  /-- The project file. -/
  file : Path
  /-- The main language. -/
  mainLang : String
  /-- The version control system. -/
  versionControl : String
  /-- Whether Go modules are used. -/
  goMod : Bool
  /-- Where the project is built. -/
  buildDir : Path
  /-- What is built. -/
  buildTarget : Path
  /-- The executable of the project. -/
  runExec : Path
  /-- The register used last. -/
  lastRegister : String
  /-- The splitter used last. -/
  splitName : String
  /-- The labels of the commands that build the project. -/
  buildCommands : List String
  /-- The labels of the commands that run the project. -/
  runCommands : List String
  /-- How the project is debugged. -/
  debug : DebugSettings
  /-- The last search. -/
  search : Find.Request
  /-- The last search for a symbol. -/
  symbolSearch : SymbolSearch
  /-- Whether directories are open in the file tree, by their path below
  the root. -/
  dirsOpen : Table String Bool
  /-- The proportions of splitters by name. -/
  splitters : Table String (List Float)
  deriving Inhabited

namespace ProjectSettings

/-- The ending of the names of project files. -/
def extension : String := "workbench"

/-- Settings that nobody has made. -/
def blank : ProjectSettings where
  root := Path.empty
  file := Path.empty
  mainLang := ""
  versionControl := ""
  goMod := false
  buildDir := Path.empty
  buildTarget := Path.empty
  runExec := Path.empty
  lastRegister := ""
  splitName := ""
  buildCommands := []
  runCommands := []
  debug := DebugSettings.blank
  search := Find.Request.blank
  symbolSearch := ⟨"", ""⟩
  dirsOpen := Table.empty
  splitters := Table.empty

/-- The settings of a new project. The project file has the name of the
root. -/
def ofRoot (root : Path) : ProjectSettings :=
  let name := root.fileName?.getD "project"
  { blank with
    root := root
    file := root.child (name ++ "." ++ extension)
    buildDir := root }

/-- The settings of a new project, with the language and the version
control system that its files tell of. -/
def detect (d : Disk) (root : Path) : ProjectSettings :=
  let s := ofRoot root
  let s := if d.exists? (root.child ".git") then { s with versionControl := "git" } else s
  let s :=
    if d.isFile (root.child "go.mod") then
      { s with mainLang := "Go", goMod := true, buildCommands := ["Build: Go Build Proj"] }
    else if d.isFile (root.child "Cargo.toml") then
      { s with mainLang := "Rust", buildCommands := ["Build: Cargo Build"] }
    else s
  { s with runCommands := ["Run: Run Exec"] }

/-! ### Documents -/

/-- The names of the fields in documents. -/
def fields : List String :=
  ["ProjectRoot", "ProjectFilename", "MainLang", "VersionControl", "GoMod", "BuildDir",
   "BuildTarg", "RunExec", "LastRegister", "SplitName", "BuildCmds", "RunCmds", "Debug",
   "FindParams", "SymbolParams", "DirsOpen", "Splitters"]

/-- Read settings; every field may be missing. -/
def ofValue? (isUnit : Value → Bool) (v : Value) : Option ProjectSettings := do
  let fs ← v.record? fields
  match fs with
  | [root, file, mainLang, versionControl, goMod, buildDir, buildTarget, runExec, lastRegister,
     splitName, buildCommands, runCommands, debug, search, symbolSearch, dirsOpen, splitters] =>
    let text := Value.defaulted "" Value.text?
    let texts := Value.defaulted [] (Value.listOf? Value.text?)
    let path := fun v => (text v).map Path.mk
    let root ← path root
    let file ← path file
    let mainLang ← text mainLang
    let versionControl ← text versionControl
    let goMod ← Value.defaulted false Value.bool? goMod
    let buildDir ← path buildDir
    let buildTarget ← path buildTarget
    let runExec ← path runExec
    let lastRegister ← text lastRegister
    let splitName ← text splitName
    let buildCommands ← texts buildCommands
    let runCommands ← texts runCommands
    let debug ← Value.defaulted DebugSettings.blank (DebugSettings.ofValue? isUnit) debug
    let search ← Value.defaulted Find.Request.blank (Find.Request.ofValue? isUnit) search
    let symbolSearch ← Value.defaulted ⟨"", ""⟩ SymbolSearch.ofValue? symbolSearch
    let dirsOpen ← Value.defaulted Table.empty (tableOf? Value.bool?) dirsOpen
    let splitters ← Value.defaulted Table.empty (tableOf? (Value.listOf? Value.float?)) splitters
    some
      { root, file, mainLang, versionControl, goMod, buildDir, buildTarget, runExec,
        lastRegister, splitName, buildCommands, runCommands, debug, search, symbolSearch,
        dirsOpen, splitters }
  | _ => none

/-- The members of the settings as a document has them. -/
def members (s : ProjectSettings) : List (String × Value) :=
  [("ProjectRoot", .text s.root.text), ("ProjectFilename", .text s.file.text),
   ("MainLang", .text s.mainLang), ("VersionControl", .text s.versionControl),
   ("GoMod", .bool s.goMod), ("BuildDir", .text s.buildDir.text),
   ("BuildTarg", .text s.buildTarget.text), ("RunExec", .text s.runExec.text),
   ("LastRegister", .text s.lastRegister), ("SplitName", .text s.splitName),
   ("BuildCmds", .texts s.buildCommands), ("RunCmds", .texts s.runCommands),
   ("Debug", s.debug.toValue), ("FindParams", s.search.toValue),
   ("SymbolParams", s.symbolSearch.toValue), ("DirsOpen", tableValue Value.bool s.dirsOpen),
   ("Splitters", tableValue (fun xs => .list (xs.map Value.float)) s.splitters)]

/-- The settings as a document has them. -/
def toValue (s : ProjectSettings) : Value := .map s.members

/-- The text of a project file. -/
def toml (s : ProjectSettings) : String := Toml.document s.members

/-- Why a project file was not read or written. -/
inductive ProjectFileError where
  /-- The text is not that of a project file. -/
  | parsing
  /-- The file cannot be read. -/
  | reading (p : Path)
  /-- The file cannot be written. -/
  | writing (p : Path)
  deriving DecidableEq, Repr, Inhabited

/-- The wording of an error. -/
def ProjectFileError.message : ProjectFileError → String
  | parsing => "parsing project file"
  | reading p => "reading project file " ++ p.text
  | writing p => "writing project file " ++ p.text

/-- The settings with the paths of the file they come from, where they name
none. -/
def completed (s : ProjectSettings) (p : Path) : ProjectSettings :=
  let s := { s with versionControl := Unicode.lower s.versionControl }
  let s := if s.file.text.isEmpty then { s with file := p } else s
  if s.root.text.isEmpty then { s with root := p.parent?.getD Path.empty } else s

/-- The settings of the text of the project file at `p`. -/
def parse (text : String) (p : Path) : Except ProjectFileError ProjectSettings :=
  match (Toml.parse? text).bind (ofValue? Value.isVoid) with
  | some s => .ok (s.completed p)
  | none => .error .parsing

/-- The settings of a project file. -/
def load (d : Disk) (p : Path) : Except ProjectFileError ProjectSettings :=
  match d.readText p with
  | .ok text => parse text p
  | .error _ => .error (.reading p)

/-- Write the project file. -/
def save (s : ProjectSettings) (d : Disk) : Except ProjectFileError Disk :=
  match d.write s.file (Utf8.encode s.toml) with
  | .ok d => .ok d
  | .error _ => .error (.writing s.file)

/-! ### Use -/

/-- The name of a directory in `dirsOpen`. -/
def dirKey (s : ProjectSettings) (dir : Path) : String :=
  ((dir.stripPrefix? s.root).getD dir).text

/-- Whether a directory is open in the file tree. -/
def isDirOpen (s : ProjectSettings) (dir : Path) : Bool :=
  (s.dirsOpen.get? (s.dirKey dir)).getD false

/-- Open or close a directory in the file tree. -/
def setDirOpen (s : ProjectSettings) (dir : Path) (isOpen : Bool) : ProjectSettings :=
  { s with dirsOpen := s.dirsOpen.set (s.dirKey dir) isOpen }

/-- The executable of the project. -/
def exePath (s : ProjectSettings) : Path :=
  let dir := if s.buildDir.isAbsolute then s.buildDir else s.root.join s.buildDir
  dir.join s.runExec

/-- Floating point numbers that compare as equal. -/
def sameFloats (a b : Table String (List Float)) : Bool :=
  a.keys == b.keys && a.entries.map Prod.snd == b.entries.map Prod.snd

/-- Settings that are equal: paths by their components, and numbers as
numbers. -/
instance : BEq ProjectSettings :=
  ⟨fun a b =>
    a.root == b.root && a.file == b.file && a.buildDir == b.buildDir &&
    a.buildTarget == b.buildTarget && a.runExec == b.runExec && a.mainLang == b.mainLang &&
    a.versionControl == b.versionControl && a.goMod == b.goMod &&
    a.lastRegister == b.lastRegister && a.splitName == b.splitName &&
    a.buildCommands == b.buildCommands && a.runCommands == b.runCommands &&
    a.debug == b.debug && a.search == b.search && a.symbolSearch == b.symbolSearch &&
    a.dirsOpen == b.dirsOpen && sameFloats a.splitters b.splitters⟩

end ProjectSettings
end Settings
end CodeDesk
