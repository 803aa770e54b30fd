import CodeDesk.CommandLine.Reader
import CodeDesk.Desk.Searching

/-!
# The program

What a command line does: it opens a desk without an editor, does one thing
and says on its output what came of it. The exit status is 0 if that went
well, 1 if it failed, and 2 if the command line is wrong.
-/

namespace CodeDesk
namespace CommandLine

/-- What a command line has done. -/
structure Result where
  /-- The exit status. -/
  status : Nat
  /-- The output. -/
  output : String
  /-- What went wrong, for whoever gave the command line. -/
  complaint : String
  /-- The disk as it is then. -/
  disk : Disk

/-- What a command line works with. -/
structure Setting where
  /-- What programs do. -/
  machine : Machine
  /-- The directory for the configuration of users. -/
  configRoot : Path

/-- The directory for the program's own configuration. -/
def Setting.configDir (s : Setting) : Path := s.configRoot.child "workbench"

/-- What went wrong. -/
inductive Failure where
  /-- The command table cannot be read. -/
  | table (e : Command.Registry.StoreError)
  /-- Something in the configuration cannot be read or written. -/
  | state (e : Settings.StateError)
  /-- The desk refuses. -/
  | desk (e : DeskError)
  /-- The directory has no absolute path. -/
  | noPath
  deriving Inhabited

/-- The wording of a failure. -/
def Failure.message : Failure → String
  | table e => e.message
  | state e => e.message
  | desk e => e.message
  | noPath => "resolving project root"

/-- What a wrong command line is answered. -/
def usageHint : String := "this is no command line of the program; try --help"

/-- Work that may fail. What it has done to the disk and what it has put out
stay done. -/
abbrev Work (α : Type) := Disk → Except Failure α × Disk

namespace Work

/-- Work that does nothing. -/
def done {α : Type} (a : α) : Work α := fun d => (.ok a, d)

/-- One work after another. -/
def andThen {α β : Type} (w : Work α) (f : α → Work β) : Work β := fun d =>
  match w d with
  | (.error e, d) => (.error e, d)
  | (.ok a, d) => f a d

end Work

/-- The projects that were used last. -/
def openRecent (s : Setting) : Work (Settings.StateFile Settings.Recent) := fun d =>
  let (r, d) := Settings.StateFile.openAt d (s.configDir.child "recent.json")
  (r.mapError .state, d)

/-- The command table: the built-in one, or one that is read. -/
def openTable (table : Option String) : Work Command.Registry := fun d =>
  match table with
  | none => (.ok Command.Registry.defaults, d)
  | some p => ((Command.Registry.loadFile d ⟨p⟩).mapError .table, d)

/-- The options of languages. -/
def openLanguages (s : Setting) : Work Settings.LanguageOptions := fun d =>
  let (r, d) := Settings.StateFile.openAt d (s.configDir.child "langs.json")
  ((r.mapError .state).map (·.current), d)

/-- What desks are opened with. There is no debugger. -/
def openSupplies (s : Setting) (table : Option String) : Work (Supplies Unit) :=
  (openTable table).andThen fun registry =>
    (openLanguages s).andThen fun languages =>
      (openRecent s).andThen fun recent =>
        Work.done ⟨registry, languages, some recent, (), Debug.Marks.hidden⟩

/-- Open the desk of a project file. -/
def openDesk (s : Setting) (table : Option String) (p : String) : Work (Desk Unit) :=
  (openSupplies s table).andThen fun w d =>
    match Desk.openProject ⟨p⟩ w d with
    | .error e => (.error (.desk e), d)
    | .ok desk => (.ok desk, desk.disk)

/-- Lines of output, each ended by a line break. -/
def outputOf (ls : List String) : String := unlines ls

/-! ## Subcommands -/

/-- Create a project file for a directory. -/
def runInit (s : Setting) (table : Option String) (root : String) : Work (Nat × String) := fun d =>
  match Path.absolute? ⟨"/" ++ String.intercalate "/" d.cwd⟩ ⟨root⟩ with
  | none => (.error .noPath, d)
  | some root =>
    (openSupplies s table).andThen (fun w d =>
      let desk := Desk.ofSettings (Settings.ProjectSettings.detect d root) w d
      match desk.saveProject with
      | (.error e, desk) => (.error (.desk e), desk.disk)
      | (.ok _, desk) => (.ok (0, outputOf [desk.settings.file.text]), desk.disk)) d

/-- A command as the list shows it. -/
def commandLine (c : Command.Spec) : String := "  " ++ padRight 24 c.name ++ " " ++ c.desc

/-- List the commands for a language and a version control system. -/
def runCommands (table lang vcs : Option String) : Work (Nat × String) :=
  (openTable table).andThen fun r =>
    Work.done (0, outputOf ((r.menu lang vcs).flatMap fun g =>
      g.category :: g.commands.map commandLine))

/-- The lines of a sink up to the end of a run of its name, and how the run
has ended. -/
def follow (label : String) : List DeskEvent → List String × Option Command.Outcome
  | [] => ([], none)
  | .output (.line sink l) :: es =>
    let (ls, o) := follow label es
    (if sink == label then l.text :: ls else ls, o)
  | .run (.finished _ name o) :: es => if name == label then ([], some o) else follow label es
  | _ :: es => follow label es

/-- Run a command and put out what it prints. -/
def runRun (s : Setting) (table : Option String) (project label : String) : Work (Nat × String) :=
  (openDesk s table project).andThen fun desk d =>
    let desk := { desk with noPrompt := true }
    match desk.runCommand s.machine label none Command.Prompter.silent with
    | (.error e, _) => (.error (.desk e), d)
    | (.ok id, desk) =>
      let name := ((desk.runner.runs[id]?).map (·.plan.label)).getD label
      let (_, runner) := desk.runner.wait s.machine id
      let (es, desk) := (desk.withRunner runner).drain
      let (ls, o) := follow name es
      (.ok (if o = some .success then 0 else 1, outputOf ls), desk.disk)

/-- Search a project. -/
def runFind (s : Setting) (table : Option String) (g : Given) : Work (Nat × String) :=
  (openDesk s table (g.argument 0)).andThen fun desk d =>
    let place : Find.Place := if g.has "open-dirs" then .openDirs else .everywhere
    let r : Find.Request :=
      { Find.Request.blank with
        pattern := g.argument 1
        ignoreCase := g.has "ignore-case"
        isRegex := g.has "regex"
        place := place }
    match desk.find r none false with
    | (.error e, _) => (.error (.desk e), d)
    | (.ok view, desk) =>
      match desk.saveProject with
      | (.error _, desk) => (.ok (1, view.text), desk.disk)
      | (.ok _, desk) => (.ok (0, view.text), desk.disk)

/-- List the projects that were used last. -/
def runRecent (s : Setting) : Work (Nat × String) :=
  (openRecent s).andThen fun f => Work.done (0, outputOf (f.current.paths.map (·.text)))

/-- Do what a command line says. -/
def perform (s : Setting) (r : Reading) : Work (Nat × String) :=
  let table := r.options.value? "commands"
  let g := r.given
  if r.command == "init" then runInit s table (g.argument 0)
  else if r.command == "commands" then runCommands table (g.value? "lang") (g.value? "vcs")
  else if r.command == "run" then runRun s table (g.argument 0) (g.argument 1)
  else if r.command == "find" then runFind s table g
  else runRecent s

/-- Run the program. -/
def run (s : Setting) (words : List String) (d : Disk) : Result :=
  match workbench.read words with
  | .error (.help c) => ⟨0, workbench.explain c, "", d⟩
  | .error .version => ⟨0, workbench.version ++ "\n", "", d⟩
  | .error .usage => ⟨2, "", usageHint, d⟩
  | .ok r =>
    match perform s r d with
    | (.error e, d) => ⟨1, "", e.message, d⟩
    | (.ok (status, output), d) => ⟨status, output, "", d⟩

end CommandLine
end CodeDesk
