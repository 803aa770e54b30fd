import CodeDesk.Command.Dispatch
import CodeDesk.Data.Table
import CodeDesk.Debug.Controller
import CodeDesk.Desk.Events
import CodeDesk.Document.Documents
import CodeDesk.Find.Replacer
import CodeDesk.Settings.LanguageOptions
import CodeDesk.Settings.ProjectSettings
import CodeDesk.Settings.Recent

/-!
# Desks

A desk is an open project: its settings, its documents, the commands that
run, the debugger and the last search. Everything that is on disk, and all
output, is where the runner has it; documents and searches work on it in
turn. The environment of a desk holds the variables that every command is
given. One of them follows the setting for Go modules.
-/

namespace CodeDesk

/-- Variables by name. -/
structure Environment where
  /-- The variables. -/
  vars : Table String String
  deriving Inhabited, DecidableEq

namespace Environment

/-- No variables. -/
def empty : Environment := ⟨Table.empty⟩

/-- The value of a variable. -/
def get? (e : Environment) (name : String) : Option String := e.vars.get? name

/-- Give a variable a value. -/
def set (e : Environment) (name value : String) : Environment := ⟨e.vars.set name value⟩

/-- Take a variable away; the answer is its value. -/
def unset (e : Environment) (name : String) : Option String × Environment :=
  (e.get? name, ⟨e.vars.erase name⟩)

/-- The variable that switches Go modules. -/
def goModules : String := "GO111MODULE"

/-- Switch Go modules on or off. -/
def setGoModules (e : Environment) (on : Bool) : Environment :=
  e.set goModules (if on then "on" else "off")

end Environment

/-- What a desk works with. -/
structure Host (σ : Type) where
  /-- What programs do. -/
  machine : Machine
  /-- The debuggers. -/
  debugging : Debug.Setup σ

/-- Why something was not done. -/
inductive DeskError where
  /-- A document is in the way. -/
  | document (e : DocumentError)
  /-- The search cannot be made. -/
  | find (e : Find.FindError)
  /-- The command is refused. -/
  | command (e : Command.CommandError)
  /-- The debugger does not start. -/
  | debugger (e : Debug.AdapterError)
  /-- The project file cannot be opened. -/
  | opening (e : Settings.ProjectSettings.ProjectFileError)
  /-- The project file cannot be written. -/
  | saving (e : Settings.ProjectSettings.ProjectFileError)
  /-- The directory of the project cannot be read. -/
  | readingTree
  /-- No commands are set for what is to be done. -/
  | noCommands (what : String)
  /-- Nothing was searched for. -/
  | noResults
  /-- The line lists no match. -/
  | noMatch
  /-- The match is not there any more. -/
  | matchGone
  /-- No editor is active. -/
  | noActiveView
  deriving Inhabited

/-- The wording of an error. -/
def DeskError.message : DeskError → String
  | document e => e.message
  | find e => e.message
  | command e => e.message
  | debugger _ => "starting debugger"
  | opening _ => "opening project"
  | saving _ => "saving project"
  | readingTree => "reading project tree"
  | noCommands what => s!"no {what} commands configured"
  | noResults => "no find results"
  | noMatch => "no match on this results line"
  | matchGone => "the linked match is no longer in the file"
  | noActiveView => "save needs an active editor view"

/-- The last search. -/
structure Findings where
  /-- What was found. -/
  results : Find.Results
  /-- The lines that are shown. -/
  view : Find.View
  /-- The pending matches. -/
  replacer : Find.Replacer
  deriving Inhabited

/-- What a desk is opened with. -/
structure Supplies (σ : Type) where
  /-- The commands. -/
  registry : Command.Registry
  /-- The options of languages. -/
  languages : Settings.LanguageOptions
  /-- The projects that were used last. -/
  recent : Option (Settings.StateFile Settings.Recent)
  /-- The state of the debuggers. -/
  debuggers : σ
  /-- The lines that are marked. -/
  marks : Debug.Marks

/-- An open project. -/
structure Desk (σ : Type) where
  /-- The settings. -/
  settings : Settings.ProjectSettings
  /-- The commands. -/
  registry : Command.Registry
  /-- The options of languages. -/
  languages : Settings.LanguageOptions
  /-- The projects that were used last. -/
  recent : Option (Settings.StateFile Settings.Recent)
  /-- The runs, with the disk and the output. -/
  runner : Command.Runner
  /-- Every buffer there has been. -/
  buffers : List Buffer
  /-- The open documents. -/
  openList : OpenList
  /-- The debugger. -/
  debugger : Debug.Controller σ
  /-- What every search keeps to. -/
  findConfig : Find.Config
  /-- The last search. -/
  findings : Option Findings
  /-- The variables for commands. -/
  env : Environment
  /-- The values of the last command. -/
  values : Template.Values
  /-- Whether nobody is asked for values. -/
  noPrompt : Bool
  /-- When the project file was last written. -/
  lastSave : Stamp
  deriving Inhabited

namespace Desk

variable {σ : Type}

/-- The disk. -/
def disk (d : Desk σ) : Disk := d.runner.disk

/-- Exchange the disk. -/
def withDisk (d : Desk σ) (disk : Disk) : Desk σ :=
  { d with runner := { d.runner with disk := disk } }

/-- Exchange the runner. -/
def withRunner (d : Desk σ) (r : Command.Runner) : Desk σ := { d with runner := r }

/-- The documents. -/
def documents (d : Desk σ) : Documents := ⟨⟨d.disk, d.buffers⟩, d.openList⟩

/-- Exchange the documents. -/
def withDocuments (d : Desk σ) (docs : Documents) : Desk σ :=
  { d with buffers := docs.store.buffers, openList := docs.list }.withDisk docs.store.disk

/-- Exchange the buffers. -/
def withStore (d : Desk σ) (s : Store) : Desk σ := { d with buffers := s.buffers }.withDisk s.disk

/-- Work with the documents. -/
def onDocuments {α : Type} (d : Desk σ) (f : Documents → α × Documents) : α × Desk σ :=
  let (a, docs) := f d.documents
  (a, d.withDocuments docs)

/-- Work with the debugger. -/
def onDebugger {α : Type} (d : Desk σ) (f : Debug.Controller σ → α × Debug.Controller σ) :
    α × Desk σ :=
  let (a, c) := f d.debugger
  (a, { d with debugger := c })

/-- The time, after which the clock has moved on. -/
def tick (d : Desk σ) : Stamp × Desk σ := (d.disk.tick.1, d.withDisk d.disk.tick.2)

/-! ## Settings -/

/-- Give commands the variables of the desk. -/
def exportVariables (d : Desk σ) : Desk σ :=
  { d with runner := { d.runner with env := d.env.vars } }

/-- Bring the settings into effect. -/
def applySettings (d : Desk σ) : Desk σ :=
  { d with env := d.env.setGoModules d.settings.goMod }.exportVariables

/-- Change the settings. -/
def updateSettings (d : Desk σ) (s : Settings.ProjectSettings) : Desk σ :=
  { d with settings := s }.applySettings

/-- Give a variable a value. -/
def setVariable (d : Desk σ) (name value : String) : Desk σ :=
  { d with env := d.env.set name value }.exportVariables

/-- The desk of a project. -/
def ofSettings (s : Settings.ProjectSettings) (w : Supplies σ) (disk : Disk) : Desk σ :=
  { settings := s
    registry := w.registry
    languages := w.languages
    recent := w.recent
    runner := Command.Runner.ofDisk disk
    buffers := []
    openList := OpenList.empty
    debugger := Debug.Controller.idle w.debuggers w.marks
    findConfig := Find.Config.standard
    findings := none
    env := Environment.empty
    values := Template.Values.empty
    noPrompt := false
    lastSave := 0 : Desk σ }.applySettings

/-- Put the project first among those that were used last. It does no harm
if that cannot be written. -/
def touchRecent (d : Desk σ) : Desk σ :=
  match d.recent with
  | none => d
  | some f =>
    let (_, f, disk) := f.update d.disk fun r => ((), r.add d.settings.file)
    { d with recent := some f }.withDisk disk

/-- Open a project file. -/
def openProject (p : Path) (w : Supplies σ) (disk : Disk) : Except DeskError (Desk σ) :=
  match Settings.ProjectSettings.load disk p with
  | .error e => .error (.opening e)
  | .ok s =>
    .ok { ofSettings s w disk with
      lastSave := match disk.modified p with
        | .ok t => t
        | .error _ => 0 }.touchRecent

/-- Write the project file. -/
def saveProject (d : Desk σ) : Except DeskError Unit × Desk σ :=
  match d.settings.save d.disk with
  | .error e => (.error (.saving e), d)
  | .ok disk =>
    let (now, d) := (d.withDisk disk).tick
    (.ok (), { d with lastSave := now }.touchRecent)

/-- The paths of the project as templates see them. -/
def paths (d : Desk σ) : Template.ProjectPaths :=
  ⟨d.settings.root, d.settings.buildDir, d.settings.buildTarget, d.settings.runExec⟩

/-! ## Events -/

/-- The events that nobody has received yet. -/
def channels (d : Desk σ) : Channels := ⟨d.runner.sinks.events, d.runner.events, d.debugger.events⟩

/-- Exchange the events that nobody has received yet. -/
def withChannels (d : Desk σ) (c : Channels) : Desk σ :=
  { d with
    runner := { d.runner with
      sinks := { d.runner.sinks with events := c.output }
      events := c.runs }
    debugger := { d.debugger with events := c.debug } }

/-- Receive the events. -/
def drain (d : Desk σ) : List DeskEvent × Desk σ :=
  let (es, c) := d.channels.drain
  (es, d.withChannels c)

end Desk
end CodeDesk
