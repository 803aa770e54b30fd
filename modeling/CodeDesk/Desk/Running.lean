import CodeDesk.Desk.Basic

/-!
# Running commands at a desk

A command that the user starts is bound to the active view. Building and
running the project are lists of commands in its settings, which are
started in turn.
-/

namespace CodeDesk

/-- The editor that the user works in. -/
structure ActiveView where
  /-- The buffer it shows. -/
  buffer : BufferId
  /-- Where the cursor is, and what is selected. -/
  editor : Template.EditorContext
  deriving Inhabited

/-- What the desk is asked for comes with an active editor, if there is
one, and with somebody to answer for the user. -/
structure Request where
  /-- The active editor. -/
  active : Option ActiveView
  /-- Who answers for the user. -/
  prompter : Command.Prompter
  /-- Whether searches are cancelled. -/
  isCancelled : Bool

namespace Desk

variable {σ : Type}

/-- The circumstances in which the desk runs commands. -/
def circumstances (d : Desk σ) (hasBuffer : Bool) : Command.Circumstances :=
  ⟨false, d.noPrompt, hasBuffer, d.settings.root⟩

/-- The path of the active buffer. -/
def activePath (d : Desk σ) (active : Option ActiveView) : Option Path :=
  active.map fun a => d.documents.store.pathOf a.buffer

/-- Run the command of a label. -/
def runCommand (M : Machine) (d : Desk σ) (label : String) (active : Option ActiveView)
    (p : Command.Prompter) : Except DeskError Command.RunId × Desk σ :=
  match d.registry.get label with
  | .error e => (.error (.command e), d)
  | .ok c =>
    let values := Template.Values.resolve (d.activePath active) d.paths (active.map (·.editor))
    let out := d.runner.dispatch M c values p (d.circumstances active.isSome)
    let d := { d with values := out.values, runner := out.runner }
    match out.run with
    | .error e => (.error (.command e), d)
    | .ok id => (.ok id, d)

/-- Run the commands of labels, up to the first that is refused. -/
def runEach (M : Machine) (active : Option ActiveView) (p : Command.Prompter) :
    List String → Desk σ → Except DeskError (List Command.RunId) × Desk σ
  | [], d => (.ok [], d)
  | label :: labels, d =>
    match d.runCommand M label active p with
    | (.error e, d) => (.error e, d)
    | (.ok id, d) =>
      let (ids, d) := runEach M active p labels d
      (ids.map (id :: ·), d)

/-- Run the commands that are set for something. -/
def runAll (M : Machine) (d : Desk σ) (labels : List String) (what : String)
    (active : Option ActiveView) (p : Command.Prompter) :
    Except DeskError (List Command.RunId) × Desk σ :=
  if labels.isEmpty then (.error (.noCommands what), d) else runEach M active p labels d

/-- Build the project. -/
def build (M : Machine) (d : Desk σ) (active : Option ActiveView) (p : Command.Prompter) :
    Except DeskError (List Command.RunId) × Desk σ :=
  d.runAll M d.settings.buildCommands "build" active p

/-- Run the project. -/
def run (M : Machine) (d : Desk σ) (active : Option ActiveView) (p : Command.Prompter) :
    Except DeskError (List Command.RunId) × Desk σ :=
  d.runAll M d.settings.runCommands "run" active p

/-- Kill the run that is listed under a label, if there is one. -/
def kill (M : Machine) (d : Desk σ) (name : String) : Option Command.Outcome × Desk σ :=
  let (o, r) := d.runner.kill M name
  (o, d.withRunner r)

end Desk
end CodeDesk
