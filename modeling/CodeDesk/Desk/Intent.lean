import CodeDesk.Desk.Debugging
import CodeDesk.Desk.Searching

/-!
# Intents

Everything a user can ask a desk for, as one type, and what comes of it. A
front end needs nothing else to drive a desk.
-/

namespace CodeDesk

/-- What a user asks a desk for. -/
inductive Intent where
  /-- Save the active document. -/
  | save
  /-- Save every document. -/
  | saveAll
  /-- Build the project. -/
  | build
  /-- Run the project. -/
  | run
  /-- Run the command of a label. -/
  | command (label : String)
  /-- Kill the run of a label. -/
  | kill (name : String)
  /-- Search the project. -/
  | find (r : Find.Request)
  /-- Open the match that a line of the results lists. -/
  | openResult (line : Nat)
  /-- Replace the match that a line of the results lists. -/
  | replaceAt (line : Nat)
  /-- Replace every pending match. -/
  | replaceAll
  /-- Ask the debugger. -/
  | debug (r : Desk.DebugRequest)
  deriving Inhabited

/-- What came of an intent. -/
inductive IntentOutcome where
  /-- Documents were saved. -/
  | saved (count : Nat)
  /-- Runs were started. -/
  | started (ids : List Command.RunId)
  /-- A run was killed, if there was one. -/
  | killed (o : Option Command.Outcome)
  /-- A search was made. Its results are shown when the front end hands them
  back. -/
  | found (r : Find.Results)
  /-- A match was opened. -/
  | opened (id : BufferId) (region : Region)
  /-- Matches were replaced. -/
  | replaced (count : Nat)
  /-- The debugger has answered. -/
  | debugger (a : Desk.DebugAnswer)
  deriving Inhabited

namespace Desk

variable {σ : Type}

/-- Save the active document. -/
def saveActive (M : Machine) (d : Desk σ) (r : Request) : Except DeskError Unit × Desk σ :=
  match r.active with
  | none => (.error .noActiveView, d)
  | some a =>
    let (out, d) := d.saveFile M a.buffer r.prompter
    (out.map fun _ => (), d)

/-- Carry out what a user asks for. -/
def perform (H : Host σ) (d : Desk σ) (i : Intent) (r : Request) :
    Except DeskError IntentOutcome × Desk σ :=
  let M := H.machine
  match i with
  | .save =>
    let (out, d) := d.saveActive M r
    (out.map fun _ => .saved 1, d)
  | .saveAll =>
    let (out, d) := d.saveAll M r.prompter
    (out.map .saved, d)
  | .build =>
    let (out, d) := d.build M r.active r.prompter
    (out.map .started, d)
  | .run =>
    let (out, d) := d.run M r.active r.prompter
    (out.map .started, d)
  | .command label =>
    let (out, d) := d.runCommand M label r.active r.prompter
    (out.map fun id => .started [id], d)
  | .kill name =>
    let (out, d) := d.kill M name
    (.ok (.killed out), d)
  | .find request =>
    let (out, d) := d.search request (d.activePath r.active) r.isCancelled
    (out.map .found, d)
  | .openResult line =>
    let (out, d) := d.openResult line
    (out.map fun x => .opened x.1 x.2, d)
  | .replaceAt line =>
    let (out, d) := d.replaceAt line
    (out.map fun yes => .replaced (if yes then 1 else 0), d)
  | .replaceAll =>
    let (out, d) := d.replaceAll
    (out.map .replaced, d)
  | .debug request =>
    let (out, d) := d.debug H.debugging request
    (out.map .debugger, d)

/-- Kill every run and end the session of the debugger. -/
def shutdown (H : Host σ) (d : Desk σ) : Desk σ :=
  let d := d.withRunner (d.runner.killAll H.machine)
  (d.onDebugger fun c => ((), c.detach H.debugging)).2

end Desk
end CodeDesk
