import CodeDesk.Desk.Running

/-!
# Documents of a desk

Every file is open at most once as a document, except that a sidecar which
is found when its document is opened may become a document of its own. When
a document is saved, the commands that are set for its language are run.
-/

namespace CodeDesk
namespace Desk

variable {σ : Type}

/-- The buffer of a file: an open one, or a new one. -/
def bufferOf (docs : Documents) (p : Path) : Except DocumentError BufferId × Documents :=
  match docs.byPath p with
  | (some id, docs) => (.ok id, docs)
  | (none, docs) =>
    match docs.store.openFile p with
    | .error e => (.error e, docs)
    | .ok (id, s) => (.ok id, ({ docs with store := s }.add id).2)

/-- Open a file that is not open, and deal with its sidecar as chosen. -/
def openNew (docs : Documents) (p : Path) (choice : SidecarChoice) :
    Except DocumentError BufferId × Documents :=
  match docs.store.openFile p with
  | .error e => (.error e, docs)
  | .ok (id, s) =>
    let docs := { docs with store := s }
    match s.buffer? id with
    | none => (.ok id, docs)
    | some b =>
      match b.reconcile s.disk choice with
      | .error e => (.error e, docs)
      | .ok (.openSeparately sidecar, disk) =>
        match { s with disk := disk }.openFile sidecar with
        | .error e => (.error e, docs)
        | .ok (recovered, s) =>
          let docs := ({ docs with store := s }.add recovered).2
          (.ok id, (docs.add id).2)
      | .ok (_, disk) => (.ok id, ({ docs with store := { s with disk := disk } }.add id).2)

/-- The path of a sidecar that the user is asked about when a file is
opened. -/
def sidecarFound? (docs : Documents) (p : Path) : Option Path :=
  if (docs.list.byPath docs.store p).isSome then none
  else
    match Buffer.ofFile docs.store.disk p with
    | .error _ => none
    | .ok b => if b.hasSidecar docs.store.disk then some (sidecarOf b.path) else none

/-- Open a file, or bring it to the front. -/
def openFile (d : Desk σ) (p : Path) (choice : SidecarChoice) :
    Except DeskError BufferId × Desk σ :=
  match d.documents.byPath p with
  | (some id, docs) => (.ok id, d.withDocuments (docs.add id).2)
  | (none, docs) =>
    let (r, docs) := openNew docs p choice
    (r.mapError .document, d.withDocuments docs)

/-- Close a document. -/
def closeFile (d : Desk σ) (id : BufferId) : Desk σ :=
  let docs := d.documents
  d.withDocuments ({ docs with store := docs.store.close id }.remove id).2

/-- Run the commands of labels after a file was saved. A command that is
refused is left out. -/
def runHooks (M : Machine) (p : Command.Prompter) (file : Path) :
    List String → Desk σ → List Command.RunId × Desk σ
  | [], d => ([], d)
  | label :: labels, d =>
    match d.registry.get label with
    | .error _ => runHooks M p file labels d
    | .ok c =>
      let values := Template.Values.resolve (some file) d.paths none
      let out := d.runner.dispatch M c values p (d.circumstances true)
      let d := d.withRunner out.runner
      match out.run with
      | .error _ => runHooks M p file labels d
      | .ok id =>
        let (ids, d) := runHooks M p file labels d
        (id :: ids, d)

/-- Run the commands that are set for the language of a buffer that was
saved. -/
def postSave (M : Machine) (d : Desk σ) (id : BufferId) (p : Command.Prompter) :
    List Command.RunId × Desk σ :=
  match d.documents.store.buffer? id with
  | none => ([], d)
  | some b =>
    match b.language? with
    | none => ([], d)
    | some l => runHooks M p b.path (d.languages.postSave l) d

/-- Save a buffer. -/
def saveBuffer (id : BufferId) (d : Desk σ) : Except DocumentError Unit × Desk σ :=
  let (r, s) := d.documents.store.save id
  (r, d.withStore s)

/-- Save a document. -/
def saveFile (M : Machine) (d : Desk σ) (id : BufferId) (p : Command.Prompter) :
    Except DeskError (List Command.RunId) × Desk σ :=
  match saveBuffer id d with
  | (.error e, d) => (.error (.document e), d)
  | (.ok _, d) =>
    let (ids, d) := d.postSave M id p
    (.ok ids, d)

/-- Save every document with unsaved changes. The result holds the buffers
that were saved. -/
def saveChanged (M : Machine) (p : Command.Prompter) (d : Desk σ) :
    Except DocumentError Nat × List BufferId × Desk σ :=
  let (ids, d) := d.onDocuments Documents.dirty
  let (r, saved, d) := OpenList.saveEach saveBuffer (fun id d => (d.postSave M id p).2) ids d
  (r.map fun _ => saved.length, saved, d)

/-- Save every document with unsaved changes. -/
def saveAll (M : Machine) (d : Desk σ) (p : Command.Prompter) : Except DeskError Nat × Desk σ :=
  let (r, _, d) := saveChanged M p d
  (r.mapError .document, d)

/-- Deal with unsaved changes before going on. -/
def saveAllCheck (M : Machine) (d : Desk σ) (canCancel : Bool) (choice : SaveChoice)
    (p : Command.Prompter) : SaveCheck × Desk σ :=
  Documents.checkUnsaved (fun d => d.onDocuments Documents.changed) (saveChanged M p) canCancel
    choice d

end Desk
end CodeDesk
