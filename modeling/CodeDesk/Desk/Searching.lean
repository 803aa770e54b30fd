import CodeDesk.Desk.Editing
import CodeDesk.Find.Scan

/-!
# Searches at a desk

A search sees the files of the project with the open documents in their
places. Its results are kept until the next search; matches are opened and
replaced in the documents.
-/

namespace CodeDesk
namespace Desk

variable {σ : Type}

/-- Search the project. -/
def search (d : Desk σ) (r : Find.Request) (active : Option Path) (cancelled : Bool) :
    Except DeskError Find.Results × Desk σ :=
  let (ids, d) := d.onDocuments Documents.buffers
  let store := d.documents.store
  let root := d.settings.root
  match Find.Node.scan store.disk d.settings.isDirOpen root with
  | .error _ => (.error .readingTree, d)
  | .ok tree =>
    let tree := tree.attachBuffers store ids
    ((Find.find store r ⟨root, some tree, active, ids, d.findConfig⟩ cancelled).mapError .find, d)

/-- Keep the results of a search. -/
def showResults (d : Desk σ) (r : Find.Results) : Except DeskError Find.View × Desk σ :=
  match Find.Replacer.ofResults r with
  | .error e => (.error (.find e), d)
  | .ok replacer =>
    let view := r.render
    (.ok view,
      { d with
        settings := { d.settings with search := r.request }
        findings := some ⟨r, view, replacer⟩ })

/-- Search the project and keep the results. -/
def find (d : Desk σ) (r : Find.Request) (active : Option Path) (cancelled : Bool) :
    Except DeskError Find.View × Desk σ :=
  match d.search r active cancelled with
  | (.error e, d) => (.error e, d)
  | (.ok results, d) => d.showResults results

/-- The last search with the match that a line of its view lists. -/
def listed (d : Desk σ) (line : Nat) : Except DeskError (Findings × Find.Link) :=
  match d.findings with
  | none => .error .noResults
  | some f =>
    match f.view.linkAt line with
    | none => .error .noMatch
    | some l => .ok (f, l)

/-- Open the file of a match that a line lists. The answer is its buffer
and where the match is now. -/
def openResult (d : Desk σ) (line : Nat) : Except DeskError (BufferId × Region) × Desk σ :=
  match d.listed line with
  | .error e => (.error e, d)
  | .ok (f, l) =>
    match bufferOf d.documents l.path with
    | (.error e, docs) => (.error (.document e), d.withDocuments docs)
    | (.ok id, docs) =>
      let (region, s) := f.replacer.reveal l id docs.store
      let d := d.withDocuments { docs with store := s }
      match region with
      | none => (.error .matchGone, d)
      | some r => (.ok (id, r), d)

/-- Replace the match that a line lists. -/
def replaceAt (d : Desk σ) (line : Nat) : Except DeskError Bool × Desk σ :=
  match d.listed line with
  | .error e => (.error e, d)
  | .ok (f, l) =>
    match bufferOf d.documents l.path with
    | (.error e, docs) => (.error (.document e), d.withDocuments docs)
    | (.ok id, docs) =>
      match f.replacer.replaceAt f.view line id docs.store with
      | .error e => (.error (.find e), d.withDocuments docs)
      | .ok (replaced, replacer, view, s) =>
        let d := d.withDocuments { docs with store := s }
        (.ok replaced, { d with findings := some { f with view := view, replacer := replacer } })

/-- Open a file for a replacement. -/
def opener : Find.Replacer.Opener := fun p docs =>
  let (r, docs) := bufferOf docs p
  (r.mapError .document, docs)

/-- Replace every pending match. -/
def replaceAll (d : Desk σ) : Except DeskError Nat × Desk σ :=
  match d.findings with
  | none => (.error .noResults, d)
  | some f =>
    let (r, replacer, docs) := f.replacer.replaceAll f.results opener d.documents
    (r.mapError .find,
      { d.withDocuments docs with findings := some { f with replacer := replacer } })

end Desk
end CodeDesk
