import CodeDesk.Proofs.Desk.Session
import Mathlib.Data.List.Induction
/-!
# One path — how two documents of one file come about

Every way of opening a file looks first whether it is open, and takes the
buffer there is. The sidecar that is opened along with its document is the
exception: it gets a new buffer without a look at the list. So the open
documents have paths of their own in a whole history exactly if no file is
opened whose sidecar is open and is to be opened with it (`onePath_iff`).
-/

namespace CodeDesk
namespace Desk

variable {σ : Type} {M : Machine} {d : Desk σ}

/-- No two open documents have the same path. -/
def OnePath (d : Desk σ) : Prop :=
  d.documents.buffers.1.Pairwise fun i j =>
    (d.documents.store.pathOf i == d.documents.store.pathOf j) = false

/-- A file is opened that is not open and has a sidecar, the user wants the
sidecar as a document of its own, it can be read, and it is one already. -/
def Act.Doubles (d : Desk σ) : Act → Prop
  | .openFile p choice => Desk.Doubles d.documents p choice
  | _ => False

theorem onePath_iff_apart (h : d.documents.Tidy) : d.OnePath ↔ d.documents.Apart := by
  rw [OnePath, h.buffers, Documents.Apart]

/-- **One act** keeps the paths apart exactly if it does not open a sidecar a
second time. -/
theorem apart_act_iff (h : d.documents.Tidy) (hapart : d.documents.Apart) (a : Act) :
    (d.act M a).documents.Apart ↔ ¬ a.Doubles d := by
  cases a with
  | openFile p choice => exact (openFile_spec h p choice).2 hapart
  | closeFile id => exact iff_of_true (apart_closeFile hapart id) fun h => h
  | _ =>
    refine iff_of_true ((growsApart_act h ?_ ?_).apart hapart) fun h => h
    · exact fun _ _ => Act.noConfusion
    · exact fun _ => Act.noConfusion

/-- **At most one document has a path**, at every point of a history, exactly
if no act opens a sidecar a second time. -/
theorem onePath_iff (M : Machine) (s : Settings.ProjectSettings) (w : Supplies σ) (disk : Disk)
    (acts : List Act) :
    (∀ before, before <+: acts → ((ofSettings s w disk).after M before).OnePath) ↔
      ∀ before a behind, acts = before ++ a :: behind →
        ¬ a.Doubles ((ofSettings s w disk).after M before) := by
  have htidy : ∀ before, ((ofSettings s w disk).after M before).documents.Tidy :=
    tidy_after (tidy_ofSettings s w disk)
  constructor
  · intro h before a behind hacts
    have hbefore := (onePath_iff_apart (htidy before)).1 (h before ⟨a :: behind, hacts.symm⟩)
    have hact : before ++ [a] <+: acts :=
      ⟨behind, by rw [hacts, List.append_assoc, List.singleton_append]⟩
    have hbehind := (onePath_iff_apart (htidy _)).1 (h _ hact)
    rw [after_concat] at hbehind
    exact (apart_act_iff (htidy before) hbefore a).1 hbehind
  · intro h before hprefix
    rw [onePath_iff_apart (htidy before)]
    -- The paths are apart in front of the last act, which is no doubling.
    induction before using List.reverseRecOn with
    | nil => exact List.Pairwise.nil
    | append_singleton before a ih =>
      obtain ⟨behind, hacts⟩ := hprefix
      rw [List.append_assoc, List.singleton_append] at hacts
      rw [after_concat]
      have hbefore := ih ⟨a :: behind, hacts⟩
      exact (apart_act_iff (htidy before) hbefore a).2 (h before a behind hacts.symm)

/-! ## A sidecar that is opened twice -/

/-- A document and its sidecar. -/
def twoFiles : Disk := ⟨[(["a"], .file [97] 0 0), (["#a#"], .file [98] 0 0)], 1, []⟩

theorem entry_document : twoFiles.entry true document = .ok (.file [97] 0 0) :=
  Disk.entry_inRoot "a" (by decide +kernel) rfl rfl

theorem entry_sidecar : twoFiles.entry true sidecar = .ok (.file [98] 0 0) :=
  Disk.entry_inRoot "#a#" (by decide +kernel) rfl rfl

theorem sidecarOf_document : sidecarOf document = sidecar := by decide

theorem hasSidecar_document : (freshBuffer document [97] 0).hasSidecar twoFiles := by
  have hsidecar : isSidecar document = false := by decide
  simp only [Buffer.hasSidecar, freshBuffer, hsidecar, sidecarOf_document, Disk.isFile,
    entry_sidecar, Entry.isFile, Bool.or_self, Bool.not_false, Bool.and_self]

/-- A document is opened with its sidecar, and closed. -/
def lookedAt : List Act := [.openFile document .openSeparately, .closeFile 0]

theorem opened_document :
    ((plainDesk twoFiles).openFile document .openSeparately).2.documents =
      ⟨⟨twoFiles, [freshBuffer document [97] 0, freshBuffer sidecar [98] 0]⟩, ⟨[0, 1]⟩⟩ := by
  have hb : Buffer.ofFile (Documents.ofDisk twoFiles).store.disk document =
      .ok (freshBuffer document [97] 0) := ofFile_eq entry_document
  have hreconcile : (freshBuffer document [97] 0).reconcile (Documents.ofDisk twoFiles).store.disk
      .openSeparately = .ok (.openSeparately sidecar, twoFiles) := by
    rw [Buffer.reconcile.eq_def]
    refine (if_pos hasSidecar_document).trans ?_
    exact congrArg (fun p => Except.ok (Reconciled.openSeparately p, twoFiles)) sidecarOf_document
  rw [openFile_plainDesk, openNew_eq _ hb, hreconcile]
  dsimp only
  rw [ofFile_eq entry_sidecar]
  rfl

theorem documents_lookedAt :
    ((plainDesk twoFiles).after idleMachine lookedAt).documents =
      ⟨⟨twoFiles, [{ freshBuffer document [97] 0 with attached := false },
        freshBuffer sidecar [98] 0]⟩, ⟨[1]⟩⟩ := by
  show (((plainDesk twoFiles).openFile document .openSeparately).2.closeFile 0).documents = _
  rw [closeFile, documents_withDocuments, opened_document]
  rfl

theorem doubles_lookedAt :
    Act.Doubles ((plainDesk twoFiles).after idleMachine lookedAt)
      (.openFile document .openSeparately) := by
  show Desk.Doubles ((plainDesk twoFiles).after idleMachine lookedAt).documents document
    .openSeparately
  rw [documents_lookedAt]
  refine ⟨rfl, sidecar, ?_, by decide, _, ofFile_eq entry_sidecar⟩
  rw [sidecarFound?_eq (by decide) (ofFile_eq entry_document), sidecarOf_document]
  exact if_pos hasSidecar_document

/-- **The sidecar is open twice** when its document is opened with it a second
time. -/
theorem not_onePath_reopened :
    ¬ ((plainDesk twoFiles).after idleMachine
      (lookedAt ++ [.openFile document .openSeparately])).OnePath := by
  have htidy : ∀ acts, ((plainDesk twoFiles).after idleMachine acts).documents.Tidy :=
    tidy_after (tidy_ofSettings _ _ twoFiles)
  have hapart : ((plainDesk twoFiles).after idleMachine lookedAt).documents.Apart := by
    rw [documents_lookedAt]
    exact List.pairwise_singleton _ _
  rw [onePath_iff_apart (htidy _), after_concat, apart_act_iff (htidy lookedAt) hapart]
  exact not_not_intro doubles_lookedAt

end Desk
end CodeDesk
