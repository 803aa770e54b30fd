import CodeDesk.Proofs.Document.Open
import CodeDesk.Proofs.Files.Stay
import CodeDesk.Proofs.Text.Utf8
/-!
# All or nothing — what a save and a revert leave when a call fails

A save and a revert bring a buffer and its file in step and then remove the
sidecar of the file. They should do all of this or, if they fail, nothing
(`AllOrNothing`). Calls of the file system may fail at any point, so both are
looked at here on calls that do (`saveBy`, `revertBy`).

As long as nothing was written or read, a failure changes nothing. The
sidecar comes too late: when it cannot be removed, the operation fails
although everything else is done. And it may be one with the file, by a link
that leads to it, so that the file is gone in the end.
`all_or_nothing_iff` says that this is all that can go wrong.
-/

namespace CodeDesk

namespace Buffer

variable {c : Disk.Calls} {d d₁ d' : Disk} {b b₁ : Buffer} {p : Path} {bytes : Bytes}

/-- What an operation on a buffer leaves that does all it should or nothing. -/
structure AllOrNothing (d : Disk) (b : Buffer)
    (r : Except DocumentError Unit × Disk × Buffer) : Prop where
  /-- If it fails, the text, its mark and the file are as before. -/
  nothing : ∀ e, r.1 = .error e →
    r.2.2.text = b.text ∧ r.2.2.dirty = b.dirty ∧ r.2.1.read b.path = d.read b.path
  /-- If it succeeds, the text is that of the file, there are no unsaved
  changes, and there is no sidecar. -/
  all : r.1 = .ok () →
    (∃ bytes, r.2.1.read b.path = .ok bytes ∧ r.2.2.text = Utf8.decodeLossy bytes) ∧
      r.2.2.dirty = false ∧ r.2.1.Absent (sidecarOf b.path)

/-- The sidecar of a file can be removed, and the file is there afterwards. -/
def Clears (c : Disk.Calls) (d : Disk) (p : Path) : Prop :=
  ∃ found d', removeSidecarBy c d p = .ok (found, d') ∧ d'.isFile p = true

/-- The sidecar of a file cannot be removed. -/
def Blocks (c : Disk.Calls) (d : Disk) (p : Path) : Prop := ∃ e, removeSidecarBy c d p = .error e

theorem removeSidecarBy_spec {found : Bool} (h : removeSidecarBy c d p = .ok (found, d')) :
    d'.Left d ∧ d'.Absent (sidecarOf p) := by
  rcases removeSidecarBy_inv h with hremoved | ⟨hmissing, rfl⟩
  · exact ⟨Disk.left_removeFile hremoved, Disk.absent_of_removeFile hremoved⟩
  · exact ⟨.refl _, Disk.absent_of_removeFile_missing hmissing⟩

/-- A failure in front of every change. -/
theorem AllOrNothing.unchanged (d : Disk) (b : Buffer) (e : DocumentError) :
    AllOrNothing d b (.error e, d, b) :=
  ⟨fun _ _ => ⟨rfl, rfl, rfl⟩, fun h => by cases h⟩

/-- **Once a buffer and its file are in step**, all is done exactly if the
sidecar can be removed without the file, and nothing is done if it cannot be
removed only where nothing was to be done. -/
theorem allOrNothing_settleBy_iff (hpath : b₁.path = b.path) (hclean : b₁.dirty = false)
    (hread : d₁.read b.path = .ok bytes) (htext : b₁.text = Utf8.decodeLossy bytes) :
    AllOrNothing d b (settleBy c d₁ b₁) ↔ Clears c d₁ b.path ∨
      Blocks c d₁ b.path ∧ b.dirty = false ∧ b₁.text = b.text ∧ d.read b.path = .ok bytes := by
  rw [settleBy, hpath]
  cases hremove : removeSidecarBy c d₁ b.path with
  | error e =>
    have hclears : ¬ Clears c d₁ b.path := by
      rintro ⟨found, d', hok, -⟩
      rw [hremove] at hok
      cases hok
    rw [or_iff_right hclears]
    constructor
    · intro h
      obtain ⟨hsame, hdirty, hfile⟩ := h.nothing e rfl
      exact ⟨⟨e, hremove⟩, hdirty.symm.trans hclean, hsame, hfile.symm.trans hread⟩
    · rintro ⟨-, hdirty, hsame, hfile⟩
      exact ⟨fun _ _ => ⟨hsame, hclean.trans hdirty.symm, hread.trans hfile.symm⟩,
        fun h => by cases h⟩
  | ok r =>
    obtain ⟨found, d₂⟩ := r
    obtain ⟨hleft, habsent⟩ := removeSidecarBy_spec hremove
    have hblocks : ¬ Blocks c d₁ b.path := by
      rintro ⟨e, herror⟩
      rw [hremove] at herror
      cases herror
    rw [or_iff_left fun h => hblocks h.1]
    constructor
    · intro h
      obtain ⟨⟨bytes', hread', -⟩, -, -⟩ := h.all rfl
      exact ⟨found, d₂, hremove, Disk.isFile_iff.2 ⟨bytes', hread'⟩⟩
    · rintro ⟨found', d₂', hremove', hfile⟩
      rw [hremove] at hremove'
      cases hremove'
      exact ⟨fun _ h => (by cases h),
        fun _ => ⟨⟨bytes, (hleft.read hfile).trans hread, htext⟩, hclean, habsent⟩⟩

theorem allOrNothing_saveBy_iff :
    AllOrNothing d b (b.saveBy c d) ↔
      ∀ d', b.attached = true → c.write d b.path (Utf8.encode b.text) = .ok d' →
        Clears c d'.tick.2 b.path ∨ Blocks c d'.tick.2 b.path ∧ b.dirty = false ∧
          d.read b.path = .ok (Utf8.encode b.text) := by
  rw [saveBy]
  by_cases hattached : b.attached = true
  · rw [if_neg (by simp [hattached])]
    cases hwrite : c.write d b.path (Utf8.encode b.text) with
    | error e => exact iff_of_true (.unchanged d b _) fun d' _ h => by cases h
    | ok d' =>
      have hread : d'.tick.2.read b.path = .ok (Utf8.encode b.text) := by
        have hwritten := Disk.read_write (c.write_ok hwrite)
        have htick : d'.Left d'.tick.2 := .of_entries rfl rfl
        rw [← htick.read (Disk.isFile_iff.2 ⟨_, hwritten⟩), hwritten]
      dsimp only
      refine Iff.trans (allOrNothing_settleBy_iff rfl rfl hread
        (Utf8.decodeLossy_encode b.text).symm) ?_
      simp [hattached]
  · rw [if_pos (by simp [hattached])]
    exact iff_of_true (.unchanged d b _) fun d' h => absurd h hattached

theorem readFileBy_eq_ok {text : String} {t : Stamp} (h : readFileBy c d p = .ok (text, t)) :
    ∃ bytes, d.read p = .ok bytes ∧ text = Utf8.decodeLossy bytes := by
  rw [readFileBy] at h
  split at h
  · next bytes t hread _ =>
    cases h
    exact ⟨bytes, c.read_ok hread, rfl⟩
  · cases h

theorem allOrNothing_revertBy_iff :
    AllOrNothing d b (b.revertBy c d) ↔
      ∀ text t, readFileBy c d b.path = .ok (text, t) →
        Clears c d b.path ∨ Blocks c d b.path ∧ b.dirty = false ∧ text = b.text := by
  rw [revertBy]
  cases hread : readFileBy c d b.path with
  | error e => exact iff_of_true (.unchanged d b e) fun text t h => by cases h
  | ok r =>
    obtain ⟨text, t⟩ := r
    obtain ⟨bytes, hbytes, htext⟩ := readFileBy_eq_ok hread
    dsimp only
    refine Iff.trans (allOrNothing_settleBy_iff rfl rfl hbytes htext) ?_
    simp [hbytes]

/-- **A save and a revert are all or nothing**, whichever calls fail, exactly
if the sidecar can be removed once they have come to it, and the file is not
removed with it. Where it cannot be removed, a buffer without unsaved changes
that has the text of its file is none the worse for it. -/
theorem all_or_nothing_iff (c : Disk.Calls) (d : Disk) (b : Buffer) :
    (AllOrNothing d b (b.saveBy c d) ↔
      ∀ d', b.attached = true → c.write d b.path (Utf8.encode b.text) = .ok d' →
        Clears c d'.tick.2 b.path ∨ Blocks c d'.tick.2 b.path ∧ b.dirty = false ∧
          d.read b.path = .ok (Utf8.encode b.text)) ∧
    (AllOrNothing d b (b.revertBy c d) ↔
      ∀ text t, readFileBy c d b.path = .ok (text, t) →
        Clears c d b.path ∨ Blocks c d b.path ∧ b.dirty = false ∧ text = b.text) ∧
    b.saveBy .ofDisk d = b.save d ∧ b.revertBy .ofDisk d = b.revert d :=
  ⟨allOrNothing_saveBy_iff, allOrNothing_revertBy_iff, rfl, rfl⟩

/-! ## A sidecar that cannot be removed -/

/-- A disk with one file, and a directory in the place of its sidecar. -/
def blocked (bytes : Bytes) (changed clock : Stamp) : Disk :=
  ⟨[(["a"], .file bytes changed Disk.plainMode), (["#a#"], .dir)], clock, []⟩

theorem locate_blocked (bytes : Bytes) (changed clock : Stamp) :
    (blocked bytes changed clock).locate true ⟨"/a"⟩ = .ok ["a"] :=
  Disk.locate_inRoot (by decide +kernel) fun _ _ h => nomatch h

theorem write_blocked (old new : Bytes) (changed clock : Stamp) :
    (blocked old changed clock).write ⟨"/a"⟩ new = .ok (blocked new clock (clock + 1)) := by
  rw [Disk.write, locate_blocked]
  rfl

theorem removeSidecarBy_blocked (bytes : Bytes) (changed clock : Stamp) :
    removeSidecarBy .ofDisk (blocked bytes changed clock) ⟨"/a"⟩ = .error (.write ⟨"/#a#"⟩) := by
  have hsidecar : sidecarOf ⟨"/a"⟩ = ⟨"/#a#"⟩ := by decide +kernel
  have hlocate : (blocked bytes changed clock).locate false ⟨"/#a#"⟩ = .ok ["#a#"] :=
    Disk.locate_inRoot (by decide +kernel) fun h => nomatch h
  have hremove : (blocked bytes changed clock).removeFile ⟨"/#a#"⟩ = .error .isDirectory := by
    rw [Disk.removeFile, hlocate]
    rfl
  simp only [removeSidecarBy, Disk.Calls.ofDisk, hsidecar, hremove]

/-- The buffer of the file, with unsaved changes or not. -/
def edited (text : String) (dirty : Bool) (t : Stamp) : Buffer := ⟨⟨"/a"⟩, text, dirty, true, t, []⟩

theorem save_blocked (old : Bytes) (text : String) (changed clock t : Stamp) :
    (edited text true t).save (blocked old changed clock) =
      (.error (.write ⟨"/#a#"⟩), blocked (Utf8.encode text) clock (clock + 2),
        edited text false (clock + 1)) := by
  have hwrite : Disk.Calls.ofDisk.write (blocked old changed clock) ⟨"/a"⟩ (Utf8.encode text) =
      .ok (blocked (Utf8.encode text) clock (clock + 1)) := write_blocked old _ changed clock
  have htick : (blocked (Utf8.encode text) clock (clock + 1)).tick =
      (clock + 1, blocked (Utf8.encode text) clock (clock + 2)) := rfl
  have hremove := removeSidecarBy_blocked (Utf8.encode text) clock (clock + 2)
  simp only [save, saveBy, edited, hwrite, htick, settleBy, hremove, Bool.not_true, Bool.false_eq_true,
    if_false]

/-- **A save that fails** has written the file all the same, and the buffer has
no unsaved changes any more. -/
theorem not_all_or_nothing_blocked :
    let d := blocked (Utf8.encode "old") 0 1
    let r := (edited "new" true 0).save d
    r.1 = .error (.write ⟨"/#a#"⟩) ∧ r.2.2.dirty = false ∧
      r.2.1.read ⟨"/a"⟩ = .ok (Utf8.encode "new") ∧ ¬ AllOrNothing d (edited "new" true 0) r := by
  have hread : (blocked (Utf8.encode "new") 1 3).read ⟨"/a"⟩ = .ok (Utf8.encode "new") :=
    Disk.read_eq_ok.2 ⟨["a"], 1, Disk.plainMode, locate_blocked _ 1 3, rfl⟩
  intro d r
  have hr : r = (.error (.write ⟨"/#a#"⟩), blocked (Utf8.encode "new") 1 3,
      edited "new" false 2) := save_blocked _ "new" 0 1 0
  rw [hr]
  refine ⟨rfl, rfl, hread, fun h => ?_⟩
  obtain ⟨-, hdirty, -⟩ := h.nothing _ rfl
  cases hdirty

end Buffer
end CodeDesk
