import CodeDesk.Proofs.Files.Locate
import Mathlib.Data.List.Basic
/-!
# Files that stay — what writing and removing leave of the disk

Writing a file makes no directory and no link, and leaves every file where
it is (`spares_write`), and what was written is read (`read_write`).
Removing one takes away the file that its path leads to, and no other
(`removeFile_spec`); its path leads to nothing then (`absent_of_removeFile`),
and what is left has the contents it had (`Left.read`). Where no directory
and no link was made, a path that leads to a file led there before, if the
file was there (`locate_of_within`).
-/

namespace CodeDesk
namespace Disk

variable {d d' d'' : Disk} {at_ loc : Location} {e : Entry} {p : Path} {bytes : Bytes}

/-! ## Entries -/

theorem find?_replaced {es : List (Location × Entry)} (hany : es.any (·.1 == at_) = true) :
    (es.map fun x => if x.1 == at_ then (at_, e) else x).find? (·.1 == at_) = some (at_, e) := by
  induction es with
  | nil => cases hany
  | cons x es ih =>
    rw [List.map_cons, List.find?_cons]
    by_cases hx : x.1 = at_
    · simp [hx]
    · have hxat : (x.1 == at_) = false := beq_false_of_ne hx
      rw [List.any_cons, hxat, Bool.false_or] at hany
      simp only [hxat, Bool.false_eq_true, if_false]
      exact ih hany

theorem find?_others {es : List (Location × Entry)} (hloc : loc ≠ at_) :
    (es.map fun x => if x.1 == at_ then (at_, e) else x).find? (·.1 == loc) =
      es.find? (·.1 == loc) := by
  induction es with
  | nil => rfl
  | cons x es ih =>
    rw [List.map_cons, List.find?_cons, List.find?_cons]
    by_cases hx : x.1 = at_
    · have hat : (at_ == loc) = false := beq_false_of_ne (Ne.symm hloc)
      simp only [hx, beq_self_eq_true, if_true, hat]
      exact ih
    · have hxat : (x.1 == at_) = false := beq_false_of_ne hx
      simp only [hxat, Bool.false_eq_true, if_false]
      rw [ih]

theorem entryAt?_put_self (hne : at_ ≠ []) (d : Disk) (e : Entry) :
    (d.put at_ e).entryAt? at_ = some e := by
  rw [entryAt?, if_neg hne, put]
  by_cases hany : d.entries.any (·.1 == at_) = true
  · rw [if_pos hany, find?_replaced hany]
    rfl
  · have hnone : d.entries.find? (·.1 == at_) = none :=
      List.find?_eq_none.2 fun x hx heq => hany (List.any_eq_true.2 ⟨x, hx, heq⟩)
    rw [if_neg hany, List.find?_append, hnone, Option.none_or, List.find?_singleton,
      if_pos (beq_self_eq_true at_)]
    rfl

theorem entryAt?_put_other (hloc : loc ≠ at_) (d : Disk) (e : Entry) :
    (d.put at_ e).entryAt? loc = d.entryAt? loc := by
  rw [entryAt?, entryAt?, put]
  by_cases hany : d.entries.any (·.1 == at_) = true
  · rw [if_pos hany, find?_others hloc]
  · have hlast : [(at_, e)].find? (·.1 == loc) = none := by
      rw [List.find?_singleton, if_neg fun heq => hloc (beq_iff_eq.1 heq).symm]
    rw [if_neg hany, List.find?_append, hlast, Option.or_none]

/-- What is put is at its place, and the rest is as it was. -/
theorem entryAt?_put (hne : at_ ≠ []) (d : Disk) (e : Entry) (loc : Location) :
    (d.put at_ e).entryAt? loc = if loc = at_ then some e else d.entryAt? loc := by
  split
  · next heq => rw [heq, entryAt?_put_self hne]
  · next hloc => rw [entryAt?_put_other hloc]

theorem entryAt?_drop (d : Disk) (at_ loc : Location) :
    (d.drop at_).entryAt? loc = if loc ≠ [] ∧ at_ <+: loc then none else d.entryAt? loc := by
  by_cases hroot : loc = []
  · rw [if_neg fun h => h.1 hroot, entryAt?, if_pos hroot, entryAt?, if_pos hroot]
  · rw [entryAt?, if_neg hroot, entryAt?, if_neg hroot, drop, List.find?_filter]
    by_cases hbelow : at_ <+: loc
    · rw [if_pos ⟨hroot, hbelow⟩, Option.map_eq_none_iff, List.find?_eq_none]
      intro x _ hx
      obtain ⟨houtside, hloc⟩ := of_decide_eq_true hx
      rw [beq_iff_eq.1 hloc, List.isPrefixOf_iff_prefix.2 hbelow] at houtside
      cases houtside
    · have hsame : (fun x : Location × Entry =>
          decide ((!at_.isPrefixOf x.1) = true ∧ (x.1 == loc) = true)) = fun x => x.1 == loc := by
        funext x
        refine Bool.eq_iff_iff.2 (decide_eq_true_iff.trans (and_iff_right_of_imp fun hloc => ?_))
        rw [beq_iff_eq.1 hloc, Bool.not_eq_true']
        exact Bool.eq_false_iff.2 fun hprefix =>
          hbelow (List.isPrefixOf_iff_prefix.1 hprefix)
      rw [if_neg fun h => hbelow h.2, hsame]

/-! ## Files -/

/-- A regular file at a location. -/
structure FileAt (d : Disk) (loc : Location) : Prop where
  /-- It is a regular file. -/
  isFile : ∃ e, d.entryAt? loc = some e ∧ e.isFile
  /-- It lies in directories. -/
  dirs : ∀ front back, loc = front ++ back → back ≠ [] → d.entryAt? front = some .dir

theorem FileAt.isFile_of (h : d.FileAt loc) (he : d.entryAt? loc = some e) : e.isFile := by
  obtain ⟨file, hfile, hisFile⟩ := h.isFile
  rw [he, Option.some.injEq] at hfile
  exact hfile ▸ hisFile

theorem FileAt.ne_nil (h : d.FileAt loc) : loc ≠ [] := by
  rintro rfl
  obtain ⟨e, he, hfile⟩ := h.isFile
  cases he
  cases hfile

/-- What is no directory has no file below it. -/
theorem FileAt.eq_of_prefix (h : d.FileAt loc) (hat : at_ <+: loc)
    (hdir : d.entryAt? at_ ≠ some .dir) : loc = at_ := by
  obtain ⟨back, rfl⟩ := hat
  by_cases hback : back = []
  · rw [hback, List.append_nil]
  · exact absurd (h.dirs at_ back rfl hback) hdir

/-- No directory and no link was made. -/
structure Within (d' d : Disk) : Prop where
  /-- What is a directory was one. -/
  dirs : ∀ loc, d'.entryAt? loc = some .dir → d.entryAt? loc = some .dir
  /-- What is a link was this link. -/
  links : ∀ loc target, d'.entryAt? loc = some (.link target) →
    d.entryAt? loc = some (.link target)
  /-- Relative paths start from where they did. -/
  cwd : d'.cwd = d.cwd

theorem Within.refl (d : Disk) : d.Within d := ⟨fun _ h => h, fun _ _ h => h, rfl⟩

theorem Within.trans (h' : d''.Within d') (h : d'.Within d) : d''.Within d :=
  ⟨fun loc hdir => h.dirs loc (h'.dirs loc hdir),
    fun loc target hlink => h.links loc target (h'.links loc target hlink),
    h'.cwd.trans h.cwd⟩

/-- No directory and no link was made, and no file taken away. -/
structure Spares (d d' : Disk) : Prop where
  /-- No directory and no link was made. -/
  within : d'.Within d
  /-- Every file is still there. -/
  files : ∀ loc, d.FileAt loc → d'.FileAt loc

theorem Spares.refl (d : Disk) : d.Spares d := ⟨.refl d, fun _ h => h⟩

theorem Spares.of_eq (h : d' = d) : d.Spares d' := h ▸ .refl d

theorem Spares.trans (h : d.Spares d') (h' : d'.Spares d'') : d.Spares d'' :=
  ⟨h'.within.trans h.within, fun loc hloc => h'.files loc (h.files loc hloc)⟩

/-- The clock does not matter. -/
theorem Spares.of_entries (hentries : d'.entries = d.entries) (hcwd : d'.cwd = d.cwd) :
    d.Spares d' := by
  have hsame : ∀ loc, d'.entryAt? loc = d.entryAt? loc := by
    intro loc
    rw [entryAt?, entryAt?, hentries]
  refine ⟨⟨fun loc h => hsame loc ▸ h, fun loc _ h => hsame loc ▸ h, hcwd⟩, fun loc h => ?_⟩
  refine ⟨?_, fun front back hsplit hback => (hsame front).trans (h.dirs front back hsplit hback)⟩
  rw [hsame]
  exact h.isFile

theorem spares_tick (d : Disk) : d.Spares d.tick.2 := .of_entries rfl rfl

theorem cwd_put (d : Disk) (at_ : Location) (e : Entry) : (d.put at_ e).cwd = d.cwd := by
  rw [put]
  split <;> rfl

/-- Putting a file where there is none, or another one, leaves the rest. -/
theorem spares_put (he : e.isFile) (hold : ∀ old, d.entryAt? at_ = some old → old.isFile) :
    d.Spares (d.put at_ e) := by
  have hne : at_ ≠ [] := by
    rintro rfl
    exact absurd (hold .dir rfl) Bool.false_ne_true
  have hnotDir : d.entryAt? at_ ≠ some .dir := fun hdir =>
    absurd (hold .dir hdir) Bool.false_ne_true
  refine ⟨⟨fun loc h => ?_, fun loc target h => ?_, d.cwd_put at_ e⟩, fun loc h => ?_⟩
  · rw [entryAt?_put hne] at h
    split at h
    · cases h
      cases he
    · exact h
  · rw [entryAt?_put hne] at h
    split at h
    · cases h
      cases he
    · exact h
  · refine ⟨?_, fun front back hsplit hback => ?_⟩
    · rw [entryAt?_put hne]
      split
      · exact ⟨e, rfl, he⟩
      · exact h.isFile
    · have hdir := h.dirs front back hsplit hback
      have hother : front ≠ at_ := by
        rintro rfl
        exact hnotDir hdir
      rw [entryAt?_put hne, if_neg hother]
      exact hdir

/-- A write puts a file where its path leads, in the place of a file or of
nothing. -/
theorem write_inv (h : d.write p bytes = .ok d') :
    ∃ loc mode, d.locate true p = .ok loc ∧ (∀ old, d.entryAt? loc = some old → old.isFile) ∧
      d' = d.tick.2.put loc (.file bytes d.tick.1 mode) := by
  rw [write] at h
  split at h
  · split at h <;> cases h
  · cases h
  · next loc hlocate =>
    split at h
    · next hnone =>
      cases h
      refine ⟨loc, plainMode, hlocate, fun old hold => ?_, rfl⟩
      rw [hnone] at hold
      cases hold
    · next b t mode hfile =>
      cases h
      refine ⟨loc, mode, hlocate, fun old hold => ?_, rfl⟩
      rw [hfile] at hold
      cases hold
      rfl
    · cases h

/-- **Writing a file** makes no directory and no link, and takes no file
away. -/
theorem spares_write (h : d.write p bytes = .ok d') : d.Spares d' := by
  obtain ⟨loc, mode, -, hold, rfl⟩ := write_inv h
  exact d.spares_tick.trans (spares_put rfl hold)

/-- **Removing a file** makes no directory and no link, and takes no file
away but the one that the path leads to. -/
theorem removeFile_spec (h : d.removeFile p = .ok d') :
    d'.Within d ∧ ∀ loc, d.FileAt loc → d'.FileAt loc ∨ d.locate false p = .ok loc := by
  rw [removeFile] at h
  split at h
  · cases h
  · next at_ hlocate =>
    have hdrop : ∀ {e : Entry}, d.entryAt? at_ = some e → e.isDir = false →
        (d.drop at_).Within d ∧ ∀ loc, d.FileAt loc →
          (d.drop at_).FileAt loc ∨ d.locate false p = .ok loc := by
      intro e he hdir
      have hnotDir : d.entryAt? at_ ≠ some .dir := by
        intro hdir'
        rw [he, Option.some.injEq] at hdir'
        rw [hdir'] at hdir
        cases hdir
      have hkept : ∀ loc e', (d.drop at_).entryAt? loc = some e' → d.entryAt? loc = some e' := by
        intro loc e' he'
        rw [entryAt?_drop] at he'
        split at he'
        · cases he'
        · exact he'
      refine ⟨⟨fun loc => hkept loc _, fun loc target => hkept loc _, rfl⟩, fun loc hloc => ?_⟩
      by_cases heq : loc = at_
      · exact .inr (heq ▸ hlocate)
      · -- Neither the file nor a directory it lies in is below what was removed.
        have houtside : ∀ front, front <+: loc → ¬ at_ <+: front := by
          intro front hfront hat
          exact heq (hloc.eq_of_prefix (hat.trans hfront) hnotDir)
        refine .inl ⟨?_, fun front back hsplit hback => ?_⟩
        · rw [entryAt?_drop, if_neg fun h => houtside loc (List.prefix_refl loc) h.2]
          exact hloc.isFile
        · rw [entryAt?_drop, if_neg fun h => houtside front ⟨back, hsplit.symm⟩ h.2]
          exact hloc.dirs front back hsplit hback
    split at h
    · cases h
    · cases h
    · next e hnotDir he =>
      cases h
      refine hdrop he ?_
      cases e with
      | dir => exact absurd rfl hnotDir
      | _ => rfl

/-- A file can be written. -/
theorem exists_write (hlocate : d.locate true p = .ok loc) (hfile : d.FileAt loc) (bytes : Bytes) :
    ∃ d', d.write p bytes = .ok d' := by
  obtain ⟨e, he, hisFile⟩ := hfile.isFile
  cases e with
  | file b t mode =>
    refine ⟨d.tick.2.put loc (.file bytes d.tick.1 mode), ?_⟩
    rw [write, hlocate]
    dsimp only
    rw [he]
  | _ => cases hisFile

/-- A file can be removed, and is gone then. -/
theorem exists_removeFile (hlocate : d.locate false p = .ok loc) (hfile : d.FileAt loc) :
    ∃ d', d.removeFile p = .ok d' ∧ ¬ d'.FileAt loc := by
  obtain ⟨e, he, hisFile⟩ := hfile.isFile
  cases e with
  | file b t mode =>
    refine ⟨d.drop loc, ?_, fun hstays => ?_⟩
    · rw [removeFile, hlocate]
      dsimp only
      rw [he]
    · obtain ⟨e, he, -⟩ := hstays.isFile
      rw [entryAt?_drop, if_pos ⟨hfile.ne_nil, List.prefix_refl loc⟩] at he
      cases he
  | _ => cases hisFile

/-! ## Paths to files -/

/-- **A trail to a file**, or to where there is nothing yet, is one on a disk
that has its directories and links, and a file there. -/
theorem Trail.of_within {links : Nat} {segs : List String} {follow follow' : Bool}
    (hwithin : d'.Within d) (h : d'.Trail follow' links at_ segs loc)
    (hfile' : ∀ e, d'.entryAt? loc = some e → e.isFile)
    (hfile : ∃ e, d.entryAt? loc = some e ∧ e.isFile) (hfollow : follow' = true → follow = true) :
    d.Trail follow links at_ segs loc := by
  induction h with
  | done => exact .done
  | stay hdir hidle _ ih => exact .stay (hwithin.dirs _ hdir) hidle (ih hfile' hfile)
  | up hdir _ ih => exact .up (hwithin.dirs _ hdir) (ih hfile' hfile)
  | fresh hdir hname _ =>
    obtain ⟨old, hold, holdFile⟩ := hfile
    refine .enter (hwithin.dirs _ hdir) hname hold (fun target heq => ?_) .done
    rw [heq] at holdFile
    cases holdFile
  | atLink _ _ hlink _ => exact absurd (hfile' _ hlink) Bool.false_ne_true
  | hop hdir hname hlink hlast _ ih =>
    exact .hop (hwithin.dirs _ hdir) hname (hwithin.links _ _ hlink)
      (fun hrest => hfollow (hlast hrest)) (ih hfile' hfile)
  | @enter links at_ loc seg rest e hdir hname hentry hnolink htail ih =>
    cases e with
    | dir =>
      exact .enter (hwithin.dirs _ hdir) hname (hwithin.dirs _ hentry) hnolink (ih hfile' hfile)
    | link target => exact absurd rfl (hnolink target)
    | file b t m =>
      -- A file has nothing below it, so this is the end.
      have hend : rest = [] ∧ loc = at_ ++ [seg] := by
        cases htail with
        | done => exact ⟨rfl, rfl⟩
        | _ => simp_all
      obtain ⟨rfl, rfl⟩ := hend
      obtain ⟨old, hold, holdFile⟩ := hfile
      refine .enter (hwithin.dirs _ hdir) hname hold (fun target heq => ?_) .done
      rw [heq] at holdFile
      cases holdFile

/-- **A path to a file** led there before, if no directory and no link was
made since and the file was there. -/
theorem locate_of_within (hwithin : d'.Within d) (h : d'.locate false p = .ok loc)
    (hfile' : d'.FileAt loc) (hfile : d.FileAt loc) (follow : Bool) :
    d.locate follow p = .ok loc := by
  obtain ⟨hwritten, htrail⟩ := locate_eq_ok.1 h
  rw [hwithin.cwd] at htrail
  exact locate_eq_ok.2 ⟨hwritten, htrail.of_within hwithin (fun e => hfile'.isFile_of) hfile.isFile
    fun h => absurd h Bool.false_ne_true⟩

theorem isFile_of_fileAt (h : d.locate true p = .ok loc) (hfile : d.FileAt loc) :
    d.isFile p = true := by
  obtain ⟨e, he, hisFile⟩ := hfile.isFile
  simp only [isFile, entry, h, he, hisFile]

/-! ## What is read -/

theorem entry_eq_ok {follow : Bool} :
    d.entry follow p = .ok e ↔ ∃ loc, d.locate follow p = .ok loc ∧ d.entryAt? loc = some e := by
  rw [entry]
  cases hlocate : d.locate follow p with
  | error error => simp
  | ok loc => cases hentry : d.entryAt? loc <;> simp [hentry]

theorem read_eq_ok : d.read p = .ok bytes ↔
    ∃ loc t mode, d.locate true p = .ok loc ∧ d.entryAt? loc = some (.file bytes t mode) := by
  rw [read]
  constructor
  · intro h
    cases hentry : d.entry true p with
    | error e =>
      rw [hentry] at h
      cases h
    | ok e =>
      rw [hentry] at h
      cases e with
      | file b t mode =>
        cases h
        obtain ⟨loc, hlocate, hat⟩ := entry_eq_ok.1 hentry
        exact ⟨loc, t, mode, hlocate, hat⟩
      | _ => cases h
  · rintro ⟨loc, t, mode, hlocate, hat⟩
    rw [entry_eq_ok.2 ⟨loc, hlocate, hat⟩]

/-- A path leads to a file exactly if the file can be read. -/
theorem isFile_iff : d.isFile p = true ↔ ∃ bytes, d.read p = .ok bytes := by
  rw [isFile, read]
  cases d.entry true p with
  | error e => simp
  | ok e => cases e <;> simp [Entry.isFile]

/-- **What was written is read.** -/
theorem read_write (h : d.write p bytes = .ok d') : d'.read p = .ok bytes := by
  obtain ⟨loc, mode, hlocate, hold, hput⟩ := write_inv h
  have hne : loc ≠ [] := by
    rintro rfl
    exact absurd (hold .dir rfl) Bool.false_ne_true
  have hat : ∀ loc', d'.entryAt? loc' =
      if loc' = loc then some (.file bytes d.tick.1 mode) else d.entryAt? loc' := by
    intro loc'
    rw [hput, entryAt?_put hne]
    rfl
  have hnew : d'.entryAt? loc = some (.file bytes d.tick.1 mode) := by rw [hat, if_pos rfl]
  -- the file is the only entry that changed, and there was no directory and no link
  have hkept : ∀ {loc' e}, d.entryAt? loc' = some e → e.isFile = false →
      d'.entryAt? loc' = some e := by
    intro loc' e he hother
    have hloc : loc' ≠ loc := by
      rintro rfl
      exact absurd (hold e he) (by rw [hother]; exact Bool.false_ne_true)
    rw [hat, if_neg hloc, he]
  have hwithin : d.Within d' := by
    refine ⟨fun loc' hdir => hkept hdir rfl, fun loc' target hlink => hkept hlink rfl, ?_⟩
    rw [hput, cwd_put]
    rfl
  obtain ⟨hwritten, htrail⟩ := locate_eq_ok.1 hlocate
  rw [hwithin.cwd] at htrail
  have htrail' := htrail.of_within hwithin hold ⟨_, hnew, rfl⟩ id
  exact read_eq_ok.2 ⟨loc, d.tick.1, mode, locate_eq_ok.2 ⟨hwritten, htrail'⟩, hnew⟩

/-- What is left of the disk is as it was. -/
structure Left (d' d : Disk) : Prop where
  /-- Every entry was there. -/
  entries : ∀ loc e, d'.entryAt? loc = some e → d.entryAt? loc = some e
  /-- Relative paths start from where they did. -/
  cwd : d'.cwd = d.cwd

theorem Left.of_entries (hentries : d'.entries = d.entries) (hcwd : d'.cwd = d.cwd) :
    d'.Left d := by
  refine ⟨fun loc e he => ?_, hcwd⟩
  rw [entryAt?, hentries] at he
  exact he

theorem left_removeFile (h : d.removeFile p = .ok d') : d'.Left d := by
  rw [removeFile] at h
  split at h
  · cases h
  split at h
  · cases h
  · cases h
  · cases h
    refine ⟨fun loc e he => ?_, rfl⟩
    rw [entryAt?_drop] at he
    split at he
    · cases he
    · exact he

/-- A trail to what is left is one to what was there. -/
theorem Trail.of_left {links : Nat} {segs : List String} {follow : Bool} (hleft : d'.Left d)
    (h : d'.Trail follow links at_ segs loc) (he : d'.entryAt? loc = some e) :
    d.Trail follow links at_ segs loc := by
  induction h with
  | done => exact .done
  | stay hdir hidle _ ih => exact .stay (hleft.entries _ _ hdir) hidle (ih he)
  | up hdir _ ih => exact .up (hleft.entries _ _ hdir) (ih he)
  | fresh _ _ hnone =>
    rw [hnone] at he
    cases he
  | atLink hdir hname hlink hfollow =>
    exact .atLink (hleft.entries _ _ hdir) hname (hleft.entries _ _ hlink) hfollow
  | hop hdir hname hlink hlast _ ih =>
    exact .hop (hleft.entries _ _ hdir) hname (hleft.entries _ _ hlink) hlast (ih he)
  | enter hdir hname hentry hnolink _ ih =>
    exact .enter (hleft.entries _ _ hdir) hname (hleft.entries _ _ hentry) hnolink (ih he)

theorem Left.locate {follow : Bool} (h : d'.Left d) (hlocate : d'.locate follow p = .ok loc)
    (he : d'.entryAt? loc = some e) : d.locate follow p = .ok loc := by
  obtain ⟨hwritten, htrail⟩ := locate_eq_ok.1 hlocate
  rw [h.cwd] at htrail
  exact locate_eq_ok.2 ⟨hwritten, htrail.of_left h he⟩

/-- **A file that is left** has the contents it had. -/
theorem Left.read (h : d'.Left d) (hfile : d'.isFile p = true) : d'.read p = d.read p := by
  obtain ⟨bytes, hread⟩ := isFile_iff.1 hfile
  obtain ⟨loc, t, mode, hlocate, hentry⟩ := read_eq_ok.1 hread
  have hread' : d.read p = .ok bytes :=
    read_eq_ok.2 ⟨loc, t, mode, h.locate hlocate hentry, h.entries loc _ hentry⟩
  rw [hread, hread']

theorem Left.refl (d : Disk) : d.Left d := .of_entries rfl rfl

theorem Left.trans (h : d''.Left d') (h' : d'.Left d) : d''.Left d :=
  ⟨fun loc e he => h'.entries loc e (h.entries loc e he), h.cwd.trans h'.cwd⟩

/-! ## Making directories -/

/-- What is put where nothing was leaves the rest. -/
theorem left_put (hnone : d.entryAt? at_ = none) (e : Entry) : d.Left (d.put at_ e) := by
  have hne : at_ ≠ [] := by
    rintro rfl
    cases hnone
  refine ⟨fun loc old hold => ?_, (d.cwd_put at_ e).symm⟩
  have hloc : loc ≠ at_ := by
    rintro rfl
    cases hnone.symm.trans hold
  rw [entryAt?_put hne, if_neg hloc, hold]

theorem left_createDir (h : d.createDir p = .ok d') : d.Left d' := by
  rw [createDir] at h
  split at h
  · split at h <;> cases h
  · split at h
    · next hnone =>
      cases h
      exact left_put hnone .dir
    · cases h

theorem left_createDirsFrom {fuel : Nat} (h : d.createDirsFrom fuel p = .ok d') : d.Left d' := by
  have hthere : ∀ {d d' : Disk} {p : Path} {e : FileError},
      (if d.isDir p then .ok d else .error e) = Except.ok d' → d.Left d' := fun h => by
    split at h
    · cases h
      exact .refl _
    · cases h
  induction fuel generalizing p d d' with
  | zero => cases h
  | succ fuel ih =>
    rw [createDirsFrom] at h
    split at h
    · cases h
      exact .refl d
    · split at h
      · next hcreate =>
        cases h
        exact left_createDir hcreate
      · split at h
        · cases h
        · split at h
          · cases h
          · next above habove =>
            refine (ih habove).trans ?_
            split at h
            · next hcreate =>
              cases h
              exact left_createDir hcreate
            · exact hthere h
      · exact hthere h

/-- **Making directories leaves what is there.** -/
theorem left_createDirs (h : d.createDirs p = .ok d') : d.Left d' := left_createDirsFrom h

/-! ## What is not there -/

/-- A path leads to nothing, not even to a link. -/
def Absent (d : Disk) (p : Path) : Prop := ∀ e, d.entry false p ≠ .ok e

/-- **What was removed is not there.** -/
theorem absent_of_removeFile (h : d.removeFile p = .ok d') : d'.Absent p := by
  have hleft := left_removeFile h
  intro e he
  obtain ⟨loc, hlocate, hentry⟩ := entry_eq_ok.1 he
  rw [removeFile, hleft.locate hlocate hentry] at h
  dsimp only at h
  split at h
  · cases h
  · cases h
  · next hnotDir hold =>
    cases h
    have hne : loc ≠ [] := by
      rintro rfl
      exact hnotDir (Option.some.inj hold.symm)
    rw [entryAt?_drop, if_pos ⟨hne, List.prefix_refl loc⟩] at hentry
    cases hentry

/-- Nor is what cannot be removed because it is missing. -/
theorem absent_of_removeFile_missing (h : d.removeFile p = .error .missing) : d.Absent p := by
  intro e he
  obtain ⟨loc, hlocate, hentry⟩ := entry_eq_ok.1 he
  rw [removeFile, hlocate] at h
  dsimp only at h
  rw [hentry] at h
  cases e <;> cases h

/-! ## A disk with one file -/

/-- A disk with one file. -/
def oneFile (bytes : Bytes) (changed clock : Stamp) : Disk :=
  ⟨[(["a"], .file bytes changed plainMode)], clock, []⟩

theorem entry_oneFile (bytes : Bytes) (changed clock : Stamp) :
    (oneFile bytes changed clock).entry true ⟨"/a"⟩ = .ok (.file bytes changed plainMode) :=
  entry_inRoot "a" (by decide +kernel) rfl rfl

theorem read_oneFile (bytes : Bytes) (changed clock : Stamp) :
    (oneFile bytes changed clock).read ⟨"/a"⟩ = .ok bytes := by
  rw [read, entry_oneFile]

end Disk
end CodeDesk
