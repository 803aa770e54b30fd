import CodeDesk.Proofs.Settings.Faithful
/-!
# State files — the value and its document in step

A state file is a value together with its document on the disk, and reading
the document should give the value at every time (`Kept.InStep`). The calls of
the file system may fail at any point, whatever the disk allows, so the
operations are looked at here on calls that do (`Mishap`).

A new state file is in step, and reading it again leaves it so. Writing has two
gaps. An update changes the value first and keeps the change when nothing can
be written; and the file is emptied before the text is written, piece by
piece, so that a write that is cut short leaves a document that is not read at
all. `Kept.inStep_iff` says that nothing else gets them out of step.
-/

namespace CodeDesk
namespace Settings

variable {α : Type} [Stored α]

/-! ## What is written -/

section

variable {m : Mishap} {d d' : Disk} {p : Path} {a : α} {w : Written}

theorem Mishap.kept_prefix (m : Mishap) (bytes : Bytes) : m.kept bytes <+: bytes := by
  cases m with
  | writing room => exact List.take_prefix room bytes
  | _ => exact List.prefix_refl bytes

theorem left_readyBy (h : readyBy m d p = some d') : d.Left d' := by
  rw [readyBy] at h
  split at h
  · split at h
    · cases h
    · next dir _ _ =>
      cases hdirs : d.createDirs dir with
      | error e => rw [hdirs] at h; cases h
      | ok d₁ =>
        rw [hdirs] at h
        cases h
        exact Disk.left_createDirs hdirs
  · cases h
    exact .refl d

/-- What a document that is written leaves: the entries there were, or what
was written of it. -/
theorem storeBy_cases (h : storeBy m d p a = (w, d')) :
    w = .nothing ∧ d.Left d' ∨
    w = .part ∧ (∃ front, d'.read p = .ok front ∧ front <+: Utf8.encode (textOf a) ∧
      front ≠ Utf8.encode (textOf a)) ∨
    w = .whole ∧ d'.read p = .ok (Utf8.encode (textOf a)) := by
  rw [storeBy] at h
  split at h
  · cases h
    exact .inl ⟨rfl, .refl d⟩
  · next d₁ hready =>
    have hleft := left_readyBy hready
    rw [writeBy] at h
    split at h
    · cases h
      exact .inl ⟨rfl, hleft⟩
    · split at h
      · cases h
        exact .inl ⟨rfl, hleft⟩
      · next d₂ hwrite =>
        have hread := Disk.read_write hwrite
        split at h
        · next hkept =>
          cases h
          exact .inr (.inr ⟨rfl, hkept ▸ hread⟩)
        · next hkept =>
          cases h
          exact .inr (.inl ⟨rfl, _, hread, m.kept_prefix _, hkept⟩)

end

/-- A value `a` that is to be written in the place of `b` parts from its
document: a part of it is written, or nothing is, and it is not the value that
is there. -/
def PartsFrom (m : Mishap) (d : Disk) (p : Path) (b a : α) : Prop :=
  (storeBy m d p a).1 = .part ∨ (storeBy m d p a).1 = .nothing ∧ a ≠ b

variable [Faithful α]

/-- **A value that was to be written is the value of its document** exactly if
it does not part from it. -/
theorem load?_storeBy_iff {d : Disk} {p : Path} {a b : α} (hb : load? d p = some b)
    (ha : Faithful.Lawful a) (m : Mishap) :
    load? (storeBy m d p a).2 p = some a ↔ ¬ PartsFrom m d p b a := by
  unfold PartsFrom
  cases h : storeBy m d p a with
  | mk w d' =>
    obtain ⟨rfl, hleft⟩ | ⟨rfl, front, hread, hfront, hne⟩ | ⟨rfl, hread⟩ := storeBy_cases h
    · simp [load?_of_left hleft hb, eq_comm]
    · simp [load?_of_read_part ha hread hfront hne]
    · simp [load?_of_read ha hread]

/-! ## Calls -/

/-- A way to change a value. -/
structure Change (α : Type) [Stored α] [Faithful α] where
  /-- The value afterwards. -/
  run : α → α
  lawful : ∀ {a}, Faithful.Lawful a → Faithful.Lawful (run a)

/-- A call on a state file, with what goes wrong in it. -/
inductive Call (α : Type) [Stored α] [Faithful α] where
  /-- Change the value and write it. -/
  | update (change : Change α) (m : Mishap)
  /-- Write the value. -/
  | save (m : Mishap)
  /-- Read the document again, if it can be read. -/
  | load (readable : Bool)

/-- A state file, as long as there is one, and the disk. -/
structure Kept (α : Type) where
  /-- The state file. It is given up when its document is not read. -/
  file? : Option (StateFile α)
  /-- The disk. -/
  disk : Disk

namespace Kept

/-- A state file that is opened. -/
def opened (m : Mishap) (readable : Bool) (d : Disk) (p : Path) : Kept α :=
  let r := StateFile.openBy m readable d p
  ⟨r.1.toOption, r.2⟩

/-- What a call leaves. -/
def call (k : Kept α) (c : Call α) : Kept α :=
  match k.file? with
  | none => k
  | some f =>
    match c with
    | .update change m =>
      let (_, f, d) := f.updateBy m k.disk fun a => ((), change.run a)
      ⟨some f, d⟩
    | .save m => ⟨some f, (f.saveBy m k.disk).2⟩
    | .load readable => ⟨(f.loadBy readable k.disk).toOption, k.disk⟩

/-- What calls leave, one after the other. -/
def after (k : Kept α) (calls : List (Call α)) : Kept α := calls.foldl call k

/-- Reading the document gives the value. -/
def InStep (k : Kept α) : Prop := ∀ f, k.file? = some f → load? k.disk f.path = some f.current

/-- The value and its document are in step at every time. -/
def StaysInStep (k : Kept α) (calls : List (Call α)) : Prop :=
  ∀ before, before <+: calls → (k.after before).InStep

end Kept

/-- A call that gets the value and its document out of step. -/
def Call.Parts (k : Kept α) : Call α → Prop
  | .update change m =>
    ∃ f, k.file? = some f ∧ PartsFrom m k.disk f.path f.current (change.run f.current)
  | .save m => ∃ f, k.file? = some f ∧ (storeBy m k.disk f.path f.current).1 = .part
  | .load _ => False

namespace Kept

/-- Some call gets the value and its document out of step. -/
def Parted (k : Kept α) (calls : List (Call α)) : Prop :=
  ∃ before c behind, calls = before ++ c :: behind ∧ c.Parts (k.after before)

/-- **A new state file** is in step with its document. -/
theorem inStep_opened (m : Mishap) (readable : Bool) (d : Disk) (p : Path) :
    (opened (α := α) m readable d p).InStep := by
  unfold opened StateFile.openBy
  cases hread : (if readable then load? (α := α) d p else none) with
  | some a =>
    rintro f ⟨⟩
    cases readable with
    | true => exact hread
    | false => cases hread
  | none =>
    dsimp only
    cases h : storeBy m d p (Stored.standard : α) with
    | mk w d' =>
      obtain ⟨rfl, -⟩ | ⟨rfl, -⟩ | ⟨rfl, hwritten⟩ := storeBy_cases h
      · rintro f ⟨⟩
      · rintro f ⟨⟩
      · rintro f ⟨⟩
        exact load?_of_read Faithful.lawful_standard hwritten

variable {k : Kept α}

/-- **One call** leaves the value and its document in step exactly if it does
not part them. -/
theorem inStep_call_iff (h : k.InStep) (c : Call α) : (k.call c).InStep ↔ ¬ c.Parts k := by
  obtain ⟨file?, d⟩ := k
  cases file? with
  | none =>
    refine iff_of_true (fun f hf => nomatch hf) ?_
    cases c with
    | load readable => exact id
    | _ => rintro ⟨f, hf, -⟩; cases hf
  | some f =>
    have hf : load? d f.path = some f.current := h f rfl
    -- What was read is lawful, and so is what a change makes of it.
    have hlawful := lawful_of_load? hf
    cases c with
    | update change m =>
      simp only [call, InStep, Call.Parts, StateFile.updateBy, StateFile.saveBy,
        Option.some.injEq, forall_eq',
        exists_eq_left']
      exact load?_storeBy_iff hf (change.lawful hlawful) m
    | save m =>
      simp only [call, InStep, Call.Parts, StateFile.saveBy, Option.some.injEq, forall_eq',
        exists_eq_left']
      simpa [PartsFrom] using load?_storeBy_iff hf hlawful m
    | load readable =>
      refine iff_of_true (fun f' hf' => ?_) id
      cases readable with
      | false => cases hf'
      | true =>
        dsimp only [call] at hf'
        rw [StateFile.loadBy, if_pos rfl, hf] at hf'
        cases hf'
        exact hf

theorem staysInStep_cons_iff {c : Call α} {calls : List (Call α)} :
    k.StaysInStep (c :: calls) ↔ k.InStep ∧ (k.call c).StaysInStep calls := by
  constructor
  · intro h
    exact ⟨h [] List.nil_prefix, fun before hbefore =>
      h (c :: before) (List.cons_prefix_cons.2 ⟨rfl, hbefore⟩)⟩
  · rintro ⟨hk, h⟩ before hbefore
    cases before with
    | nil => exact hk
    | cons c' before =>
      obtain ⟨rfl, hrest⟩ := List.cons_prefix_cons.1 hbefore
      exact h before hrest

theorem parted_cons_iff {c : Call α} {calls : List (Call α)} :
    k.Parted (c :: calls) ↔ c.Parts k ∨ (k.call c).Parted calls := by
  constructor
  · rintro ⟨before, c', behind, hcalls, hparts⟩
    cases before with
    | nil =>
      obtain ⟨rfl, -⟩ := List.cons.inj hcalls
      exact .inl hparts
    | cons c'' before =>
      obtain ⟨rfl, hrest⟩ := List.cons.inj hcalls
      exact .inr ⟨before, c', behind, hrest, hparts⟩
  · rintro (hparts | ⟨before, c', behind, rfl, hparts⟩)
    · exact ⟨[], c, calls, rfl, hparts⟩
    · exact ⟨c :: before, c', behind, rfl, hparts⟩

/-- **Calls** leave the value and its document in step at every time exactly if
none of them parts them. -/
theorem staysInStep_iff (h : k.InStep) (calls : List (Call α)) :
    k.StaysInStep calls ↔ ¬ k.Parted calls := by
  induction calls generalizing k with
  | nil =>
    refine iff_of_true (fun before hbefore => ?_) ?_
    · rw [List.prefix_nil.1 hbefore]
      exact h
    · rintro ⟨before, c, behind, hcalls, -⟩
      exact absurd hcalls.symm (by simp)
  | cons c calls ih =>
    rw [staysInStep_cons_iff, parted_cons_iff, and_iff_right h]
    by_cases hparts : c.Parts k
    · refine iff_of_false (fun hstays => ?_) fun hnot => hnot (.inl hparts)
      exact (inStep_call_iff h c).1 (hstays [] List.nil_prefix) hparts
    · rw [or_iff_right hparts]
      exact ih ((inStep_call_iff h c).2 hparts)

/-- **Memory and disk stay in step**, for recent paths and for the options of
languages, whatever is called and whatever goes wrong in it, exactly if no
update comes to nothing after it changed the value, and no document is written
in part. Where nothing goes wrong, the calls are those on state files. -/
theorem inStep_iff (m : Mishap) (readable : Bool) (d : Disk) (p : Path) :
    (∀ calls : List (Call Recent),
      (opened m readable d p).StaysInStep calls ↔ ¬ (opened m readable d p).Parted calls) ∧
    (∀ calls : List (Call LanguageOptions),
      (opened m readable d p).StaysInStep calls ↔ ¬ (opened m readable d p).Parted calls) ∧
    ∀ {α β : Type} [Stored α] (f : StateFile α) (change : α → β × α),
      StateFile.openBy (α := α) .calm true d p = StateFile.openAt d p ∧
      f.updateBy .calm d change = f.update d change ∧
      f.saveBy .calm d = f.save d ∧ f.loadBy true d = f.load d :=
  ⟨staysInStep_iff (inStep_opened m readable d p), staysInStep_iff (inStep_opened m readable d p),
    fun _ _ => ⟨rfl, rfl, rfl, rfl⟩⟩

/-! ## An update that comes to nothing -/

/-- A disk with the document of no paths. -/
def unused : Disk :=
  ⟨[(["s"], .file (Utf8.encode (textOf (Stored.standard : Recent))) 0 Disk.plainMode)], 1, []⟩

theorem read_unused :
    unused.read ⟨"/s"⟩ = .ok (Utf8.encode (textOf (Stored.standard : Recent))) := by
  have hlocate : unused.locate true ⟨"/s"⟩ = .ok ["s"] :=
    Disk.locate_inRoot (by decide +kernel) fun _ _ h => nomatch h
  rw [Disk.read, Disk.entry, hlocate]
  rfl

/-- Use a path. -/
def use (p : Path) : Change Recent := ⟨fun r => r.add p, id⟩

/-- **A path that was used and could not be written** is there until the
document is read again. -/
theorem not_inStep_unwritten :
    ¬ (opened .calm true unused ⟨"/s"⟩).StaysInStep [.update (use ⟨"/b"⟩) .directories] := by
  have hload : load? unused ⟨"/s"⟩ = some (Stored.standard : Recent) :=
    load?_of_read Faithful.lawful_standard read_unused
  have hopened : opened .calm true unused ⟨"/s"⟩ =
      ⟨some ⟨⟨"/s"⟩, (Stored.standard : Recent)⟩, unused⟩ := by
    rw [opened, StateFile.openBy, if_pos rfl, hload]
    rfl
  have hstore : ∀ r : Recent, storeBy .directories unused ⟨"/s"⟩ r = (.nothing, unused) := by
    intro r
    have hparent : Path.parent? ⟨"/s"⟩ = some ⟨"/"⟩ := by decide +kernel
    rw [storeBy, readyBy, hparent]
    rfl
  rw [staysInStep_iff (inStep_opened _ _ _ _), not_not, hopened]
  refine ⟨[], _, [], rfl, _, rfl, .inr ⟨?_, ?_⟩⟩
  · exact congrArg Prod.fst (hstore _)
  · intro heq
    exact absurd (congrArg (fun r : Recent => r.paths.length) heq) (by decide +kernel)

end Kept
end Settings
end CodeDesk
