import CodeDesk.Proofs.Desk.Session
import CodeDesk.Proofs.Document.Recency
/-!
# Saving everything — and going on only if nothing is lost

Wherever documents are open, they are saved in the same way: those with
unsaved changes in the order of the list, up to the first failure, and after
each that is saved its hook is run (`Saver`). `saveAll_handled` says what
comes of that, whichever saves fail, and when one goes on afterwards: not
unless everything was saved, nothing had to be, or the user gave it up.

A desk and its plain list of documents are two such places
(`Saver.ofDesk`, `Saver.plain`).
-/

namespace CodeDesk

open OpenList (AllSaved turns)

/-- A place with open documents: how they are saved, and what is done after
each of them. Saving one leaves the others alone and makes it one without
unsaved changes if it succeeds, and what is done afterwards leaves all of
them alone. -/
structure Saver (σ : Type) where
  /-- The documents of the place. -/
  documents : σ → Documents
  /-- Drop the buffers that were closed from the list. -/
  drop : σ → σ
  /-- Save a buffer. -/
  save : BufferId → σ → Except DocumentError Unit × σ
  /-- Do what is done after a buffer was saved. -/
  after : BufferId → σ → σ
  documents_drop : ∀ x, documents (drop x) = (documents x).purge
  drop_drop : ∀ x, drop (drop x) = drop x
  list_save : ∀ id x, (documents (save id x).2).list = (documents x).list
  buffer?_save : ∀ id j x, j ≠ id →
    (documents (save id x).2).store.buffer? j = (documents x).store.buffer? j
  isDirty_save : ∀ id x, (save id x).1 = .ok () →
    (documents (save id x).2).store.isDirty id = false
  list_after : ∀ id x, (documents (after id x)).list = (documents x).list
  buffer?_after : ∀ id j x,
    (documents (after id x)).store.buffer? j = (documents x).store.buffer? j

namespace Saver

variable {σ : Type} {S : Saver σ} {ids : List BufferId} {id j : BufferId} {x : σ}

/-- How many documents have unsaved changes. -/
def changed (S : Saver σ) (x : σ) : Nat × σ := ((S.documents x).changed.1, S.drop x)

/-- Save every document with unsaved changes. -/
def saveAll (S : Saver σ) (x : σ) : Except DocumentError Nat × List BufferId × σ :=
  let (r, saved, y) := OpenList.saveEach S.save S.after (S.documents x).dirty.1 (S.drop x)
  (r.map fun _ => saved.length, saved, y)

/-- Deal with unsaved changes before going on. -/
def check (S : Saver σ) (canCancel : Bool) (choice : SaveChoice) (x : σ) : SaveCheck × σ :=
  Documents.checkUnsaved S.changed S.saveAll canCancel choice x

/-- The documents that are open and have unsaved changes, those that were used
last in front. -/
def unsaved (S : Saver σ) (x : σ) : List BufferId :=
  (S.documents x).list.ids.filter fun id =>
    (S.documents x).store.isAttached id && (S.documents x).store.isDirty id

/-! ## Saving -/

theorem dirty_eq (S : Saver σ) (x : σ) : (S.documents x).dirty.1 = S.unsaved x := by
  rw [Documents.dirty, Documents.read, OpenList.dirty, OpenList.buffers, OpenList.live,
    List.filter_filter, unsaved]
  simp only [Bool.and_comm]

theorem changed_eq (S : Saver σ) (x : σ) : S.changed x = ((S.unsaved x).length, S.drop x) := by
  rw [changed, ← dirty_eq]
  rfl

theorem list_turns : (S.documents (turns S.save S.after ids x)).list = (S.documents x).list := by
  induction ids generalizing x with
  | nil => rfl
  | cons id ids ih => exact ih.trans ((S.list_after id _).trans (S.list_save id x))

/-- Turns of others leave a buffer alone. -/
theorem buffer?_turns (S : Saver σ) (x : σ) (h : j ∉ ids) :
    (S.documents (turns S.save S.after ids x)).store.buffer? j =
      (S.documents x).store.buffer? j := by
  induction ids generalizing x with
  | nil => rfl
  | cons id ids ih =>
    rw [List.mem_cons, not_or] at h
    exact (ih _ h.2).trans ((S.buffer?_after id j _).trans (S.buffer?_save id j x h.1))

theorem isDirty_congr {s s' : Store} (h : s.buffer? j = s'.buffer? j) :
    s.isDirty j = s'.isDirty j := by
  rw [Store.isDirty, h, Store.isDirty]

/-- **Whoever had a turn has no unsaved changes** in the end. -/
theorem isDirty_turns (h : AllSaved S.save S.after ids x) (hj : j ∈ ids) :
    (S.documents (turns S.save S.after ids x)).store.isDirty j = false := by
  induction ids generalizing x with
  | nil => cases hj
  | cons id ids ih =>
    obtain ⟨hfirst, hrest⟩ := OpenList.allSaved_cons_iff.1 h
    -- Of the turns of a buffer the last one counts; those behind it are of others.
    by_cases hin : j ∈ ids
    · exact ih hrest hin
    · obtain rfl : j = id := (List.mem_cons.1 hj).resolve_right hin
      have hclean := S.isDirty_save j x hfirst
      rw [← isDirty_congr (S.buffer?_after j j _)] at hclean
      rw [← hclean]
      exact isDirty_congr (S.buffer?_turns _ hin)

/-- **When all is saved, nothing is unsaved.** -/
theorem unsaved_turns (h : AllSaved S.save S.after (S.unsaved x) (S.drop x)) :
    S.unsaved (turns S.save S.after (S.unsaved x) (S.drop x)) = [] := by
  rw [unsaved, List.filter_eq_nil_iff, list_turns, S.documents_drop]
  intro j hj
  obtain ⟨hlist, hattached⟩ := List.mem_filter.1 hj
  rw [Bool.and_eq_true, not_and, Bool.not_eq_true]
  intro _
  -- A buffer without a turn is as it was, and had nothing to be saved.
  by_cases hin : j ∈ S.unsaved x
  · exact isDirty_turns h hin
  · have hsame := isDirty_congr (S.buffer?_turns (S.drop x) hin)
    rw [S.documents_drop] at hsame
    rw [hsame, ← Bool.not_eq_true]
    intro hdirty
    exact hin (List.mem_filter.2 ⟨hlist, Bool.and_eq_true_iff.2 ⟨hattached, hdirty⟩⟩)

/-- What saving everything comes to: the answer, the buffers that were saved,
each of which had its turn, and the state it leaves. -/
inductive SavedAll (S : Saver σ) (x : σ) : Except DocumentError Nat × List BufferId × σ → Prop
  /-- Everything was saved, and what had no unsaved changes is as it was. -/
  | all (h : AllSaved S.save S.after (S.unsaved x) (S.drop x))
    (clean : (S.changed (turns S.save S.after (S.unsaved x) (S.drop x))).1 = 0)
    (others : ∀ j, j ∉ S.unsaved x →
      (S.documents (turns S.save S.after (S.unsaved x) (S.drop x))).store.buffer? j =
        (S.documents x).store.buffer? j) :
    SavedAll S x (.ok (S.unsaved x).length, S.unsaved x,
      turns S.save S.after (S.unsaved x) (S.drop x))
  /-- One could not be saved. Those in front of it were, and those behind it are
  as they were. -/
  | upTo {front back : List BufferId} {id : BufferId} {e : DocumentError} {y : σ}
    (unsaved : S.unsaved x = front ++ id :: back)
    (h : AllSaved S.save S.after front (S.drop x))
    (fails : S.save id (turns S.save S.after front (S.drop x)) = (.error e, y))
    (others : ∀ j, j ∉ front ++ [id] →
      (S.documents y).store.buffer? j = (S.documents x).store.buffer? j) :
    SavedAll S x (.error e, front, y)

theorem savedAll (S : Saver σ) (x : σ) : S.SavedAll x (S.saveAll x) := by
  rw [saveAll, dirty_eq]
  rcases OpenList.allSaved_or_exists_failure S.save S.after (S.unsaved x) (S.drop x) with
    h | ⟨front, id, back, e, y, hunsaved, h, hfail⟩
  · rw [OpenList.saveEach_eq_ok h]
    refine .all h ?_ fun j hj => ?_
    · rw [changed_eq, unsaved_turns h]
      rfl
    · rw [S.buffer?_turns _ hj, S.documents_drop]
      rfl
  · rw [hunsaved, OpenList.saveEach_eq_error h hfail back]
    refine .upTo hunsaved h hfail fun j hj => ?_
    rw [List.mem_append, List.mem_singleton, not_or] at hj
    have hsave := S.buffer?_save id j (turns S.save S.after front (S.drop x)) hj.2
    rw [hfail, S.buffer?_turns _ hj.1, S.documents_drop] at hsave
    exact hsave

/-! ## Going on -/

/-- Buffers that were closed have nothing to be saved. -/
theorem unsaved_drop (S : Saver σ) (x : σ) : S.unsaved (S.drop x) = S.unsaved x := by
  rw [unsaved, S.documents_drop, unsaved, Documents.purge, OpenList.live, List.filter_filter]
  refine List.filter_congr fun id _ => ?_
  cases (S.documents x).store.isAttached id <;> simp

theorem saveAll_drop (S : Saver σ) (x : σ) : S.saveAll (S.drop x) = S.saveAll x := by
  rw [saveAll, dirty_eq, unsaved_drop, S.drop_drop, saveAll, dirty_eq]

theorem check_of_nil (canCancel : Bool) (choice : SaveChoice) (h : S.unsaved x = []) :
    S.check canCancel choice x = (⟨.ok false, none, [], true⟩, S.drop x) := by
  rw [check, Documents.checkUnsaved, changed_eq, h]
  rfl

theorem check_of_ne_nil (canCancel : Bool) (choice : SaveChoice) (h : S.unsaved x ≠ []) :
    S.check canCancel choice x =
      match choice with
      | .cancel => (⟨.ok true, some (S.unsaved x).length, [], !canCancel⟩, S.drop x)
      | .discard => (⟨.ok true, some (S.unsaved x).length, [], true⟩, S.drop x)
      | .saveAll =>
        let (r, saved, y) := S.saveAll x
        (⟨r.map fun _ => true, some (S.unsaved x).length, saved, r.isOk⟩, y) := by
  rw [check, Documents.checkUnsaved, changed_eq]
  dsimp only
  rw [if_neg (mt List.length_eq_zero_iff.1 h), saveAll_drop]
  cases choice with
  | cancel => rfl
  | discard => rfl
  | saveAll => rcases S.saveAll x with ⟨e | n, saved, y⟩ <;> rfl

/-- What becomes of unsaved changes before one goes on. -/
structure Handled (S : Saver σ) (canCancel : Bool) (choice : SaveChoice) (x : σ) : Prop where
  /-- Saving everything. -/
  savedAll : S.SavedAll x (S.saveAll x)
  /-- The user is asked once, about all of them, unless there are none. -/
  asked : (S.check canCancel choice x).1.asked =
    if S.unsaved x = [] then none else some (S.unsaved x).length
  /-- The answer is that there are none exactly if there are none. -/
  nothing : (S.check canCancel choice x).1.unsaved = .ok false ↔ S.unsaved x = []
  /-- It fails exactly if everything was to be saved and was not. -/
  fails : ∀ e, (S.check canCancel choice x).1.unsaved = .error e ↔
    S.unsaved x ≠ [] ∧ choice = .saveAll ∧ (S.saveAll x).1 = .error e
  /-- One goes on if there are none, or they are given up, or the user could not
  stop it, or they were saved. -/
  proceeds : (S.check canCancel choice x).1.proceeds = true ↔
    S.unsaved x = [] ∨ choice = .discard ∨ (choice = .cancel ∧ canCancel = false) ∨
      (choice = .saveAll ∧ ∃ n, (S.saveAll x).1 = .ok n)
  /-- Nothing is changed if nothing was to be saved. -/
  state : (S.check canCancel choice x).2 =
    if S.unsaved x ≠ [] ∧ choice = .saveAll then (S.saveAll x).2.2 else S.drop x
  /-- The buffers that were saved. -/
  saved : (S.check canCancel choice x).1.saved =
    if S.unsaved x ≠ [] ∧ choice = .saveAll then (S.saveAll x).2.1 else []

theorem handled (S : Saver σ) (canCancel : Bool) (choice : SaveChoice) (x : σ) :
    S.Handled canCancel choice x := by
  by_cases h : S.unsaved x = []
  · have hcheck := check_of_nil canCancel choice h
    refine ⟨S.savedAll x, ?_, ?_, ?_, ?_, ?_, ?_⟩ <;> simp [hcheck, h]
  · have hcheck := check_of_ne_nil canCancel choice h
    cases choice with
    | cancel => refine ⟨S.savedAll x, ?_, ?_, ?_, ?_, ?_, ?_⟩ <;> simp [hcheck, h]
    | discard => refine ⟨S.savedAll x, ?_, ?_, ?_, ?_, ?_, ?_⟩ <;> simp [hcheck, h]
    | saveAll =>
      rcases hsave : S.saveAll x with ⟨e | n, saved, y⟩
      · rw [hsave] at hcheck
        change _ = (SaveCheck.mk (.error e) (some _) saved false, y) at hcheck
        refine ⟨S.savedAll x, ?_, ?_, ?_, ?_, ?_, ?_⟩ <;> simp [hcheck, h, hsave]
      · rw [hsave] at hcheck
        change _ = (SaveCheck.mk (.ok true) (some _) saved true, y) at hcheck
        refine ⟨S.savedAll x, ?_, ?_, ?_, ?_, ?_, ?_⟩ <;> simp [hcheck, h, hsave]

/-! ## Places with documents -/

/-- Open documents by themselves. -/
def plain : Saver Documents where
  documents d := d
  drop := Documents.purge
  save id d := ((d.store.save id).1, { d with store := (d.store.save id).2 })
  after _ d := d
  documents_drop _ := rfl
  drop_drop := Documents.purge_purge
  list_save _ _ := rfl
  buffer?_save _ _ d h := Store.buffer?_save_of_ne h d.store
  isDirty_save _ _ h := Store.isDirty_save h
  list_after _ _ := rfl
  buffer?_after _ _ _ := rfl

/-- A desk, where commands are run after a file was saved. -/
def ofDesk (M : Machine) (p : Command.Prompter) : Saver (Desk σ) where
  documents := Desk.documents
  drop d := d.withDocuments d.documents.purge
  save := Desk.saveBuffer
  after id d := (d.postSave M id p).2
  documents_drop _ := rfl
  drop_drop d := congrArg d.withDocuments d.documents.purge_purge
  list_save _ _ := rfl
  buffer?_save _ _ d h := Store.buffer?_save_of_ne h d.documents.store
  isDirty_save _ _ h := Store.isDirty_save h
  list_after id d := by
    obtain ⟨r, hr⟩ := Desk.postSave_eq M d id p
    rw [hr]
    rfl
  buffer?_after id j d := by
    obtain ⟨r, hr⟩ := Desk.postSave_eq M d id p
    rw [hr]
    rfl

/-- Saving in turn changes nothing but the buffers. -/
theorem saveEach_plain (l : OpenList) (ids : List BufferId) (s : Store) :
    OpenList.saveEach plain.save plain.after ids ⟨s, l⟩ =
      let out := OpenList.saveEach (fun id s => s.save id) (fun _ s => s) ids s
      (out.1, out.2.1, ⟨out.2.2, l⟩) :=
  OpenList.saveEach_map (fun s => (⟨s, l⟩ : Documents)) (fun _ _ => rfl) (fun _ _ => rfl) ids s

theorem plain_saveAll : plain.saveAll = Documents.saveAll := by
  funext d
  exact congrArg (fun out => (out.1.map fun _ => out.2.1.length, out.2.1, out.2.2))
    (saveEach_plain d.purge.list d.dirty.1 d.store)

end Saver

/-- **Saving everything deals with every outcome**, wherever documents are
open and whichever saves fail. Documents by themselves and those of a desk are
saved in this way. -/
theorem saveAll_handled :
    (∀ {σ : Type} (S : Saver σ) (canCancel : Bool) (choice : SaveChoice) (x : σ),
      S.Handled canCancel choice x) ∧
    (∀ d, Saver.plain.saveAll d = d.saveAll ∧ ∀ canCancel choice,
      Saver.plain.check canCancel choice d = d.saveAllCheck canCancel choice) ∧
    ∀ {σ : Type} (M : Machine) (p : Command.Prompter) (d : Desk σ),
      (Saver.ofDesk M p).saveAll d = d.saveChanged M p ∧ ∀ canCancel choice,
        (Saver.ofDesk M p).check canCancel choice d = d.saveAllCheck M canCancel choice p := by
  refine ⟨Saver.handled, fun d => ⟨congrFun Saver.plain_saveAll d, fun canCancel choice => ?_⟩,
    fun M p d => ⟨rfl, fun canCancel choice => rfl⟩⟩
  rw [Saver.check, Saver.plain_saveAll]
  rfl

end CodeDesk
