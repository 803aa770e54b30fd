import CodeDesk.Proofs.Document.Open
import Mathlib.Data.List.Basic
import Mathlib.Data.List.Induction
/-!
# Recency — the list of open documents is what its history says

What is done to the list and to its buffers is a list of operations
(`Documents.Op`), and two of them decide about a buffer: the latest time it
was put in and the latest time it was taken out (`lastAt`). The stored list
may also hold buffers that were closed, until it is next read. So the
invariant (`Kept`) says less of these than of the attached ones, and one
step keeps it (`Kept.step`).

That the reads leave no trace is a second argument: two states that are the
same when purged stay so and answer alike (`purge_step`,
`answer_purge`), and a read only purges. Both together are
`recencyList`.
-/

namespace CodeDesk
namespace Documents

/-- A question to the list of the open documents. -/
inductive Reading where
  /-- Which buffers are open? -/
  | buffers
  /-- What are the names of their tabs? -/
  | names
  /-- How many of them have unsaved changes? -/
  | changed
  /-- Which one is of this path? -/
  | byPath (p : Path)
  /-- How many are open? -/
  | count
  deriving DecidableEq

/-- What is done to the list and to its buffers. -/
inductive Op where
  /-- A buffer is put in, or brought to the front. -/
  | add (id : BufferId)
  /-- A buffer is taken out. -/
  | remove (id : BufferId)
  /-- The closed buffers are dropped. -/
  | purge
  /-- A buffer is closed. -/
  | close (id : BufferId)
  /-- A buffer is marked as changed or as saved. -/
  | setDirty (id : BufferId) (dirty : Bool)
  /-- The list is read. -/
  | ask (what : Reading)
  deriving DecidableEq

/-- What an operation answers. -/
inductive Reply where
  /-- Nothing. -/
  | done
  /-- Whether the buffer was new, or was there. -/
  | flag (b : Bool)
  /-- Buffers. -/
  | buffers (ids : List BufferId)
  /-- Names of tabs. -/
  | names (texts : List String)
  /-- How many. -/
  | number (n : Nat)
  /-- The buffer that was found. -/
  | found (id : Option BufferId)
  deriving DecidableEq

/-- The answer to a question, and the documents after it. -/
def answer (d : Documents) : Reading → Reply × Documents
  | .buffers => (.buffers d.buffers.1, d.buffers.2)
  | .names => (.names d.names.1, d.names.2)
  | .changed => (.number d.changed.1, d.changed.2)
  | .byPath p => (.found (d.byPath p).1, (d.byPath p).2)
  | .count => (.number d.buffers.1.length, d.buffers.2)

/-- The answer to an operation, and the documents after it. -/
def step (d : Documents) : Op → Reply × Documents
  | .add id => (.flag (d.add id).1, (d.add id).2)
  | .remove id => (.flag (d.remove id).1, (d.remove id).2)
  | .purge => (.done, d.purge)
  | .close id => (.done, { d with store := d.store.close id })
  | .setDirty id dirty => (.done, { d with store := d.store.setDirty id dirty })
  | .ask what => d.answer what

/-- The documents after operations, first one first. -/
def after (d : Documents) (ops : List Op) : Documents := ops.foldl (fun d o => (d.step o).2) d

theorem after_concat (d : Documents) (ops : List Op) (o : Op) :
    d.after (ops ++ [o]) = ((d.after ops).step o).2 := by
  rw [after, after, List.foldl_append, List.foldl_cons, List.foldl_nil]

/-! ## What a history says -/

/-- When something was last done: the number of the operations up to then,
none if it never was. -/
def lastAt (o : Op) (ops : List Op) : Nat := ops.length - ops.reverse.idxOf o

theorem lastAt_concat_self (o : Op) (ops : List Op) :
    lastAt o (ops ++ [o]) = ops.length + 1 := by
  simp [lastAt]

theorem lastAt_concat_of_ne {o o' : Op} (h : o' ≠ o) (ops : List Op) :
    lastAt o (ops ++ [o']) = lastAt o ops := by
  have hlast : (ops ++ [o']).reverse.idxOf o = ops.reverse.idxOf o + 1 := by
    rw [List.reverse_append, List.reverse_singleton, List.singleton_append,
      List.idxOf_cons_ne _ h]
  rw [lastAt, lastAt, hlast, List.length_append, List.length_singleton]
  omega

theorem lastAt_le (o : Op) (ops : List Op) : lastAt o ops ≤ ops.length :=
  Nat.sub_le _ _

/-- A buffer was put in after it was last taken out. -/
def Held (ops : List Op) (id : BufferId) : Prop := lastAt (.remove id) ops < lastAt (.add id) ops

/-- A buffer of the store is open after a history: it was attached at the
start and never closed, and put in after it was last taken out. -/
def OpenAfter (s : Store) (ops : List Op) (id : BufferId) : Prop :=
  s.isAttached id ∧ .close id ∉ ops ∧ Held ops id

/-- One buffer was put in later than another. -/
def Newer (ops : List Op) (i j : BufferId) : Prop := lastAt (.add j) ops < lastAt (.add i) ops

section History

variable {ops : List Op} {id i j : BufferId} {o : Op}

/-- Only putting a buffer in and taking it out decide about it. -/
theorem held_concat_iff (hadd : o ≠ .add id) (hremove : o ≠ .remove id) :
    Held (ops ++ [o]) id ↔ Held ops id := by
  rw [Held, Held, lastAt_concat_of_ne hadd, lastAt_concat_of_ne hremove]

/-- A buffer that is put in is held, whatever was before. -/
theorem held_add (ops : List Op) (id : BufferId) : Held (ops ++ [.add id]) id := by
  have hle := lastAt_le (.remove id) ops
  rw [Held, lastAt_concat_self, lastAt_concat_of_ne (by simp)]
  omega

/-- And one that is taken out is not. -/
theorem not_held_remove (ops : List Op) (id : BufferId) : ¬ Held (ops ++ [.remove id]) id := by
  have hle := lastAt_le (.add id) ops
  rw [Held, lastAt_concat_self, lastAt_concat_of_ne (by simp)]
  omega

/-- Which of two buffers is newer only changes when one is put in. -/
theorem newer_concat_iff (hi : o ≠ .add i) (hj : o ≠ .add j) :
    Newer (ops ++ [o]) i j ↔ Newer ops i j := by
  rw [Newer, Newer, lastAt_concat_of_ne hi, lastAt_concat_of_ne hj]

/-- A buffer that is put in is newer than every other. -/
theorem newer_add (ops : List Op) (h : j ≠ i) : Newer (ops ++ [.add i]) i j := by
  have hle := lastAt_le (.add j) ops
  rw [Newer, lastAt_concat_self, lastAt_concat_of_ne (by simpa using Ne.symm h)]
  omega

end History

/-! ## The list along a history -/

/-- The documents after a history. The stored list holds every open buffer,
in the order of the latest times they were put in, and else only buffers
that were closed since. -/
structure Kept (s : Store) (ops : List Op) (d : Documents) : Prop where
  /-- Closing a buffer is the one way to detach it. -/
  attached : ∀ id, d.store.isAttached id ↔ s.isAttached id ∧ .close id ∉ ops
  /-- No buffer is stored twice. -/
  nodup : d.list.ids.Nodup
  /-- What is stored was not taken out. -/
  held : ∀ id ∈ d.list.ids, Held ops id
  /-- What is open is stored. -/
  all : ∀ id, d.store.isAttached id → Held ops id → id ∈ d.list.ids
  /-- The newest comes first. -/
  newest : d.list.ids.Pairwise (Newer ops)

section Run

variable {s : Store} {ops : List Op} {d d' : Documents} {o : Op} {id : BufferId}

theorem kept_nil (s : Store) : Kept s [] ⟨s, .empty⟩ where
  attached id := by simp
  nodup := List.nodup_nil
  held id hid := by simp [OpenList.empty] at hid
  all id _ hheld := absurd hheld (Nat.lt_irrefl 0)
  newest := List.Pairwise.nil

theorem isAttached_setDirty (s : Store) (id j : BufferId) (dirty : Bool) :
    (s.setDirty id dirty).isAttached j = s.isAttached j := by
  have hkeeps : s.Keeps (s.setDirty id dirty) := by
    rw [Store.setDirty]
    refine Store.keeps_modify (fun _ => ?_) (fun _ => ?_) s id <;> rfl
  by_cases hj : j < s.buffers.length
  · exact hkeeps.isAttached hj
  · have hnone : s.buffer? j = none := List.getElem?_eq_none (Nat.le_of_not_lt hj)
    have hnone' : (s.setDirty id dirty).buffer? j = none := by
      refine List.getElem?_eq_none ?_
      rw [Store.setDirty, Store.modify]
      split
      · rw [Store.put, List.length_set]
        exact Nat.le_of_not_lt hj
      · exact Nat.le_of_not_lt hj
    rw [Store.isAttached, Store.isAttached, hnone, hnone']

/-- An operation that neither puts in nor takes out, and at most drops
buffers from the list that are closed. -/
theorem Kept.drops (h : Kept s ops d) (hadd : ∀ id, o ≠ .add id) (hremove : ∀ id, o ≠ .remove id)
    (hattached : ∀ id, d'.store.isAttached id ↔ s.isAttached id ∧ .close id ∉ ops ++ [o])
    (hsub : d'.list.ids.Sublist d.list.ids)
    (hstays : ∀ id ∈ d.list.ids, d'.store.isAttached id → id ∈ d'.list.ids) :
    Kept s (ops ++ [o]) d' where
  attached := hattached
  nodup := h.nodup.sublist hsub
  held id hid := (held_concat_iff (hadd id) (hremove id)).2 (h.held id (hsub.subset hid))
  all id hid hheld := by
    have hbefore : d.store.isAttached id := by
      obtain ⟨hs, hclose⟩ := (hattached id).1 hid
      exact (h.attached id).2 ⟨hs, fun hin => hclose (List.mem_append_left _ hin)⟩
    have hheld' := (held_concat_iff (hadd id) (hremove id)).1 hheld
    exact hstays id (h.all id hbefore hheld') hid
  newest := (h.newest.sublist hsub).imp fun {i j} hij => (newer_concat_iff (hadd i) (hadd j)).2 hij

/-- An operation that closes nothing leaves every buffer attached. -/
theorem Kept.attached_concat (h : Kept s ops d) (hclose : ∀ id, o ≠ .close id)
    (hsame : ∀ id, d'.store.isAttached id = d.store.isAttached id) (id : BufferId) :
    d'.store.isAttached id ↔ s.isAttached id ∧ .close id ∉ ops ++ [o] := by
  have hlast : (.close id ∉ ops ++ [o]) ↔ .close id ∉ ops := by
    simp [Ne.symm (hclose id)]
  rw [hsame, h.attached, hlast]

/-- **Purging** drops what is closed and nothing else. -/
theorem Kept.purged (h : Kept s ops d) (hadd : ∀ id, o ≠ .add id) (hremove : ∀ id, o ≠ .remove id)
    (hclose : ∀ id, o ≠ .close id) : Kept s (ops ++ [o]) d.purge :=
  h.drops hadd hremove (h.attached_concat hclose fun _ => rfl) List.filter_sublist
    fun _ hid hattached => List.mem_filter.2 ⟨hid, hattached⟩

/-- A read purges the list. -/
theorem answer_snd (d : Documents) (what : Reading) : (d.answer what).2 = d.purge := by
  cases what <;> rfl

/-- **One step keeps the list in order.** -/
theorem Kept.step (h : Kept s ops d) (o : Op) : Kept s (ops ++ [o]) (d.step o).2 := by
  cases o with
  | add id =>
    have hattached : ∀ j, (d.add id).2.store.isAttached j ↔
        s.isAttached j ∧ .close j ∉ ops ++ [.add id] :=
      h.attached_concat (by simp) fun _ => rfl
    -- Who stays behind it is another buffer.
    have hothers : ∀ j ∈ d.list.ids.filter (· != id), j ∈ d.list.ids ∧ j ≠ id := fun j hj => by
      simpa using hj
    refine ⟨hattached, ?_, fun j hj => ?_, fun j hj hheld => ?_, ?_⟩
    · exact List.nodup_cons.2 ⟨fun hin => (hothers id hin).2 rfl, h.nodup.filter _⟩
    · rcases List.mem_cons.1 hj with rfl | hj
      · exact held_add ops j
      · obtain ⟨hin, hne⟩ := hothers j hj
        exact (held_concat_iff (by simpa using Ne.symm hne) (by simp)).2 (h.held j hin)
    · rw [Documents.step, mem_add]
      by_cases hne : j = id
      · exact .inl hne
      · have hheld' := (held_concat_iff (by simpa using Ne.symm hne) (by simp)).1 hheld
        exact .inr (h.all j hj hheld')
    · refine List.pairwise_cons.2 ⟨fun j hj => newer_add ops (hothers j hj).2, ?_⟩
      refine (h.newest.filter _).imp_of_mem fun {i j} hi hj hij => ?_
      exact (newer_concat_iff (by simpa using Ne.symm (hothers i hi).2)
        (by simpa using Ne.symm (hothers j hj).2)).2 hij
  | remove id =>
    have hattached : ∀ j, (d.remove id).2.store.isAttached j ↔
        s.isAttached j ∧ .close j ∉ ops ++ [.remove id] :=
      h.attached_concat (by simp) fun _ => rfl
    have hothers : ∀ j ∈ d.list.ids.filter (· != id), j ∈ d.list.ids ∧ j ≠ id := fun j hj => by
      simpa using hj
    refine ⟨hattached, h.nodup.filter _, fun j hj => ?_, fun j hj hheld => ?_, ?_⟩
    · obtain ⟨hin, hne⟩ := hothers j hj
      exact (held_concat_iff (by simp) (by simpa using Ne.symm hne)).2 (h.held j hin)
    · have hne : j ≠ id := by
        rintro rfl
        exact not_held_remove ops j hheld
      have hheld' := (held_concat_iff (by simp) (by simpa using Ne.symm hne)).1 hheld
      exact List.mem_filter.2 ⟨h.all j hj hheld', by simpa using hne⟩
    · exact (h.newest.filter _).imp fun hij => (newer_concat_iff (by simp) (by simp)).2 hij
  | purge => exact h.purged (by simp) (by simp) (by simp)
  | close id =>
    refine h.drops (by simp) (by simp) (fun j => ?_) (List.Sublist.refl _) fun j hj _ => hj
    simp only [Documents.step, Store.isAttached_close, Bool.and_eq_true, decide_eq_true_eq,
      h.attached, List.mem_append, List.mem_singleton, Op.close.injEq, not_or]
    tauto
  | setDirty id dirty =>
    refine h.drops (by simp) (by simp) (h.attached_concat (by simp) fun j => ?_)
      (List.Sublist.refl _) fun j hj _ => hj
    exact isAttached_setDirty d.store id j dirty
  | ask what =>
    rw [Documents.step, answer_snd]
    exact h.purged (by simp) (by simp) (by simp)

/-- **A history keeps the list in order.** -/
theorem kept_after (s : Store) (ops : List Op) : Kept s ops (after ⟨s, .empty⟩ ops) := by
  induction ops using List.reverseRecOn with
  | nil => exact kept_nil s
  | append_singleton ops o ih =>
    rw [after_concat]
    exact ih.step o

/-- The buffers that a read answers with are the stored ones that are
attached. -/
theorem Kept.mem_buffers (h : Kept s ops d) (id : BufferId) :
    id ∈ d.buffers.1 ↔ OpenAfter s ops id := by
  have hstored : id ∈ d.buffers.1 ↔ id ∈ d.list.ids ∧ d.store.isAttached id := List.mem_filter
  rw [hstored]
  constructor
  · rintro ⟨hin, hattached⟩
    obtain ⟨hs, hclose⟩ := (h.attached id).1 hattached
    exact ⟨hs, hclose, h.held id hin⟩
  · rintro ⟨hs, hclose, hheld⟩
    have hattached := (h.attached id).2 ⟨hs, hclose⟩
    exact ⟨h.all id hattached hheld, hattached⟩

/-! ## Reads leave no trace -/

/-- Whether an operation only looks at the list, and drops what is closed
from it. -/
def Op.looks : Op → Bool
  | .purge => true
  | .ask _ => true
  | _ => false

/-- What is done in a history, without the looks. -/
def deeds (ops : List Op) : List Op := ops.filter fun o => !o.looks

/-- What is put in or taken out is attached. -/
def Op.IsAboutAttached (s : Store) : Op → Prop
  | .add id => s.isAttached id
  | .remove id => s.isAttached id
  | _ => True

theorem purge_purge (d : Documents) : d.purge.purge = d.purge := by
  simp only [purge, OpenList.live, List.filter_filter, Bool.and_self]

/-- A look purges the list and does no more. -/
theorem purge_looks (d : Documents) (ho : o.looks = true) : (d.step o).2 = d.purge := by
  cases o with
  | purge => rfl
  | ask what => exact answer_snd d what
  | _ => cases ho

/-- What was closed before a step may be dropped before it. -/
theorem purge_step (d : Documents) (o : Op) :
    (d.purge.step o).2.purge = (d.step o).2.purge := by
  have hswap : ∀ id, (d.list.ids.filter d.store.isAttached).filter (· != id) =
      (d.list.ids.filter (· != id)).filter d.store.isAttached := fun id => by
    rw [List.filter_filter, List.filter_filter]
    simp only [Bool.and_comm]
  cases o with
  | add id =>
    simp only [step, add, purge, OpenList.add, OpenList.live, List.filter_cons, hswap,
      List.filter_filter, Bool.and_self_left]
  | remove id =>
    simp only [step, remove, purge, OpenList.remove, OpenList.live, hswap, List.filter_filter,
      Bool.and_self_left]
  | purge => simp only [step, purge_purge]
  | close id =>
    -- Who is attached afterwards was attached before.
    have hsub : ∀ j, ((d.store.close id).isAttached j && d.store.isAttached j) =
        (d.store.close id).isAttached j := fun j => by
      rw [Store.isAttached_close, Bool.and_assoc, Bool.and_self]
    simp only [step, purge, OpenList.live, List.filter_filter, hsub]
  | setDirty id dirty =>
    have hsame : (d.store.setDirty id dirty).isAttached = d.store.isAttached :=
      funext fun j => isAttached_setDirty d.store id j dirty
    simp only [step, purge, OpenList.live, List.filter_filter, hsame, Bool.and_self]
  | ask what => simp only [step, answer_snd, purge_purge]

/-- **A purged list answers alike** wherever the answer is about attached
buffers. -/
theorem answer_purge (d : Documents) (ho : o.IsAboutAttached d.store) :
    (d.purge.step o).1 = (d.step o).1 := by
  have hlive : d.purge.list.live d.purge.store = d.list.live d.store :=
    congrArg Documents.list (purge_purge d)
  have hmem : ∀ id, d.store.isAttached id →
      (d.list.ids.filter d.store.isAttached).contains id = d.list.ids.contains id := by
    intro id hid
    rw [Bool.eq_iff_iff, List.contains_iff_mem, List.contains_iff_mem, List.mem_filter]
    exact ⟨fun hin => hin.1, fun hin => ⟨hin, hid⟩⟩
  cases o with
  | add id => simp only [step, add, purge, OpenList.add, OpenList.live, hmem id ho]
  | remove id => simp only [step, remove, purge, OpenList.remove, OpenList.live, hmem id ho]
  | ask what =>
    have hstore : d.purge.store = d.store := rfl
    cases what <;>
      simp only [step, answer, buffers, names, changed, byPath, read, OpenList.buffers,
        OpenList.names, OpenList.changed, OpenList.dirty, OpenList.byPath, hlive] <;>
      rw [hstore]
  | _ => rfl

/-- **Looks leave no trace** in the purged list. -/
theorem purge_after_deeds (d : Documents) (ops : List Op) :
    (d.after (deeds ops)).purge = (d.after ops).purge := by
  induction ops using List.reverseRecOn with
  | nil => rfl
  | append_singleton ops o ih =>
    rw [after_concat, deeds, List.filter_append]
    by_cases ho : o.looks = true
    · have hnone : [o].filter (fun o => !o.looks) = [] := by simp [ho]
      rw [hnone, List.append_nil, purge_looks _ ho, purge_purge]
      exact ih
    · have hself : [o].filter (fun o => !o.looks) = [o] := by simp [ho]
      have hstep : ∀ d d' : Documents, d.purge = d'.purge →
          (d.step o).2.purge = (d'.step o).2.purge := by
        intro d d' heq
        rw [← purge_step d, ← purge_step d', heq]
      rw [hself, after_concat]
      exact hstep _ _ ih

end Run

/-! ## The list is what its history says -/

/-- After a history that starts with no documents, the list of the open ones
is what the history says of them. -/
structure RecencyList (s : Store) (ops : List Op) : Prop where
  /-- No buffer is in it twice. -/
  nodup : (after ⟨s, .empty⟩ ops).buffers.1.Nodup
  /-- It has the attached buffers that were put in after they were last
  taken out. -/
  mem : ∀ id, id ∈ (after ⟨s, .empty⟩ ops).buffers.1 ↔ OpenAfter s ops id
  /-- They come in the order in which they were last put in, newest first. -/
  newest : (after ⟨s, .empty⟩ ops).buffers.1.Pairwise (Newer ops)
  /-- Those with unsaved changes are counted. -/
  changed : (after ⟨s, .empty⟩ ops).changed.1 =
    (after ⟨s, .empty⟩ ops).buffers.1.countP (after ⟨s, .empty⟩ ops).store.isDirty
  /-- An attached buffer is new exactly if it is not in the list. -/
  add : ∀ id, (after ⟨s, .empty⟩ ops).store.isAttached id →
    (((after ⟨s, .empty⟩ ops).add id).1 = true ↔ id ∉ (after ⟨s, .empty⟩ ops).buffers.1)
  /-- After any other history with the same deeds, whatever was read in
  between, every answer about attached buffers is the same. -/
  reads : ∀ ops', deeds ops' = deeds ops → ∀ o, o.IsAboutAttached (after ⟨s, .empty⟩ ops).store →
    ((after ⟨s, .empty⟩ ops').step o).1 = ((after ⟨s, .empty⟩ ops).step o).1

/-- **The list of open documents is a recency list**, for every store of
buffers and every history. -/
theorem recencyList (s : Store) (ops : List Op) : RecencyList s ops := by
  have hkept := kept_after s ops
  refine ⟨hkept.nodup.filter _, hkept.mem_buffers, hkept.newest.filter _, ?_, fun id hid => ?_,
    fun ops' hdeeds o ho => ?_⟩
  · exact List.countP_eq_length_filter.symm
  · have hmem : id ∈ (after ⟨s, .empty⟩ ops).buffers.1 ↔
        id ∈ (after ⟨s, .empty⟩ ops).list.ids := by
      refine List.mem_filter.trans ?_
      exact ⟨fun hin => hin.1, fun hin => ⟨hin, hid⟩⟩
    rw [hmem, Documents.add, OpenList.add, Bool.not_eq_true', ← Bool.not_eq_true,
      List.contains_iff_mem]
  · have hpurge : (after ⟨s, .empty⟩ ops').purge = (after ⟨s, .empty⟩ ops).purge := by
      rw [← purge_after_deeds, hdeeds, purge_after_deeds]
    have hstore : (after ⟨s, .empty⟩ ops').purge.store = (after ⟨s, .empty⟩ ops).purge.store :=
      congrArg Documents.store hpurge
    have ho' : o.IsAboutAttached (after ⟨s, .empty⟩ ops').store := by
      rw [show (after ⟨s, .empty⟩ ops').store = _ from hstore]
      exact ho
    rw [← answer_purge _ ho, ← answer_purge _ ho', hpurge]

end Documents
end CodeDesk
