import CodeDesk.Document.Documents
import CodeDesk.Proofs.Files.Path
import Mathlib.Data.List.Pairwise
/-!
# Open documents — what stays of the buffers and of their list

A buffer keeps its path for good, and only closing it detaches it. So what
is done to the buffers keeps them, in the sense of `Store.Keeps`, and the
list of the open ones stays tidy (`Documents.Tidy`): no buffer is in it
twice, and all of them are attached. Of a tidy list nothing is dropped when
it is read.

An operation on one buffer leaves every other one as it is. A replacement within
the text succeeds, and the text is exchanged there and nowhere else
(`replace_ok`).

Two documents of one path come about only by putting a buffer in whose path
another one has; that there are none is `Documents.Apart`.

Buffers that are saved one after the other have their turns: each is saved,
and then what comes after it is done. Either every one is saved
(`saveEach_eq_ok`), or there is a first one that is not, and nothing is done
for those behind it (`saveEach_eq_error`); one of the two is always the case
(`allSaved_or_exists_failure`).
-/

namespace CodeDesk

/-- **A sidecar is another file** than its document. -/
theorem sidecarOf_beq_self (p : Path) : (sidecarOf p == p) = false := by
  have hname : (sidecarName p.fileName).toList = '#' :: (p.fileName.toList ++ ['#']) := by
    rw [sidecarName, String.toList_append, String.toList_append]
    rfl
  have hslash : '/' ∉ '#' :: (p.fileName.toList ++ ['#']) := by
    simp [Path.slash_notMem_fileName]
  have hlast : (sidecarOf p).lastComponent = some (.name (sidecarName p.fileName)) := by
    rw [sidecarOf, Path.withFileName]
    split <;> exact Path.lastComponent_child hname (by decide) hslash _
  rw [← Bool.not_eq_true, Path.beq_iff]
  intro heq
  rw [Path.lastComponent, heq, ← Path.lastComponent] at hlast
  have hfile : p.fileName? = some (sidecarName p.fileName) := by
    rw [Path.fileName?, hlast]
  -- The name of the document would be two characters longer than it is.
  have hlength : p.fileName.toList.length = (sidecarName p.fileName).toList.length :=
    congrArg (fun name => (name.getD "").toList.length) hfile
  rw [hname, List.length_cons, List.length_append, List.length_singleton] at hlength
  omega

/-! ## One buffer -/

namespace Store

variable {s s' : Store} {id j : BufferId} {b : Buffer}

/-- The number of a buffer is below how many there are. -/
theorem lt_of_buffer? (h : s.buffer? id = some b) : id < s.buffers.length :=
  (List.getElem?_eq_some_iff.1 h).1

theorem textOf_eq (h : s.buffer? id = some b) : s.textOf id = b.text := by
  rw [textOf, h]

theorem buffer?_put_self (h : id < s.buffers.length) : (s.put id b).buffer? id = some b :=
  List.getElem?_set_self h

theorem buffer?_put_of_ne (h : j ≠ id) : (s.put id b).buffer? j = s.buffer? j :=
  List.getElem?_set_ne (Ne.symm h)

/-- Highlighting shows regions and changes no text. -/
theorem buffer?_highlight_self (h : s.buffer? id = some b) (rs : List Region) :
    (s.highlight id rs).buffer? id = some { b with highlights := rs } := by
  rw [highlight, modify, h]
  exact buffer?_put_self (lt_of_buffer? h)

theorem buffer?_highlight_of_ne (h : j ≠ id) (rs : List Region) :
    (s.highlight id rs).buffer? j = s.buffer? j := by
  rw [highlight, modify]
  split
  · exact buffer?_put_of_ne h
  · rfl

/-- **A replacement within the text succeeds**, and exchanges the characters
of its region for the new ones. -/
theorem replace_ok (h : s.buffer? id = some b) {region : Region} {i k : Nat}
    (hindices : region.indices? b.text.toList = some (i, k)) (text : String) (keepCase : Bool) :
    let old := sliceChars b.text.toList i k
    let new := if keepCase then matchCase (String.ofList old) text else text
    ∃ s' b', s.replace id region text keepCase =
        .ok (⟨region, region.start.after new.toList⟩, s') ∧ s'.buffer? id = some b' ∧
      b'.text.toList = spliceChars b.text.toList i k new.toList := by
  intro old new
  refine ⟨_, b.setText s.tick.1 (String.ofList (spliceChars b.text.toList i k new.toList)), ?_,
    buffer?_put_self (s := s.tick.2) (lt_of_buffer? h), ?_⟩
  · rw [replace, h]
    simp only [Buffer.replace, hindices]
    rfl
  · rw [Buffer.setText, String.toList_ofList]

/-- A replacement leaves the other buffers alone. -/
theorem buffer?_replace_of_ne (hj : j ≠ id) {region : Region} {text : String} {keepCase : Bool}
    {e : TextEdit} (h : s.replace id region text keepCase = .ok (e, s')) :
    s'.buffer? j = s.buffer? j := by
  rw [replace] at h
  split at h
  · cases h
  · split at h
    · cases h
      exact buffer?_put_of_ne hj
    · cases h

end Store

/-! ## Buffers -/

namespace Store

variable {s s' s'' : Store} {id j : BufferId} {b : Buffer} {p : Path}

/-- Every buffer keeps its path, and stays attached or detached. -/
def Keeps (s s' : Store) : Prop :=
  ∀ id b, s.buffer? id = some b →
    ∃ b', s'.buffer? id = some b' ∧ b'.path = b.path ∧ b'.attached = b.attached

theorem Keeps.refl (s : Store) : s.Keeps s := fun _ b hb => ⟨b, hb, rfl, rfl⟩

theorem Keeps.trans (h : s.Keeps s') (h' : s'.Keeps s'') : s.Keeps s'' := by
  intro id b hb
  obtain ⟨b', hb', hpath, hattached⟩ := h id b hb
  obtain ⟨b'', hb'', hpath', hattached'⟩ := h' id b' hb'
  exact ⟨b'', hb'', hpath'.trans hpath, hattached'.trans hattached⟩

/-- The disk does not matter. -/
theorem Keeps.of_buffers (h : s'.buffers = s.buffers) : s.Keeps s' := by
  intro id b hb
  rw [buffer?, ← h] at hb
  exact ⟨b, hb, rfl, rfl⟩

theorem keeps_put (h : s.buffer? id = some b) {b' : Buffer} (hpath : b'.path = b.path)
    (hattached : b'.attached = b.attached) : s.Keeps (s.put id b') := by
  intro j c hc
  by_cases hj : j = id
  · rw [hj, h, Option.some.injEq] at hc
    rw [hj, ← hc]
    exact ⟨b', buffer?_put_self (lt_of_buffer? h), hpath, hattached⟩
  · exact ⟨c, (buffer?_put_of_ne hj).trans hc, rfl, rfl⟩

theorem keeps_modify {f : Buffer → Buffer} (hpath : ∀ b, (f b).path = b.path)
    (hattached : ∀ b, (f b).attached = b.attached) (s : Store) (id : BufferId) :
    s.Keeps (s.modify id f) := by
  unfold modify
  split
  · next b hb => exact keeps_put hb (hpath b) (hattached b)
  · exact .refl s

theorem keeps_insert (s : Store) (b : Buffer) : s.Keeps (s.insert b).2 := by
  intro id c hc
  exact ⟨c, (List.getElem?_append_left (lt_of_buffer? hc)).trans hc, rfl, rfl⟩

theorem buffer?_insert_self (s : Store) (b : Buffer) :
    (s.insert b).2.buffer? (s.insert b).1 = some b :=
  List.getElem?_concat_length

theorem keeps_highlight (s : Store) (id : BufferId) (rs : List Region) :
    s.Keeps (s.highlight id rs) := by
  rw [highlight]
  refine keeps_modify (fun _ => ?_) (fun _ => ?_) s id <;> rfl

theorem keeps_tick (s : Store) : s.Keeps s.tick.2 := .of_buffers rfl

theorem keeps_setText (s : Store) (id : BufferId) (text : String) :
    s.Keeps (s.setText id text) := by
  rw [setText]
  refine s.keeps_tick.trans (keeps_modify (fun _ => ?_) (fun _ => ?_) s.tick.2 id) <;> rfl

/-- A replacement changes a buffer's text and no more than that. -/
theorem replace_inv {region : Region} {text : String} {keepCase : Bool} {e : TextEdit}
    (h : s.replace id region text keepCase = .ok (e, s')) :
    ∃ b new, s.buffer? id = some b ∧ s' = s.tick.2.put id (b.setText s.tick.1 new) := by
  rw [replace] at h
  split at h
  · cases h
  · next b hb =>
    split at h
    · next b' edit hreplace =>
      cases h
      rw [Buffer.replace] at hreplace
      split at hreplace
      · cases hreplace
      · cases hreplace
        exact ⟨b, _, hb, rfl⟩
    · cases h

theorem keeps_replace {region : Region} {text : String} {keepCase : Bool} {e : TextEdit}
    (h : s.replace id region text keepCase = .ok (e, s')) : s.Keeps s' := by
  obtain ⟨b, new, hb, rfl⟩ := replace_inv h
  have hb' : s.tick.2.buffer? id = some b := hb
  exact s.keeps_tick.trans (keeps_put hb' rfl rfl)

/-- What an operation on a buffer and the disk puts back. -/
theorem keeps_restore (hb : s.buffer? id = some b)
    {r : Except DocumentError Unit × Disk × Buffer} (hpath : r.2.2.path = b.path)
    (hattached : r.2.2.attached = b.attached) : s.Keeps (s.restore id r).2 := by
  have hdisk : s.Keeps { s with disk := r.2.1 } := .of_buffers rfl
  have hb' : ({ s with disk := r.2.1 } : Store).buffer? id = some b := hb
  exact hdisk.trans (keeps_put hb' hpath hattached)

end Store

namespace Buffer

section Calls

variable {c : Disk.Calls} {d d' : Disk} {b : Buffer} {p : Path} {found : Bool}

/-- A sidecar that was to be removed is removed, or there is none. -/
theorem removeSidecarBy_inv (h : removeSidecarBy c d p = .ok (found, d')) :
    d.removeFile (sidecarOf p) = .ok d' ∨
      d.removeFile (sidecarOf p) = .error .missing ∧ d' = d := by
  rw [removeSidecarBy] at h
  split at h
  · next hremoved =>
    cases h
    exact .inl (c.removeFile_ok hremoved)
  · next hmissing =>
    cases h
    exact .inr ⟨c.removeFile_missing hmissing, rfl⟩
  · cases h

/-- **Settling a buffer** leaves it alone, and takes away no more than the
sidecar. -/
theorem settleBy_cases (c : Disk.Calls) (d : Disk) (b : Buffer) :
    ∃ r d', settleBy c d b = (r, d', b) ∧
      (d' = d ∨ d.removeFile (sidecarOf b.path) = .ok d') := by
  rw [settleBy]
  cases hremove : removeSidecarBy c d b.path with
  | error e => exact ⟨_, _, rfl, .inl rfl⟩
  | ok r => exact ⟨_, _, rfl, (removeSidecarBy_inv hremove).symm.imp_left And.right⟩

/-- **What a save does**: it fails in front of every change, or it writes the
file, marks the buffer as saved and takes away no more than the sidecar. -/
theorem saveBy_cases (c : Disk.Calls) (d : Disk) (b : Buffer) :
    (∃ e, b.saveBy c d = (.error e, d, b)) ∨
    ∃ written r d', c.write d b.path (Utf8.encode b.text) = .ok written ∧
      b.saveBy c d = (r, d', { b with dirty := false, modified := written.tick.1 }) ∧
      (d' = written.tick.2 ∨ written.tick.2.removeFile (sidecarOf b.path) = .ok d') := by
  rw [saveBy]
  split
  · exact .inl ⟨_, rfl⟩
  · split
    · exact .inl ⟨_, rfl⟩
    · next written hwrite =>
      obtain ⟨r, d', hsettle, hdisk⟩ := settleBy_cases c written.tick.2
        { b with dirty := false, modified := written.tick.1 }
      exact .inr ⟨written, r, d', hwrite, hsettle, hdisk⟩

end Calls

/-- Saving a buffer marks it as saved if it is written, and leaves it alone
otherwise. -/
theorem save_buffer (d : Disk) (b : Buffer) :
    (b.save d).2.2 = b ∨ ∃ t, (b.save d).2.2 = { b with dirty := false, modified := t } := by
  rw [save]
  obtain ⟨e, h⟩ | ⟨written, r, d', -, h, -⟩ := saveBy_cases .ofDisk d b
  · exact .inl (by rw [h])
  · exact .inr ⟨written.tick.1, by rw [h]⟩

theorem dirty_save {d : Disk} {b : Buffer} (h : (b.save d).1 = .ok ()) :
    (b.save d).2.2.dirty = false := by
  rw [save] at h ⊢
  obtain ⟨e, hfail⟩ | ⟨written, r, d', -, hsave, -⟩ := saveBy_cases .ofDisk d b
  · rw [hfail] at h
    cases h
  · rw [hsave]

end Buffer

namespace Store

variable {s s' s'' : Store} {id j : BufferId} {b : Buffer} {p : Path}

/-- Closing a buffer detaches it, and no other. -/
theorem buffer?_close (s : Store) (id j : BufferId) :
    (s.close id).buffer? j =
      if j = id then (s.buffer? j).map fun b => { b with attached := false } else s.buffer? j := by
  rw [close, modify]
  split
  · next b hb =>
    split
    · next hj =>
      rw [hj, hb]
      exact buffer?_put_self (lt_of_buffer? hb)
    · next hj => exact buffer?_put_of_ne hj
  · next hnone =>
    split
    · next hj =>
      rw [hj, hnone]
      rfl
    · rfl

theorem isAttached_close (s : Store) (id j : BufferId) :
    (s.close id).isAttached j = (decide (j ≠ id) && s.isAttached j) := by
  rw [isAttached, buffer?_close, isAttached]
  by_cases hj : j = id
  · rw [if_pos hj]
    cases s.buffer? j <;> simp [hj]
  · rw [if_neg hj]
    simp [hj]

theorem pathOf_close (s : Store) (id j : BufferId) : (s.close id).pathOf j = s.pathOf j := by
  rw [pathOf, buffer?_close, pathOf]
  by_cases hj : j = id
  · rw [if_pos hj]
    cases s.buffer? j <;> rfl
  · rw [if_neg hj]

theorem keeps_save (s : Store) (id : BufferId) : s.Keeps (s.save id).2 := by
  unfold save
  split
  · next b hb =>
    rcases b.save_buffer s.disk with h | ⟨t, h⟩
    · exact keeps_restore hb (by rw [h]) (by rw [h])
    · exact keeps_restore hb (by rw [h]) (by rw [h])
  · exact .refl s

/-- Saving a buffer leaves the others alone. -/
theorem buffer?_save_of_ne (h : j ≠ id) (s : Store) : (s.save id).2.buffer? j = s.buffer? j := by
  rw [save]
  split
  · exact buffer?_put_of_ne h
  · rfl

/-- A buffer that was saved has no unsaved changes. -/
theorem isDirty_save (h : (s.save id).1 = .ok ()) : (s.save id).2.isDirty id = false := by
  rw [save] at h ⊢
  split at h
  · next b hb =>
    have hput : (s.restore id (b.save s.disk)).2.buffer? id = some (b.save s.disk).2.2 :=
      buffer?_put_self (lt_of_buffer? hb)
    rw [isDirty, hput]
    exact Buffer.dirty_save h
  · next hnone => rw [isDirty, hnone]

theorem keeps_autosave {wrote : Bool} (h : s.autosave id = .ok (wrote, s')) : s.Keeps s' := by
  rw [autosave] at h
  split at h
  · next b hb =>
    cases hsave : b.autosave s.disk with
    | error e =>
      rw [hsave] at h
      cases h
    | ok saved =>
      rw [hsave] at h
      cases h
      exact .of_buffers rfl
  · cases h
    exact .refl _

/-- The buffer of a file is a new one. -/
theorem openFile_inv (h : s.openFile p = .ok (id, s')) :
    ∃ b, b.path = p ∧ b.attached ∧ id = s.buffers.length ∧ s' = (s.insert b).2 := by
  rw [openFile] at h
  split at h
  · next b hb =>
    cases h
    rw [Buffer.ofFile] at hb
    split at hb
    · cases hb
      exact ⟨_, rfl, rfl, rfl, rfl⟩
    · cases hb
  · cases h

/-! ## What is kept -/

theorem lt_of_isAttached (h : s.isAttached id) : id < s.buffers.length := by
  rw [isAttached] at h
  split at h
  · next b hb => exact lt_of_buffer? hb
  · cases h

theorem isAttached_eq (h : s.buffer? id = some b) : s.isAttached id = b.attached := by
  rw [isAttached, h]

theorem pathOf_eq (h : s.buffer? id = some b) : s.pathOf id = b.path := by
  rw [pathOf, h]

theorem isDirty_eq (h : s.buffer? id = some b) : s.isDirty id = b.dirty := by
  rw [isDirty, h]

theorem exists_buffer? (h : id < s.buffers.length) : ∃ b, s.buffer? id = some b :=
  ⟨_, List.getElem?_eq_getElem h⟩

theorem Keeps.length_le (h : s.Keeps s') : s.buffers.length ≤ s'.buffers.length := by
  refine Nat.le_of_not_lt fun hlt => ?_
  obtain ⟨b, hb⟩ := exists_buffer? hlt
  obtain ⟨b', hb', -, -⟩ := h _ b hb
  exact Nat.lt_irrefl _ (lt_of_buffer? hb')

theorem Keeps.isAttached (h : s.Keeps s') (hid : id < s.buffers.length) :
    s'.isAttached id = s.isAttached id := by
  obtain ⟨b, hb⟩ := exists_buffer? hid
  obtain ⟨b', hb', -, hattached⟩ := h id b hb
  rw [isAttached_eq hb', isAttached_eq hb, hattached]

theorem Keeps.pathOf (h : s.Keeps s') (hid : id < s.buffers.length) :
    s'.pathOf id = s.pathOf id := by
  obtain ⟨b, hb⟩ := exists_buffer? hid
  obtain ⟨b', hb', hpath, -⟩ := h id b hb
  rw [pathOf_eq hb', pathOf_eq hb, hpath]

/-! ## Texts -/

theorem textOf_put (h : s.buffer? j = some b) {b' : Buffer} (htext : b'.text = b.text)
    (id : BufferId) : (s.put j b').textOf id = s.textOf id := by
  by_cases hid : id = j
  · rw [hid, textOf_eq (buffer?_put_self (lt_of_buffer? h)), textOf_eq h, htext]
  · rw [textOf, textOf, buffer?_put_of_ne hid]

theorem textOf_highlight (s : Store) (j : BufferId) (rs : List Region) (id : BufferId) :
    (s.highlight j rs).textOf id = s.textOf id := by
  rw [highlight, modify]
  split
  · next b hb =>
    refine textOf_put hb ?_ id
    rfl
  · rfl

theorem textOf_insert (hid : id < s.buffers.length) (b : Buffer) :
    (s.insert b).2.textOf id = s.textOf id := by
  rw [textOf, textOf, buffer?, insert, List.getElem?_append_left hid]
  rfl

/-- Saving changes no text. -/
theorem textOf_save (s : Store) (j id : BufferId) : (s.save j).2.textOf id = s.textOf id := by
  rw [save]
  split
  · next b hb =>
    have hb' : ({ s with disk := (b.save s.disk).2.1 } : Store).buffer? j = some b := hb
    have htext : (b.save s.disk).2.2.text = b.text := by
      rcases b.save_buffer s.disk with h | ⟨t, h⟩ <;> rw [h]
    exact textOf_put hb' htext id
  · rfl

end Store

/-! ## The list -/

namespace Documents

variable {d d' d'' : Documents} {s : Store} {id j : BufferId} {p : Path}

/-- No buffer is in the list twice, and all of them are attached. -/
structure Tidy (d : Documents) : Prop where
  /-- No buffer is in it twice. -/
  nodup : d.list.ids.Nodup
  /-- No buffer in it was closed. -/
  attached : ∀ id ∈ d.list.ids, d.store.isAttached id

/-- No two buffers in the list have the same path. -/
def Apart (d : Documents) : Prop :=
  d.list.ids.Pairwise fun i j => (d.store.pathOf i == d.store.pathOf j) = false

instance (s : Store) : Std.Symm fun i j => (s.pathOf i == s.pathOf j) = false :=
  ⟨fun _ _ h => Path.beq_comm.trans h⟩

theorem Apart.ne (h : d.Apart) {i j : BufferId} (hi : i ∈ d.list.ids) (hj : j ∈ d.list.ids)
    (hne : i ≠ j) : (d.store.pathOf i == d.store.pathOf j) = false :=
  List.Pairwise.forall h hi hj hne

theorem Tidy.lt (h : d.Tidy) (hid : id ∈ d.list.ids) : id < d.store.buffers.length :=
  Store.lt_of_isAttached (h.attached id hid)

theorem Tidy.live (h : d.Tidy) : d.list.live d.store = d.list := by
  rw [OpenList.live, List.filter_eq_self.2 h.attached]

theorem Tidy.purge (h : d.Tidy) : d.purge = d := by
  rw [Documents.purge, h.live]

theorem Tidy.buffers (h : d.Tidy) : d.buffers = (d.list.ids, d) := by
  rw [Documents.buffers, read, h.purge, OpenList.buffers, h.live]

/-- What is found by its path is the first buffer in the list with it. -/
theorem Tidy.byPath (h : d.Tidy) (p : Path) :
    d.byPath p = (d.list.ids.find? fun id => d.store.pathOf id == p, d) := by
  rw [Documents.byPath, read, h.purge, OpenList.byPath, OpenList.buffers, h.live]

/-- The buffers are kept, and those in the list stay there. -/
structure Grows (d d' : Documents) : Prop where
  /-- The list stays tidy. -/
  tidy : d'.Tidy
  /-- The buffers are kept. -/
  keeps : d.store.Keeps d'.store
  /-- The open ones stay open. -/
  stays : ∀ id ∈ d.list.ids, id ∈ d'.list.ids

theorem Tidy.grows (h : d.Tidy) : d.Grows d := ⟨h, .refl d.store, fun _ hid => hid⟩

theorem Grows.trans (h : d.Grows d') (h' : d'.Grows d'') : d.Grows d'' :=
  ⟨h'.tidy, h.keeps.trans h'.keeps, fun id hid => h'.stays id (h.stays id hid)⟩

/-- What keeps the buffers leaves the list tidy. -/
theorem Tidy.grows_store (h : d.Tidy) (hs : d.store.Keeps s) : d.Grows { d with store := s } where
  tidy := ⟨h.nodup, fun id hid => (hs.isAttached (h.lt hid)).trans (h.attached id hid)⟩
  keeps := hs
  stays _ hid := hid

/-- What keeps the buffers leaves their paths apart. -/
theorem Apart.keeps (h : d.Apart) (htidy : d.Tidy) (hs : d.store.Keeps s) :
    { d with store := s }.Apart := by
  refine List.Pairwise.imp_of_mem (fun hi hj hne => ?_) h
  dsimp only
  rw [hs.pathOf (htidy.lt hi), hs.pathOf (htidy.lt hj)]
  exact hne

theorem mem_add (d : Documents) (id j : BufferId) :
    j ∈ (d.add id).2.list.ids ↔ j = id ∨ j ∈ d.list.ids := by
  rw [add, OpenList.add, List.mem_cons, List.mem_filter, bne_iff_ne]
  by_cases h : j = id <;> simp [h]

/-- An attached buffer can be put in, and brought to the front. -/
theorem Tidy.grows_add (h : d.Tidy) (hid : d.store.isAttached id) : d.Grows (d.add id).2 where
  tidy := by
    refine ⟨List.nodup_cons.2 ⟨?_, h.nodup.filter _⟩, fun j hj => ?_⟩
    · rw [List.mem_filter, not_and, bne_self_eq_false]
      exact fun _ => Bool.false_ne_true
    · rcases (mem_add d id j).1 hj with rfl | hj
      · exact hid
      · exact h.attached j hj
  keeps := .refl d.store
  stays j hj := (mem_add d id j).2 (.inr hj)

/-- **A buffer that is put in keeps the paths apart** exactly if no other has
its path. -/
theorem apart_add_iff (hid : id ∉ d.list.ids) :
    (d.add id).2.Apart ↔
      (∀ j ∈ d.list.ids, (d.store.pathOf j == d.store.pathOf id) = false) ∧ d.Apart := by
  have hothers : d.list.ids.filter (· != id) = d.list.ids :=
    List.filter_eq_self.2 fun j hj => bne_iff_ne.2 fun heq => hid (heq ▸ hj)
  rw [Apart, add, OpenList.add, hothers, List.pairwise_cons]
  refine and_congr_left' (forall₂_congr fun j _ => ?_)
  rw [Path.beq_comm]

/-- The buffers are kept, and if the paths of the open ones are apart they
stay so. -/
structure GrowsApart (d d' : Documents) : Prop extends Grows d d' where
  /-- The paths stay apart. -/
  apart : d.Apart → d'.Apart

theorem Tidy.growsApart (h : d.Tidy) : d.GrowsApart d := ⟨h.grows, id⟩

theorem GrowsApart.trans (h : d.GrowsApart d') (h' : d'.GrowsApart d'') : d.GrowsApart d'' :=
  ⟨h.toGrows.trans h'.toGrows, fun hapart => h'.apart (h.apart hapart)⟩

theorem Tidy.growsApart_store (h : d.Tidy) (hs : d.store.Keeps s) :
    d.GrowsApart { d with store := s } :=
  ⟨h.grows_store hs, fun hapart => hapart.keeps h hs⟩

/-- An open buffer can be brought to the front. -/
theorem Tidy.growsApart_add (h : d.Tidy) (hid : id ∈ d.list.ids) : d.GrowsApart (d.add id).2 := by
  refine ⟨h.grows_add (h.attached id hid), fun hapart => List.pairwise_cons.2 ⟨?_, ?_⟩⟩
  · intro j hj
    obtain ⟨hj, hne⟩ := List.mem_filter.1 hj
    exact hapart.ne hid hj (Ne.symm (bne_iff_ne.1 hne))
  · exact hapart.sublist List.filter_sublist

/-- A new buffer is made and put in. -/
def enter (d : Documents) (b : Buffer) : Documents :=
  ({ d with store := (d.store.insert b).2 }.add (d.store.insert b).1).2

theorem Tidy.grows_enter (h : d.Tidy) {b : Buffer} (hattached : b.attached) :
    d.Grows (d.enter b) := by
  have hinsert := h.grows_store (d.store.keeps_insert b)
  refine hinsert.trans (hinsert.tidy.grows_add ?_)
  exact (Store.isAttached_eq (d.store.buffer?_insert_self b)).trans hattached

/-- **A new buffer keeps the paths apart** exactly if no open one has its
path. -/
theorem Apart.enter_iff (hapart : d.Apart) (h : d.Tidy) (b : Buffer) :
    (d.enter b).Apart ↔ ∀ j ∈ d.list.ids, (d.store.pathOf j == b.path) = false := by
  have hkeeps := d.store.keeps_insert b
  have hnew : (d.store.insert b).1 ∉ { d with store := (d.store.insert b).2 }.list.ids :=
    fun hmem => Nat.lt_irrefl _ (h.lt hmem)
  rw [enter, apart_add_iff hnew, and_iff_left (hapart.keeps h hkeeps)]
  refine forall₂_congr fun j hj => ?_
  dsimp only
  rw [Store.pathOf_eq (d.store.buffer?_insert_self b), hkeeps.pathOf (h.lt hj)]

end Documents

/-! ## Saving in turn -/

namespace OpenList

variable {σ τ : Type} {save : BufferId → σ → Except DocumentError Unit × σ}
  {after : BufferId → σ → σ} {ids front back : List BufferId} {id : BufferId} {x y : σ}
  {e : DocumentError}

/-- The state after buffers had their turns. -/
def turns (save : BufferId → σ → Except DocumentError Unit × σ) (after : BufferId → σ → σ)
    (ids : List BufferId) (x : σ) : σ :=
  ids.foldl (fun x id => after id (save id x).2) x

/-- Every buffer is saved when its turn comes. -/
def AllSaved (save : BufferId → σ → Except DocumentError Unit × σ) (after : BufferId → σ → σ)
    (ids : List BufferId) (x : σ) : Prop :=
  ∀ front id back, ids = front ++ id :: back → (save id (turns save after front x)).1 = .ok ()

theorem allSaved_nil : AllSaved save after [] x := by
  intro front id back h
  cases front <;> cases h

theorem allSaved_cons_iff : AllSaved save after (id :: ids) x ↔
    (save id x).1 = .ok () ∧ AllSaved save after ids (after id (save id x).2) := by
  constructor
  · exact fun h => ⟨h [] id ids rfl, fun front j back hids => h (id :: front) j back (by
      rw [hids, List.cons_append])⟩
  · rintro ⟨hfirst, hrest⟩ front j back hids
    cases front with
    | nil =>
      cases hids
      exact hfirst
    | cons k front =>
      cases hids
      exact hrest front j back rfl

/-- Buffers in front of others do not wait for these. -/
theorem AllSaved.of_append (h : AllSaved save after (front ++ back) x) :
    AllSaved save after front x :=
  fun f id b hfront => h f id (b ++ back) (by rw [hfront, List.append_assoc, List.cons_append])

/-- **Saving goes to the end** if every buffer is saved. -/
theorem saveEach_eq_ok (h : AllSaved save after ids x) :
    saveEach save after ids x = (.ok (), ids, turns save after ids x) := by
  induction ids generalizing x with
  | nil => rfl
  | cons id ids ih =>
    obtain ⟨hfirst, hrest⟩ := allSaved_cons_iff.1 h
    rcases hsave : save id x with ⟨e | u, x'⟩
    · rw [hsave] at hfirst
      cases hfirst
    · rw [hsave] at hrest
      rw [saveEach, hsave]
      dsimp only
      rw [ih hrest, turns, turns, List.foldl_cons, hsave]

/-- **Saving stops at the first failure.** -/
theorem saveEach_eq_error (h : AllSaved save after front x)
    (hfail : save id (turns save after front x) = (.error e, y)) (back : List BufferId) :
    saveEach save after (front ++ id :: back) x = (.error e, front, y) := by
  induction front generalizing x with
  | nil =>
    rw [turns, List.foldl_nil] at hfail
    rw [List.nil_append, saveEach, hfail]
  | cons j front ih =>
    obtain ⟨hfirst, hrest⟩ := allSaved_cons_iff.1 h
    rcases hsave : save j x with ⟨e' | u, x'⟩
    · rw [hsave] at hfirst
      cases hfirst
    · rw [turns, List.foldl_cons, hsave] at hfail
      rw [hsave] at hrest
      rw [List.cons_append, saveEach, hsave]
      dsimp only
      rw [ih hrest hfail]

/-- Every buffer is saved, or there is a first failure. -/
theorem allSaved_or_exists_failure (save : BufferId → σ → Except DocumentError Unit × σ)
    (after : BufferId → σ → σ) (ids : List BufferId) (x : σ) :
    AllSaved save after ids x ∨
      ∃ front id back e y, ids = front ++ id :: back ∧ AllSaved save after front x ∧
        save id (turns save after front x) = (.error e, y) := by
  induction ids generalizing x with
  | nil => exact .inl allSaved_nil
  | cons id ids ih =>
    rcases hsave : save id x with ⟨e | u, x'⟩
    · exact .inr ⟨[], id, ids, e, x', rfl, allSaved_nil, hsave⟩
    · have hfirst : (save id x).1 = .ok () := by rw [hsave]
      rcases ih (after id (save id x).2) with hall | ⟨front, j, back, e, y, hids, hfront, hfail⟩
      · exact .inl (allSaved_cons_iff.2 ⟨hfirst, hall⟩)
      · exact .inr ⟨id :: front, j, back, e, y, by rw [hids, List.cons_append],
          allSaved_cons_iff.2 ⟨hfirst, hfront⟩, hfail⟩

/-- **What every turn keeps** is kept to the end. -/
theorem saveEach_keeps {P : σ → Prop} (hsave : ∀ id x, P x → P (save id x).2)
    (hafter : ∀ id x, P x → P (after id x)) (ids : List BufferId) (h : P x) :
    P (saveEach save after ids x).2.2 := by
  induction ids generalizing x with
  | nil => exact h
  | cons id ids ih =>
    have hfirst := hsave id x h
    rw [saveEach]
    split
    · next e x' heq =>
      rw [heq] at hfirst
      exact hfirst
    · next x' heq =>
      rw [heq] at hfirst
      exact ih (hafter id x' hfirst)

/-- Saving in turn is the same within a larger state. -/
theorem saveEach_map {save' : BufferId → τ → Except DocumentError Unit × τ}
    {after' : BufferId → τ → τ} (g : σ → τ)
    (hsave : ∀ id x, save' id (g x) = ((save id x).1, g (save id x).2))
    (hafter : ∀ id x, after' id (g x) = g (after id x)) (ids : List BufferId) (x : σ) :
    saveEach save' after' ids (g x) =
      ((saveEach save after ids x).1, (saveEach save after ids x).2.1,
        g (saveEach save after ids x).2.2) := by
  induction ids generalizing x with
  | nil => rfl
  | cons id ids ih =>
    rw [saveEach, saveEach, hsave]
    rcases save id x with ⟨e | u, x'⟩
    · rfl
    · dsimp only
      rw [hafter, ih]

end OpenList

end CodeDesk
