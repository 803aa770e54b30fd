import CodeDesk.Find.Replacer
import CodeDesk.Proofs.Document.Open
/-!
# Targets — the buffers in which matches are replaced

A replacer replaces a match in the buffer that was searched in place of the
file, if there was one, and otherwise in the one it gets from an opener.
`targets` lists these buffers, one for each replacement that is counted
(`length_targets`). A buffer in which a match was replaced has unsaved
changes from then on (`Store.Edits`), and nothing but that buffer changes
(`Store.EditsAt`). While everything is replaced each target is an open
document or one that the search has brought along (`replaceFiles_spec`).
-/

namespace CodeDesk

/-! ## Edits -/

namespace Store

variable {s s' s'' : Store} {id j : BufferId} {b : Buffer}

/-- Every buffer is kept, and none is saved. -/
structure Edits (s s' : Store) : Prop where
  /-- The buffers are kept. -/
  keeps : s.Keeps s'
  /-- What has unsaved changes still has some. -/
  dirty : ∀ id, s.isDirty id → s'.isDirty id

theorem Edits.refl (s : Store) : s.Edits s := ⟨.refl s, fun _ h => h⟩

theorem Edits.trans (h : s.Edits s') (h' : s'.Edits s'') : s.Edits s'' :=
  ⟨h.keeps.trans h'.keeps, fun id hid => h'.dirty id (h.dirty id hid)⟩

theorem exists_of_isDirty (h : s.isDirty id) : ∃ b, s.buffer? id = some b ∧ b.dirty := by
  rw [isDirty] at h
  split at h
  · next b hb => exact ⟨b, hb, h⟩
  · cases h

theorem edits_put (hb : s.buffer? id = some b) {b' : Buffer} (hpath : b'.path = b.path)
    (hattached : b'.attached = b.attached) (hdirty : b.dirty → b'.dirty) :
    s.Edits (s.put id b') := by
  refine ⟨keeps_put hb hpath hattached, fun j hj => ?_⟩
  obtain ⟨c, hc, hcdirty⟩ := exists_of_isDirty hj
  by_cases hjid : j = id
  · rw [hjid, hb, Option.some.injEq] at hc
    rw [hjid, isDirty_eq (buffer?_put_self (lt_of_buffer? hb))]
    exact hdirty (hc ▸ hcdirty)
  · rw [isDirty_eq ((buffer?_put_of_ne hjid).trans hc)]
    exact hcdirty

theorem edits_highlight (s : Store) (id : BufferId) (rs : List Region) :
    s.Edits (s.highlight id rs) := by
  rw [highlight, modify]
  split
  · next b hb => exact edits_put hb rfl rfl fun h => h
  · exact .refl s

theorem edits_insert (s : Store) (b : Buffer) : s.Edits (s.insert b).2 := by
  refine ⟨s.keeps_insert b, fun id hid => ?_⟩
  obtain ⟨c, hc, hdirty⟩ := exists_of_isDirty hid
  rw [isDirty_eq ((List.getElem?_append_left (lt_of_buffer? hc)).trans hc)]
  exact hdirty

/-- Nothing changes but one buffer. -/
structure EditsAt (id : BufferId) (s s' : Store) : Prop where
  /-- The buffers are kept. -/
  keeps : s.Keeps s'
  /-- The others are as they were. -/
  others : ∀ j, j ≠ id → s'.buffer? j = s.buffer? j
  /-- There is no new one. -/
  length : s'.buffers.length = s.buffers.length
  /-- The files are those there were. -/
  entries : s'.disk.entries = s.disk.entries
  /-- Relative paths start from where they did. -/
  cwd : s'.disk.cwd = s.disk.cwd

theorem EditsAt.refl (id : BufferId) (s : Store) : EditsAt id s s :=
  ⟨.refl s, fun _ _ => rfl, rfl, rfl, rfl⟩

theorem EditsAt.trans (h : EditsAt id s s') (h' : EditsAt id s' s'') : EditsAt id s s'' :=
  ⟨h.keeps.trans h'.keeps, fun j hj => (h'.others j hj).trans (h.others j hj),
    h'.length.trans h.length, h'.entries.trans h.entries, h'.cwd.trans h.cwd⟩

theorem editsAt_highlight (s : Store) (id : BufferId) (rs : List Region) :
    EditsAt id s (s.highlight id rs) := by
  refine ⟨keeps_highlight s id rs, fun j hj => buffer?_highlight_of_ne hj rs, ?_, ?_, ?_⟩ <;>
    rw [highlight, modify] <;> split
  · exact List.length_set
  all_goals rfl

/-- A replacement changes one buffer, and the time. -/
theorem editsAt_replace {region : Region} {text : String} {keepCase : Bool} {e : TextEdit}
    (h : s.replace id region text keepCase = .ok (e, s')) : EditsAt id s s' := by
  have hkeeps := keeps_replace h
  have hothers := fun j (hj : j ≠ id) => buffer?_replace_of_ne hj h
  obtain ⟨b, new, -, rfl⟩ := replace_inv h
  exact ⟨hkeeps, hothers, List.length_set, rfl, rfl⟩

/-- A buffer has unsaved changes after a replacement. -/
theorem edits_replace {region : Region} {text : String} {keepCase : Bool} {e : TextEdit}
    (h : s.replace id region text keepCase = .ok (e, s')) : s.Edits s' ∧ s'.isDirty id := by
  obtain ⟨b, new, hb, rfl⟩ := replace_inv h
  have hb' : s.tick.2.buffer? id = some b := hb
  have hput : s.tick.2.Edits (s.tick.2.put id (b.setText s.tick.1 new)) :=
    edits_put hb' rfl rfl fun _ => rfl
  exact ⟨⟨keeps_replace h, hput.dirty⟩, isDirty_eq (buffer?_put_self (lt_of_buffer? hb'))⟩

end Store

namespace Documents

variable {d d' d'' : Documents} {s : Store}

/-- The documents stay, and apart, and none is saved. -/
structure Edits (d d' : Documents) : Prop extends GrowsApart d d' where
  /-- None is saved. -/
  edits : d.store.Edits d'.store

theorem Tidy.edits (h : d.Tidy) : d.Edits d := ⟨h.growsApart, .refl d.store⟩

theorem Edits.trans (h : d.Edits d') (h' : d'.Edits d'') : d.Edits d'' :=
  ⟨h.toGrowsApart.trans h'.toGrowsApart, h.edits.trans h'.edits⟩

theorem Tidy.edits_store (h : d.Tidy) (hs : d.store.Edits s) : d.Edits { d with store := s } :=
  ⟨h.growsApart_store hs.keeps, hs⟩

end Documents

namespace Find
namespace Replacer

variable {r r' : Replacer} {l : Link} {f : FileResult} {id j : BufferId} {s s' : Store}
  {d d' : Documents} {answer : Bool} {n : Nat} {out : Except FindError Unit} {opener : Opener}

/-! ## Replacements -/

/-- What a call for a match does: nothing, or a replacement in the buffer. -/
theorem replace_inv (h : r.replace l id s = .ok (answer, r', s')) :
    (answer = false ∧ r' = r ∧ s' = s) ∨
      (answer = true ∧ ∃ region text keepCase edit,
        s.replace id region text keepCase = .ok (edit, s') ∧ r' = r.advance l edit) := by
  rw [replace] at h
  split at h
  · cases h
    exact .inl ⟨rfl, rfl, rfl⟩
  · dsimp only at h
    split at h
    · cases h
      exact .inl ⟨rfl, rfl, rfl⟩
    · split at h
      · cases h
        exact .inl ⟨rfl, rfl, rfl⟩
      · split at h
        · cases h
        · next edit s₁ hreplace =>
          cases h
          exact .inr ⟨rfl, _, _, _, edit, hreplace, rfl⟩

theorem edits_replace (h : r.replace l id s = .ok (answer, r', s')) :
    s.Edits s' ∧ (answer → s'.isDirty id) := by
  rcases replace_inv h with ⟨rfl, rfl, rfl⟩ | ⟨rfl, region, text, keepCase, edit, hreplace, rfl⟩
  · exact ⟨.refl s', fun hno => absurd hno Bool.false_ne_true⟩
  · exact ⟨(Store.edits_replace hreplace).1, fun _ => (Store.edits_replace hreplace).2⟩

/-- A call changes its buffer and nothing else. -/
theorem editsAt_replace (h : r.replace l id s = .ok (answer, r', s')) : Store.EditsAt id s s' := by
  rcases replace_inv h with ⟨-, -, rfl⟩ | ⟨-, region, text, keepCase, edit, hreplace, -⟩
  · exact .refl id s'
  · exact Store.editsAt_replace hreplace

/-- A call changes the text of its buffer, and only if it answers yes. -/
theorem textOf_replace (h : r.replace l id s = .ok (answer, r', s'))
    (hj : answer → j ≠ id) : s'.textOf j = s.textOf j := by
  rcases replace_inv h with ⟨-, -, rfl⟩ | ⟨rfl, region, text, keepCase, edit, hreplace, -⟩
  · rfl
  · rw [Store.textOf, Store.textOf, Store.buffer?_replace_of_ne (hj rfl) hreplace]

/-- A replacement from a line of the view is a replacement and no more. -/
theorem replaceAt_spec {v v' : View} {line : Nat}
    (h : r.replaceAt v line id s = .ok (answer, r', v', s')) :
    s.Edits s' ∧ (answer → s'.isDirty id) ∧
      ∀ j, (answer → j ≠ id) → s'.textOf j = s.textOf j := by
  rw [replaceAt] at h
  split at h
  · cases h
  · next l _ =>
    split at h
    · cases h
    · next replaced r₁ s₁ hreplace =>
      cases h
      obtain ⟨hedits, hdirty⟩ := edits_replace hreplace
      have hshow := s₁.edits_highlight id (r'.highlights l.path)
      refine ⟨hedits.trans hshow, fun hyes => hshow.dirty id (hdirty hyes), fun j hj => ?_⟩
      rw [Store.textOf_highlight, textOf_replace hreplace hj]

/-! ## Targets -/

/-- The buffers of the matches of files that are replaced, one for each. -/
def targets (opener : Opener) : List FileResult → Replacer → Documents → List BufferId
  | [], _, _ => []
  | f :: fs, r, d =>
    match bufferFor opener f d with
    | (.error _, _) => []
    | (.ok id, d) =>
      match replaceRegions f id f.regions r d.store with
      | (n, .error _, _, _) => List.replicate n id
      | (n, .ok (), r, s) =>
        List.replicate n id ++ targets opener fs r { d with store := s.highlight id [] }

/-- **There is one target for each replacement that is counted.** -/
theorem length_targets (opener : Opener) (fs : List FileResult) (r : Replacer) (d : Documents) :
    (targets opener fs r d).length = (replaceFiles opener fs r d).1 := by
  induction fs generalizing r d with
  | nil => rfl
  | cons f fs ih =>
    simp only [targets, replaceFiles]
    rcases bufferFor opener f d with ⟨e | id, d₁⟩
    · rfl
    · dsimp only
      rcases replaceRegions f id f.regions r d₁.store with ⟨n, e | u, r₁, s₁⟩
      · exact List.length_replicate
      · dsimp only
        rw [List.length_append, List.length_replicate, ih]

/-- Replacing the matches of a file gives its buffer unsaved changes. -/
theorem replaceRegions_spec {rs : List Region}
    (h : replaceRegions f id rs r s = (n, out, r', s')) : s.Edits s' ∧ (n ≠ 0 → s'.isDirty id) := by
  induction rs generalizing r s n with
  | nil =>
    cases h
    exact ⟨.refl _, fun hne => absurd rfl hne⟩
  | cons region rs ih =>
    rw [replaceRegions] at h
    split at h
    · cases h
      exact ⟨.refl _, fun hne => absurd rfl hne⟩
    · next replaced r₁ s₁ heq =>
      obtain ⟨hfirst, hdirty⟩ := edits_replace heq
      cases hrest : replaceRegions f id rs r₁ s₁ with
      | mk m rest =>
        obtain ⟨out₁, r₂, s₂⟩ := rest
        rw [hrest] at h
        cases h
        obtain ⟨hedits, hmore⟩ := ih hrest
        refine ⟨hfirst.trans hedits, fun hne => ?_⟩
        cases replaced with
        | true => exact hedits.dirty id (hdirty rfl)
        | false => exact hmore fun hm => hne (by rw [hm]; rfl)

/-- Replacing the matches of a file changes no other text. -/
theorem textOf_replaceRegions {rs : List Region}
    (h : replaceRegions f id rs r s = (n, out, r', s')) (hj : n ≠ 0 → j ≠ id) :
    s'.textOf j = s.textOf j := by
  induction rs generalizing r s n with
  | nil =>
    cases h
    rfl
  | cons region rs ih =>
    rw [replaceRegions] at h
    split at h
    · cases h
      rfl
    · next replaced r₁ s₁ heq =>
      cases hrest : replaceRegions f id rs r₁ s₁ with
      | mk m rest =>
        obtain ⟨out₁, r₂, s₂⟩ := rest
        rw [hrest] at h
        cases h
        have hfirst := textOf_replace (j := j) heq fun hyes => hj (by rw [hyes]; simp)
        exact (ih hrest fun hm => hj (by omega)).trans hfirst

/-- An opener gives an open document, and leaves the others alone. -/
structure GivesOpen (opener : Opener) : Prop where
  /-- The documents stay. -/
  edits : ∀ (p : Path) (d : Documents), d.Tidy → d.Edits (opener p d).2
  /-- The buffer is open. -/
  mem : ∀ (p : Path) (d : Documents), d.Tidy → ∀ id, (opener p d).1 = .ok id →
    id ∈ (opener p d).2.list.ids
  /-- The texts stay. -/
  text : ∀ (p : Path) (d : Documents), d.Tidy → ∀ j < d.store.buffers.length,
    (opener p d).2.store.textOf j = d.store.textOf j

theorem bufferFor_spec (hopener : GivesOpen opener) (h : d.Tidy) (f : FileResult) :
    d.Edits (bufferFor opener f d).2 ∧ ∀ id, (bufferFor opener f d).1 = .ok id →
      id ∈ (bufferFor opener f d).2.list.ids ∨ f.buffer = some id := by
  rw [bufferFor]
  split
  · next id hbuffer =>
    refine ⟨h.edits, fun j hj => .inr ?_⟩
    rw [hbuffer, Except.ok.inj hj]
  · exact ⟨hopener.edits f.path d h, fun id hid => .inl (hopener.mem f.path d h id hid)⟩

theorem edits_of_replaceFiles (hopener : GivesOpen opener) (h : d.Tidy) {fs : List FileResult}
    (hrun : replaceFiles opener fs r d = (n, out, r', d')) :
    d.Edits d' ∧ ∀ j ∈ targets opener fs r d, d'.store.isDirty j ∧
      (j ∈ d'.list.ids ∨ ∃ f ∈ fs, f.buffer = some j) := by
  induction fs generalizing r d n with
  | nil =>
    cases hrun
    exact ⟨h.edits, fun _ hj => absurd hj List.not_mem_nil⟩
  | cons f fs ih =>
    obtain ⟨hopens, hid⟩ := bufferFor_spec hopener h f
    simp only [replaceFiles] at hrun
    simp only [targets]
    rcases hbuffer : bufferFor opener f d with ⟨e | id, d₁⟩
    · rw [hbuffer] at hrun hopens
      cases hrun
      exact ⟨hopens, fun _ hj => absurd hj List.not_mem_nil⟩
    · rw [hbuffer] at hrun hopens hid
      dsimp only at hrun hopens hid ⊢
      -- The buffer of this file, while its matches are replaced and behind them.
      have hthis : ∀ {m out₁ r₁ s₁}, replaceRegions f id f.regions r d₁.store = (m, out₁, r₁, s₁) →
          ∀ {s₂ : Store}, s₁.Edits s₂ → d.Edits { d₁ with store := s₂ } ∧
            ∀ j ∈ List.replicate m id, s₂.isDirty j ∧
              (j ∈ d₁.list.ids ∨ ∃ g ∈ f :: fs, g.buffer = some j) := by
        intro m out₁ r₁ s₁ hregions s₂ hbehind
        obtain ⟨hedits, hdirty⟩ := replaceRegions_spec hregions
        refine ⟨hopens.trans (hopens.tidy.edits_store (hedits.trans hbehind)), fun j hj => ?_⟩
        obtain ⟨hm, rfl⟩ := List.mem_replicate.1 hj
        exact ⟨hbehind.dirty j (hdirty hm),
          (hid j rfl).imp_right fun hf => ⟨f, List.mem_cons_self, hf⟩⟩
      rcases hregions : replaceRegions f id f.regions r d₁.store with ⟨m, e | u, r₁, s₁⟩
      · rw [hregions] at hrun
        cases hrun
        exact hthis hregions (.refl s₁)
      · rw [hregions] at hrun
        obtain ⟨hfile, hdirty⟩ := hthis hregions (s₁.edits_highlight id [])
        rcases hrest : replaceFiles opener fs r₁ { d₁ with store := s₁.highlight id [] } with
          ⟨m₂, out₂, r₂, d₂⟩
        dsimp only at hrun
        rw [hrest] at hrun
        cases hrun
        obtain ⟨hedits, htargets⟩ := ih hfile.tidy hrest
        refine ⟨hfile.trans hedits, fun j hj => ?_⟩
        rcases List.mem_append.1 hj with hj | hj
        · obtain ⟨hjdirty, hplace⟩ := hdirty j hj
          exact ⟨hedits.edits.dirty j hjdirty, hplace.imp_left (hedits.stays j)⟩
        · obtain ⟨hjdirty, hplace⟩ := htargets j hj
          refine ⟨hjdirty, hplace.imp_right fun ⟨g, hg, hbuffer⟩ => ?_⟩
          exact ⟨g, List.mem_cons_of_mem f hg, hbuffer⟩

/-- **Replacing everything** gives each target unsaved changes, and each is an
open document or was searched in place of a file. -/
theorem replaceFiles_spec (hopener : GivesOpen opener) (h : d.Tidy) (fs : List FileResult)
    (r : Replacer) :
    d.Edits (replaceFiles opener fs r d).2.2.2 ∧
      ∀ j ∈ targets opener fs r d, (replaceFiles opener fs r d).2.2.2.store.isDirty j ∧
        (j ∈ (replaceFiles opener fs r d).2.2.2.list.ids ∨ ∃ f ∈ fs, f.buffer = some j) :=
  edits_of_replaceFiles hopener h rfl

/-- **Replacing everything changes no text but those of the targets.** -/
theorem textOf_replaceFiles (hopener : GivesOpen opener) (h : d.Tidy) {fs : List FileResult}
    (hj : j < d.store.buffers.length) (hnot : j ∉ targets opener fs r d) :
    (replaceFiles opener fs r d).2.2.2.store.textOf j = d.store.textOf j := by
  induction fs generalizing r d with
  | nil => rfl
  | cons f fs ih =>
    have hopens := (bufferFor_spec hopener h f).1
    have hbuffered : (bufferFor opener f d).2.store.textOf j = d.store.textOf j := by
      rw [bufferFor]
      split
      · rfl
      · exact hopener.text f.path d h j hj
    simp only [targets] at hnot
    simp only [replaceFiles]
    rcases hbuffer : bufferFor opener f d with ⟨e | id, d₁⟩
    · rw [hbuffer] at hbuffered
      exact hbuffered
    · rw [hbuffer] at hopens hbuffered hnot
      dsimp only at hopens hbuffered hnot ⊢
      rcases hregions : replaceRegions f id f.regions r d₁.store with ⟨m, e | u, r₁, s₁⟩
      · rw [hregions] at hnot
        refine (textOf_replaceRegions hregions fun hm heq => hnot ?_).trans hbuffered
        exact List.mem_replicate.2 ⟨hm, heq⟩
      · rw [hregions, List.mem_append, not_or] at hnot
        have htext := textOf_replaceRegions hregions fun hm heq =>
          hnot.1 (List.mem_replicate.2 ⟨hm, heq⟩)
        have hedits := (replaceRegions_spec hregions).1.trans (s₁.edits_highlight id [])
        have hfile := hopens.trans (hopens.tidy.edits_store hedits)
        have hrest := ih hfile.tidy (Nat.lt_of_lt_of_le hj hfile.keeps.length_le) hnot.2
        dsimp only at hrest ⊢
        rw [hrest, Store.textOf_highlight, htext, hbuffered]

end Replacer
end Find
end CodeDesk
