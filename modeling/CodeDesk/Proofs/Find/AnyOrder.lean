import CodeDesk.Proofs.Desk.Session
import CodeDesk.Proofs.Find.Replacing
import Mathlib.Data.List.Find
/-!
# Any order — replacing the matches of a search

The main result on replacing. From the results of a search for a plain
text, any sequence of calls for the matches of one file leaves the text
with exactly the matches it asked for exchanged, all of them as if at once,
and the highlights on exactly the matches that are pending
(`replaceEach_any_order`). What is still pending then is what replacing
everything counts, whether the other files are in buffers already or are
opened for it. A desk opens them as the result asks for, as long as they
still have the text that was searched (`opens_opener`).
-/

namespace CodeDesk
namespace Find

open Regex Replacer

/-- The matches that are `done` were replaced in a file whose text was
`text`, and nothing else happened to it. -/
structure Replaced (req : Request) (f : FileResult) (id : BufferId) (text : String)
    (done : List Region) (r : Replacer) (s : Store) : Prop where
  /-- The matches are the leftmost occurrences that do not overlap. -/
  regions : f.regions =
    regionsOf text.toList (occurrences (setsOf req.ignoreCase req.pattern) text.toList)
  /-- The text has the replaced matches exchanged, and all else as it was. -/
  content : (s.textOf id).toList =
    textOf (exchanged req.newText done ⟨0, 0⟩ (req.cut text).1) ++ (req.cut text).2
  /-- The highlights are on the pending matches. -/
  highlights : r.highlights f.path =
    pendingAt req.newText done ⟨0, 0⟩ ⟨0, 0⟩ (req.cut text).1
  /-- Each of them covers the characters of its match. -/
  covers : (r.highlights f.path).map (·.slice? (s.textOf id).toList) =
    (pendingPieces done ⟨0, 0⟩ (req.cut text).1).map fun x => some x.found

section AnyOrder

variable {req : Request} {sc : Scope} {cancelled : Bool} {s₀ s : Store} {res : Results}
  {f : FileResult} {front back : List FileResult} {r : Replacer} {id : BufferId} {b : Buffer}
  {text : String} {done : List Region}

/-- A replacer in step with a buffer has replaced what is done. -/
theorem InStep.replaced (h : InStep req f.path id text done r s)
    (hregions : f.regions = regionsAt ⟨0, 0⟩ (req.cut text).1) :
    Replaced req f id text done r s := by
  obtain ⟨b, hb, htext⟩ := h.text
  have hnow := htext
  rw [← Store.textOf_eq hb] at hnow
  refine ⟨?_, hnow, h.highlights, ?_⟩
  · rw [hregions, regionsOf, regionsFrom_eq]
    rfl
  · rw [h.highlights, hnow]
    exact slice?_pendingAt [] _ rfl _

/-- The results of a search for a plain text have a replacer. -/
theorem ofResults_literal (hfind : find s₀ req sc cancelled = .ok res) (hlit : req.isRegex = false)
    (hf : f ∈ res.files) : ∃ r, ofResults res = .ok r ∧ ForText req r := by
  obtain ⟨hreq, -⟩ := mem_files hfind hf
  refine ⟨⟨req, literal req.ignoreCase req.pattern, trackAll res.files⟩, ?_, rfl, rfl⟩
  rw [ofResults, hreq, program_literal hlit]

/-- **A new replacer is ready** for a file whose buffer, if it has one, has the
text that was searched. -/
theorem ready_ofResults (hfind : find s₀ req sc cancelled = .ok res) (hlit : req.isRegex = false)
    (hr : ofResults res = .ok r) (hfiles : res.files = front ++ f :: back)
    (hlast : ∀ g ∈ back, (g.path == f.path) = false)
    (htext : ∀ b, s.buffer? id = some b → b.text = searchedText s₀ f) :
    Ready req f.path id (searchedText s₀ f) [] r s := by
  have hf : f ∈ res.files := hfiles ▸ List.mem_append_right front List.mem_cons_self
  refine ⟨?_, fun b hb => ?_, fun _ => rfl⟩
  · rw [tracked_ofResults hr hfiles hlast, track, (regions_literal hfind hlit hf).2, trackAt_start]
  · rw [exchanged_nil, htext b hb]
    exact (textOf_cutFrom _ _ _).symm

/-- Two files of the results have different paths and different buffers. -/
theorem Opens.apart_of_ne {opener : Opener} {ids : FileResult → BufferId}
    {texts : FileResult → String} {fs : List FileResult} {d : Documents}
    (h : Opens opener ids texts fs d) {g : FileResult} (hf : f ∈ fs) (hg : g ∈ fs) (hne : f ≠ g) :
    (f.path == g.path) = false ∧ ids f ≠ ids g := by
  obtain ⟨-, hapart⟩ := h
  induction fs with
  | nil => simp at hf
  | cons x fs ih =>
    obtain ⟨hx, hrest⟩ := List.pairwise_cons.1 hapart
    rcases List.mem_cons.1 hf with rfl | hf'
    · rcases List.mem_cons.1 hg with rfl | hg'
      · exact absurd rfl hne
      · exact hx g hg'
    · rcases List.mem_cons.1 hg with rfl | hg'
      · obtain ⟨hpath, hids⟩ := hx f hf'
        exact ⟨by rw [Path.beq_comm]; exact hpath, Ne.symm hids⟩
      · exact ih hf' hg' hrest

/-- Where every file has a path of its own, each is the last one with its
path. -/
theorem Opens.exists_last {opener : Opener} {ids : FileResult → BufferId}
    {texts : FileResult → String} {fs : List FileResult} {d : Documents}
    (h : Opens opener ids texts fs d) (hf : f ∈ fs) :
    ∃ front back, fs = front ++ f :: back ∧ ∀ g ∈ back, (g.path == f.path) = false := by
  obtain ⟨front, back, rfl⟩ := List.append_of_mem hf
  refine ⟨front, back, rfl, fun g hg => ?_⟩
  obtain ⟨-, hback, -⟩ := List.pairwise_append.1 h.apart
  rw [Path.beq_comm]
  exact ((List.pairwise_cons.1 hback).1 g hg).1

/-- **After calls for one file the replacer is ready for every file.** Only
that file has matches that were replaced. -/
theorem ready_replaceEach (hfind : find s₀ req sc cancelled = .ok res) (hlit : req.isRegex = false)
    (hr : ofResults res = .ok r) {links : List Link} {answers : List Bool} {r' : Replacer}
    {d : Documents} {opener : Opener} {ids : FileResult → BufferId} (hf : f ∈ res.files)
    (hlinks : ∀ l ∈ links, (l.path == f.path) = true)
    (hrun : replaceEach (ids f) links r s = .ok (answers, r', d.store))
    (hstep : InStep req f.path (ids f) (searchedText s₀ f) done r' d.store)
    (hopen : Opens opener ids (searchedText s₀) res.files d)
    (hothers : ∀ g ∈ res.files, g ≠ f → ∀ b, s.buffer? (ids g) = some b →
      b.text = searchedText s₀ g) {g : FileResult} (hg : g ∈ res.files) :
    Ready req g.path (ids g) (searchedText s₀ g) (if g = f then done else []) r' d.store := by
  by_cases hgf : g = f
  · subst hgf
    rw [if_pos rfl]
    exact hstep.ready
  · obtain ⟨front, back, hfiles, hlast⟩ := hopen.exists_last hg
    have hstart := ready_ofResults hfind hlit hr hfiles hlast (hothers g hg hgf)
    obtain ⟨hpath, hids⟩ := hopen.apart_of_ne hg hf hgf
    have htracked := tracked_replaceEach_of_ne hrun fun l hl => by
      rw [Path.beq_comm, Path.beq_congr (hlinks l hl), hpath]
    rw [if_neg hgf]
    exact hstart.elsewhere htracked ((editsAt_replaceEach hrun).others (ids g) hids)

/-- **The order of replacements does not matter.** After any sequence of
calls for the matches of a file, each match was replaced by the first call
for it and by no other, the text has exactly these matches exchanged, and
the highlights are on exactly the others. Replacing everything then
replaces and counts what is pending in any file, also in those that are
opened for it. -/
theorem replaceEach_any_order (hlit : req.isRegex = false)
    (hfind : find s₀ req sc cancelled = .ok res) (hfiles : res.files = front ++ f :: back)
    (hlast : ∀ g ∈ back, (g.path == f.path) = false) (hb : s.buffer? id = some b)
    (htext : b.text = searchedText s₀ f) {links : List Link}
    (hlinks : ∀ l ∈ links, (l.path == f.path) = true ∧ l.region ∈ f.regions) :
    ∃ r r' s', ofResults res = .ok r ∧
      replaceEach id links r s = .ok (firsts [] links, r', s') ∧
      Replaced req f id b.text (links.map (·.region)) r' s' ∧
      (∀ l ∈ links, r'.replace l id s' = .ok (false, r', s')) ∧
      ∀ (opener : Opener) (ids : FileResult → BufferId) (d : Documents), d.store = s' →
        ids f = id → Opens opener ids (searchedText s₀) res.files d →
        (∀ g ∈ res.files, g ≠ f → ∀ b, s.buffer? (ids g) = some b →
          b.text = searchedText s₀ g) →
        ∃ r'' d'', r'.replaceAll res opener d =
            (.ok (res.files.map fun g => (r'.highlights g.path).length).sum, r'', d'') ∧
          ∀ g ∈ res.files, Replaced req g (ids g) (searchedText s₀ g) g.regions r'' d''.store := by
  have hf : f ∈ res.files := hfiles ▸ List.mem_append_right front List.mem_cons_self
  obtain ⟨hsets, hregions⟩ := regions_literal hfind hlit hf
  obtain ⟨r, hr, hreq⟩ := ofResults_literal hfind hlit hf
  have hready : Ready req f.path id (searchedText s₀ f) [] r s :=
    ready_ofResults hfind hlit hr hfiles hlast fun b' hb' =>
      Option.some.inj (hb.symm.trans hb') ▸ htext
  have hstart := hready.inStep ⟨⟨b, hb, .inl hb⟩, fun _ _ => rfl⟩
  have hmem : ∀ l ∈ links, (l.path == f.path) = true ∧
      l.region ∈ regionsAt ⟨0, 0⟩ (req.cut (searchedText s₀ f)).1 := fun l hl =>
    ⟨(hlinks l hl).1, hregions ▸ (hlinks l hl).2⟩
  obtain ⟨r', s', hrun, hreq', hstep⟩ := replaceEach_inStep hreq hlit hsets hstart hmem
  rw [List.append_nil] at hstep
  refine ⟨r, r', s', hr, hrun, htext ▸ hstep.replaced hregions, fun l hl => ?_, ?_⟩
  · exact replace_done hstep (hmem l hl).1 (hmem l hl).2 (nodup_cut hsets _)
      (List.mem_map_of_mem hl)
  · rintro opener ids d rfl rfl hopen hothers
    have hall : ∀ g ∈ res.files, g.regions = regionsAt ⟨0, 0⟩ (req.cut (searchedText s₀ g)).1 :=
      fun g hg => (regions_literal hfind hlit hg).2
    obtain ⟨r'', d'', hrun'', hstep'', -⟩ := replaceFiles_inStep hreq' hlit hsets hopen hall
      fun g hg => ready_replaceEach hfind hlit hr hf (fun l hl => (hlinks l hl).1) hrun hstep hopen
        hothers hg
    refine ⟨r'', d'', ?_, fun g hg => ?_⟩
    · rw [replaceAll, hrun'']
      rfl
    · refine ((hstep'' g hg).congr fun x => ?_).replaced (hall g hg)
      -- The matches that were replaced before are matches of the file.
      rw [List.mem_append]
      refine ⟨fun hor => hor.elim (fun hin => hin) fun hin => ?_, Or.inl⟩
      split at hin
      · next hgf =>
        obtain ⟨l, hl, rfl⟩ := List.mem_map.1 hin
        exact hgf ▸ (hlinks l hl).2
      · exact absurd hin List.not_mem_nil

end AnyOrder

/-! ## Files that a desk opens -/

section Opening

variable {texts : FileResult → String} {fs : List FileResult} {f g : FileResult} {d : Documents}
  {s : Store} {id next : BufferId}

/-- The buffer that a desk has for a file of the results: the one that was
searched, or else an open one of its path. -/
def heldBy (d : Documents) (f : FileResult) : Option BufferId :=
  f.buffer.or (d.list.ids.find? fun id => d.store.pathOf id == f.path)

/-- The buffers of files, one file after the other: the one it has, or else
the next new one. -/
def idsFrom (held : FileResult → Option BufferId) :
    List FileResult → BufferId → FileResult → BufferId
  | [], next, _ => next
  | f :: fs, next, g =>
    if g = f then (held f).getD next
    else idsFrom held fs (if (held f).isSome then next else next + 1) g

/-- Files that a desk has or can open as they were searched. -/
structure Openable (texts : FileResult → String) (fs : List FileResult) (d : Documents) :
    Prop where
  /-- The list of the open documents is tidy. -/
  tidy : d.Tidy
  /-- Each file has a path of its own. -/
  apart : fs.Pairwise fun f g => (f.path == g.path) = false
  /-- A buffer that was searched belongs to its file. -/
  searched : ∀ f ∈ fs, ∀ id, f.buffer = some id →
    id < d.store.buffers.length ∧ (d.store.pathOf id == f.path) = true
  /-- A file without a buffer has the text that was searched. -/
  closed : ∀ f ∈ fs, heldBy d f = none →
    ∃ bytes, d.store.disk.read f.path = .ok bytes ∧ Utf8.decodeLossy bytes = texts f

theorem Openable.tail (h : Openable texts (f :: fs) d) : Openable texts fs d where
  tidy := h.tidy
  apart := (List.pairwise_cons.1 h.apart).2
  searched g hg := h.searched g (List.mem_cons_of_mem f hg)
  closed g hg := h.closed g (List.mem_cons_of_mem f hg)

/-- What a desk has for a file is there, and belongs to it. -/
theorem Openable.held (h : Openable texts fs d) (hf : f ∈ fs) (hheld : heldBy d f = some id) :
    id < d.store.buffers.length ∧ (d.store.pathOf id == f.path) = true := by
  rw [heldBy] at hheld
  cases hbuffer : f.buffer with
  | some j =>
    rw [hbuffer] at hheld
    cases hheld
    exact h.searched f hf id hbuffer
  | none =>
    rw [hbuffer] at hheld
    have hfind : (d.list.ids.find? fun id => d.store.pathOf id == f.path) = some id := hheld
    have hpath := List.find?_some (p := fun id => d.store.pathOf id == f.path) hfind
    exact ⟨h.tidy.lt (List.mem_of_find?_eq_some hfind), hpath⟩

/-- What a desk has for a file does not depend on the texts. -/
theorem heldBy_store (h : d.Tidy) (hs : d.store.Keeps s) (f : FileResult) :
    heldBy { d with store := s } f = heldBy d f := by
  have hfind : (d.list.ids.find? fun id => s.pathOf id == f.path) =
      d.list.ids.find? fun id => d.store.pathOf id == f.path :=
    List.find?_congr fun id hid => by rw [hs.pathOf (h.lt hid)]
  rw [heldBy, heldBy, hfind]

/-- Files can be read as before where the files are those there were. -/
theorem read_of_entries {old new : Disk} (hentries : new.entries = old.entries)
    (hcwd : new.cwd = old.cwd) {p : Path} {bytes : Bytes} (hread : old.read p = .ok bytes) :
    new.read p = .ok bytes := by
  have hleft : old.Left new := .of_entries hentries.symm hcwd.symm
  rw [← hleft.read (Disk.isFile_iff.2 ⟨bytes, hread⟩), hread]

/-- Files can be opened as before after an edit in a buffer. -/
theorem Openable.edited (h : Openable texts fs d) (hs : Store.EditsAt id d.store s) :
    Openable texts fs { d with store := s } where
  tidy := (h.tidy.grows_store hs.keeps).tidy
  apart := h.apart
  searched f hf j hj := by
    obtain ⟨hlt, hpath⟩ := h.searched f hf j hj
    exact ⟨hs.length ▸ hlt, by rw [hs.keeps.pathOf hlt]; exact hpath⟩
  closed f hf hnone := by
    rw [heldBy_store h.tidy hs.keeps] at hnone
    obtain ⟨bytes, hread, htext⟩ := h.closed f hf hnone
    exact ⟨bytes, read_of_entries hs.entries hs.cwd hread, htext⟩

theorem ofFile_of_read {disk : Disk} {p : Path} {bytes : Bytes} (h : disk.read p = .ok bytes) :
    ∃ t, Buffer.ofFile disk p = .ok (Desk.freshBuffer p bytes t) := by
  obtain ⟨loc, t, mode, hlocate, hentry⟩ := Disk.read_eq_ok.1 h
  exact ⟨t, Desk.ofFile_eq (Disk.entry_eq_ok.2 ⟨loc, hlocate, hentry⟩)⟩

/-- Putting a new buffer in changes what a desk has for no file but its
own. -/
theorem heldBy_enter (h : d.Tidy) {b : Buffer} (hpath : (b.path == g.path) = false) :
    heldBy (d.enter b) g = heldBy d g := by
  have hkeeps := d.store.keeps_insert b
  have hnew : (d.store.insert b).1 ∉ d.list.ids := fun hmem => Nat.lt_irrefl _ (h.lt hmem)
  have hothers : d.list.ids.filter (· != (d.store.insert b).1) = d.list.ids :=
    List.filter_eq_self.2 fun j hj => bne_iff_ne.2 fun heq => hnew (heq ▸ hj)
  have hlist : (d.enter b).list.ids = (d.store.insert b).1 :: d.list.ids :=
    congrArg ((d.store.insert b).1 :: ·) hothers
  have hself : ((d.enter b).store.pathOf (d.store.insert b).1 == g.path) = false :=
    (Store.pathOf_eq (d.store.buffer?_insert_self b)).symm ▸ hpath
  rw [heldBy, hlist, List.find?_cons_of_neg (by rw [hself]; exact Bool.false_ne_true)]
  exact heldBy_store h hkeeps g

/-- A file that a desk has a buffer for is not opened. -/
theorem bufferFor_held (h : Openable texts fs d) (hheld : heldBy d f = some id) :
    bufferFor Desk.opener f d = (.ok id, d) := by
  rw [heldBy] at hheld
  rw [bufferFor]
  cases hbuffer : f.buffer with
  | some j =>
    rw [hbuffer] at hheld
    cases hheld
    rfl
  | none =>
    rw [hbuffer] at hheld
    have hfind : (d.list.ids.find? fun id => d.store.pathOf id == f.path) = some id := hheld
    dsimp only
    rw [Desk.opener, Desk.bufferOf, h.tidy.byPath, hfind]
    rfl

/-- A file that a desk has no buffer for is opened. -/
theorem bufferFor_closed (h : Openable texts fs d) (hnone : heldBy d f = none) {b : Buffer}
    (hfile : Buffer.ofFile d.store.disk f.path = .ok b) :
    bufferFor Desk.opener f d = (.ok d.store.buffers.length, d.enter b) := by
  obtain ⟨hbuffer, hfind⟩ := Option.or_eq_none_iff.1 hnone
  rw [bufferFor, hbuffer]
  dsimp only
  rw [Desk.opener, Desk.bufferOf, h.tidy.byPath, hfind]
  dsimp only
  rw [Store.openFile, hfile]
  rfl

/-- A buffer that is put in is a new one, and changes no other. -/
theorem opened_enter (d : Documents) (b : Buffer) :
    Opened d.store.buffers.length b.text d.store (d.enter b).store := by
  have hnew : d.store.buffer? d.store.buffers.length = none :=
    List.getElem?_eq_none (Nat.le_refl _)
  refine ⟨⟨b, d.store.buffer?_insert_self b, .inr ⟨hnew, rfl⟩⟩, fun j hj => ?_⟩
  rcases Nat.lt_or_gt_of_ne hj with hlt | hgt
  · exact List.getElem?_append_left hlt
  · have hnone : d.store.buffer? j = none := List.getElem?_eq_none (Nat.le_of_lt hgt)
    have hlength : (d.enter b).store.buffers.length = d.store.buffers.length + 1 :=
      List.length_append
    rw [hnone]
    exact List.getElem?_eq_none (hlength ▸ hgt)

/-- The files behind one that was opened can be opened as before. -/
theorem Openable.enter (h : Openable texts fs d) {b : Buffer} (hattached : b.attached = true)
    (hsame : ∀ g ∈ fs, heldBy (d.enter b) g = heldBy d g) : Openable texts fs (d.enter b) where
  tidy := (h.tidy.grows_enter hattached).tidy
  apart := h.apart
  searched g hg j hj := by
    obtain ⟨hlt, hpath⟩ := h.searched g hg j hj
    have hkeeps := (h.tidy.grows_enter hattached).keeps
    exact ⟨Nat.lt_of_lt_of_le hlt hkeeps.length_le, by rw [hkeeps.pathOf hlt]; exact hpath⟩
  closed g hg hnone := h.closed g hg ((hsame g hg).symm.trans hnone)

/-- **How a desk gives a file its buffer**: it has one, or it opens the file. -/
theorem bufferFor_opener (h : Openable texts (f :: fs) d) :
    ∃ d', bufferFor Desk.opener f d = (.ok ((heldBy d f).getD d.store.buffers.length), d') ∧
      Opened ((heldBy d f).getD d.store.buffers.length) (texts f) d.store d'.store ∧
      Openable texts fs d' ∧ (∀ g ∈ fs, heldBy d' g = heldBy d g) ∧
      d'.store.buffers.length =
        if (heldBy d f).isSome then d.store.buffers.length else d.store.buffers.length + 1 := by
  cases hheld : heldBy d f with
  | some id =>
    obtain ⟨b, hb⟩ := Store.exists_buffer? (h.held List.mem_cons_self hheld).1
    exact ⟨d, bufferFor_held h hheld, ⟨⟨b, hb, .inl hb⟩, fun _ _ => rfl⟩, h.tail,
      fun _ _ => rfl, rfl⟩
  | none =>
    obtain ⟨bytes, hread, htext⟩ := h.closed f List.mem_cons_self hheld
    obtain ⟨t, hfile⟩ := ofFile_of_read hread
    have hsame : ∀ g ∈ fs, heldBy (d.enter (Desk.freshBuffer f.path bytes t)) g = heldBy d g :=
      fun g hg => heldBy_enter h.tidy ((List.pairwise_cons.1 h.apart).1 g hg)
    exact ⟨d.enter (Desk.freshBuffer f.path bytes t), bufferFor_closed h hheld hfile,
      htext ▸ opened_enter d (Desk.freshBuffer f.path bytes t), h.tail.enter rfl hsame, hsame,
      List.length_append⟩

theorem idsFrom_congr {held held' : FileResult → Option BufferId}
    (h : ∀ f ∈ fs, held f = held' f) (g : FileResult) :
    idsFrom held fs next g = idsFrom held' fs next g := by
  induction fs generalizing next with
  | nil => rfl
  | cons f fs ih =>
    rw [idsFrom, idsFrom, h f List.mem_cons_self, ih fun g hg => h g (List.mem_cons_of_mem f hg)]

/-- The buffer of a file is the one it has, or a new one. -/
theorem idsFrom_cases (held : FileResult → Option BufferId) (next : BufferId) (hg : g ∈ fs) :
    held g = some (idsFrom held fs next g) ∨
      held g = none ∧ next ≤ idsFrom held fs next g := by
  induction fs generalizing next with
  | nil => cases hg
  | cons f fs ih =>
    rw [idsFrom]
    split
    · next heq =>
      rw [heq]
      cases held f with
      | some id => exact .inl rfl
      | none => exact .inr ⟨rfl, Nat.le_refl _⟩
    · next hne =>
      refine (ih _ ((List.mem_cons.1 hg).resolve_left hne)).imp_right fun ⟨hnone, hle⟩ =>
        ⟨hnone, Nat.le_trans ?_ hle⟩
      split <;> omega

theorem OpensInTurn.congr {opener : Opener} {ids ids' : FileResult → BufferId}
    (hids : ∀ f ∈ fs, ids f = ids' f) (h : OpensInTurn opener ids texts fs d) :
    OpensInTurn opener ids' texts fs d := by
  induction fs generalizing d with
  | nil => trivial
  | cons f fs ih =>
    obtain ⟨d', hbuffer, hopened, hlater⟩ := h
    rw [hids f List.mem_cons_self] at hbuffer hopened hlater
    exact ⟨d', hbuffer, hopened, fun s hs =>
      ih (fun g hg => hids g (List.mem_cons_of_mem f hg)) (hlater s hs)⟩

/-- The files behind the first have the same buffers without it. -/
theorem idsFrom_cons (held : FileResult → Option BufferId) (hne : g ≠ f) :
    idsFrom held (f :: fs) next g =
      idsFrom held fs (if (held f).isSome then next else next + 1) g :=
  if_neg hne

/-- A file behind the first is another one. -/
theorem Openable.ne (h : Openable texts (f :: fs) d) (hg : g ∈ fs) : g ≠ f := by
  rintro rfl
  have hpath := (List.pairwise_cons.1 h.apart).1 g hg
  rw [Path.beq_refl] at hpath
  cases hpath

theorem opensInTurn_opener (h : Openable texts fs d) :
    OpensInTurn Desk.opener (idsFrom (heldBy d) fs d.store.buffers.length) texts fs d := by
  induction fs generalizing d with
  | nil => trivial
  | cons f fs ih =>
    obtain ⟨d', hbuffer, hopened, hopenable, hsame, hlength⟩ := bufferFor_opener h
    have hfirst : idsFrom (heldBy d) (f :: fs) d.store.buffers.length f =
        (heldBy d f).getD d.store.buffers.length := if_pos rfl
    rw [← hfirst] at hbuffer hopened
    refine ⟨d', hbuffer, hopened, fun s hs => ?_⟩
    refine (ih (hopenable.edited hs)).congr fun g hg => ?_
    have hheld : ∀ g ∈ fs, heldBy { d' with store := s } g = heldBy d g := fun g hg =>
      (heldBy_store hopenable.tidy hs.keeps g).trans (hsame g hg)
    rw [idsFrom_cons _ (h.ne hg), idsFrom_congr hheld, ← hlength]
    exact congrArg (idsFrom (heldBy d) fs · g) hs.length

/-- The buffer that a file has belongs to no file behind it. -/
theorem Openable.held_ne (h : Openable texts (f :: fs) d) (hf : heldBy d f = some id) (hg : g ∈ fs)
    (hnext : d.store.buffers.length ≤ next) : id ≠ idsFrom (heldBy d) fs next g := by
  rintro rfl
  obtain ⟨hlt, hpath⟩ := h.held List.mem_cons_self hf
  rcases idsFrom_cases (heldBy d) next hg with hheld | ⟨-, hle⟩
  · -- One buffer would have two paths.
    obtain ⟨-, hpath'⟩ := h.held (List.mem_cons_of_mem f hg) hheld
    rw [Path.beq_comm, Path.beq_congr hpath, Path.beq_comm,
      (List.pairwise_cons.1 h.apart).1 g hg] at hpath'
    cases hpath'
  · exact Nat.lt_irrefl _ (Nat.lt_of_lt_of_le hlt (Nat.le_trans hnext hle))

/-- A new buffer belongs to no file behind the one that it is for. -/
theorem Openable.new_ne (h : Openable texts (f :: fs) d) (hg : g ∈ fs)
    (hnext : d.store.buffers.length ≤ next) : next ≠ idsFrom (heldBy d) fs (next + 1) g := by
  intro heq
  rcases idsFrom_cases (heldBy d) (next + 1) hg with hheld | ⟨-, hle⟩
  · have hlt := (h.held (List.mem_cons_of_mem f hg) hheld).1
    rw [← heq] at hlt
    exact Nat.lt_irrefl _ (Nat.lt_of_lt_of_le hlt hnext)
  · rw [← heq] at hle
    exact Nat.not_succ_le_self next hle

theorem apart_idsFrom (h : Openable texts fs d) (hnext : d.store.buffers.length ≤ next) :
    fs.Pairwise fun f g => (f.path == g.path) = false ∧
      idsFrom (heldBy d) fs next f ≠ idsFrom (heldBy d) fs next g := by
  induction fs generalizing next with
  | nil => exact .nil
  | cons f fs ih =>
    obtain ⟨hapart, -⟩ := List.pairwise_cons.1 h.apart
    have hfirst : idsFrom (heldBy d) (f :: fs) next f = (heldBy d f).getD next := if_pos rfl
    refine List.pairwise_cons.2 ⟨fun g hg => ⟨hapart g hg, ?_⟩, ?_⟩
    · rw [hfirst, idsFrom_cons _ (h.ne hg)]
      cases hf : heldBy d f with
      | some id => exact h.held_ne hf hg hnext
      | none => exact h.new_ne hg hnext
    · have hrest : d.store.buffers.length ≤ if (heldBy d f).isSome then next else next + 1 := by
        split
        · exact hnext
        · exact Nat.le_succ_of_le hnext
      refine (ih h.tail hrest).imp_of_mem fun hg hg' hpair => ?_
      rw [idsFrom_cons _ (h.ne hg), idsFrom_cons _ (h.ne hg')]
      exact hpair

/-- **A desk gives every file a buffer of its own**, whether it is open or
not. -/
theorem opens_opener (h : Openable texts fs d) :
    Opens Desk.opener (idsFrom (heldBy d) fs d.store.buffers.length) texts fs d :=
  ⟨opensInTurn_opener h, apart_idsFrom h (Nat.le_refl _)⟩

/-- After an edit in a buffer a desk gives the files the same buffers. -/
theorem opens_opener_edited (h : Openable texts fs d) (hs : Store.EditsAt id d.store s) :
    Opens Desk.opener (idsFrom (heldBy d) fs d.store.buffers.length) texts fs
      { d with store := s } := by
  have hids : idsFrom (heldBy { d with store := s }) fs s.buffers.length =
      idsFrom (heldBy d) fs d.store.buffers.length := by
    funext g
    rw [hs.length]
    exact idsFrom_congr (fun f _ => heldBy_store h.tidy hs.keeps f) g
  exact hids ▸ opens_opener (h.edited hs)

end Opening

/-! ## A note with two matches, and a file that is not open -/

/-- A desk with one open note, and one file on the disk. -/
def noteStore : Store :=
  ⟨.oneFile [97] 0 1, [⟨⟨"/note"⟩, "a.\na", false, true, 0, []⟩]⟩

/-- The note is open, and the file is not. -/
def noteDocuments : Documents := ⟨noteStore, ⟨[0]⟩⟩

/-- A search for a letter of both, which is to become a line of its own. -/
def noteRequest : Request := ⟨"a", "b\n", false, false, .openDirs, []⟩

/-- Both are in the tree. -/
def noteScope : Scope :=
  ⟨⟨"/"⟩, some (.dir ⟨"/"⟩ true [.file ⟨"/note"⟩ (some 0), .file ⟨"/a"⟩ none]), none, [0],
    .standard⟩

/-- The note has a match on each line. -/
def noteFile : FileResult :=
  ⟨⟨"/note"⟩, 2, [⟨⟨0, 0⟩, ⟨0, 1⟩⟩, ⟨⟨1, 0⟩, ⟨1, 1⟩⟩], ["a.", "a"], some 0⟩

/-- The file has one match. -/
def closedFile : FileResult := ⟨⟨"/a"⟩, 1, [⟨⟨0, 0⟩, ⟨0, 1⟩⟩], ["a"], none⟩

/-- What the search finds. -/
def noteResults : Results := ⟨noteRequest, [noteFile, closedFile]⟩

theorem read_closed : noteStore.disk.read ⟨"/a"⟩ = .ok [97] := Disk.read_oneFile [97] 0 1

theorem searchedText_closed : searchedText noteStore closedFile = Utf8.decodeLossy [97] := by
  rw [searchedText]
  simp only [closedFile, read_closed]

theorem find_note : find noteStore noteRequest noteScope false = .ok noteResults := by
  have hcandidates : candidates noteStore noteRequest noteScope =
      .ok [⟨⟨"/note"⟩, some 0⟩, ⟨⟨"/a"⟩, none⟩] := by
    have hnote : noteScope.candidate noteStore ⟨"/note"⟩ (some 0) = ⟨⟨"/note"⟩, some 0⟩ := rfl
    have hclosed : noteScope.candidate noteStore ⟨"/a"⟩ none = ⟨⟨"/a"⟩, none⟩ := by decide +kernel
    exact congrArg₂ (fun c c' => Except.ok [c, c']) hnote hclosed
  have hnote : searchFile noteStore (literal noteRequest.ignoreCase noteRequest.pattern)
      noteRequest noteScope.config ⟨⟨"/note"⟩, some 0⟩ = some noteFile := by
    decide +kernel
  have hclosed : searchFile noteStore (literal noteRequest.ignoreCase noteRequest.pattern)
      noteRequest noteScope.config ⟨⟨"/a"⟩, none⟩ = some closedFile := by
    have hskip : skipReason noteStore.disk noteRequest noteScope.config ⟨"/a"⟩ 1 false = none := by
      rw [skipReason, isBinary, read_closed]
      decide +kernel
    have hmatches : matchesIn (literal noteRequest.ignoreCase noteRequest.pattern)
        ⟨⟨"/a"⟩, none⟩ (Utf8.decodeLossy [97]) = some closedFile := by
      decide +kernel
    rw [searchFile]
    simp only [read_closed, List.length_singleton, hskip, Option.isSome_none, Bool.false_eq_true,
      if_false, hmatches]
  rw [find, program_literal rfl, hcandidates]
  simp only [Bool.false_eq_true, if_false, List.filterMap_cons, List.filterMap_nil, hnote, hclosed]
  rw [rank, List.mergeSort_of_pairwise (by decide)]
  rfl

/-- Two links to the first match of the note, which write its path
differently. -/
def noteLinks : List Link :=
  [⟨⟨"/note"⟩, 0, 2, ⟨⟨0, 0⟩, ⟨0, 1⟩⟩⟩, ⟨⟨"//note"⟩, 1, 2, ⟨⟨0, 0⟩, ⟨0, 1⟩⟩⟩]

theorem openable_note : Openable (searchedText noteStore) noteResults.files noteDocuments where
  tidy := ⟨by decide, by decide⟩
  apart := by decide +kernel
  searched f hf id hid := by
    rcases List.mem_pair.1 hf with rfl | rfl
    · cases hid
      decide +kernel
    · cases hid
  closed f hf hnone := by
    rcases List.mem_pair.1 hf with rfl | rfl
    · cases hnone
    · exact ⟨[97], read_closed, searchedText_closed.symm⟩

/-- The first match of the note is replaced once, however often that is
asked for, and the second one is pending a line further down. Replacing
everything then opens the file, and replaces one match in each. -/
theorem replaceEach_any_order_note :
    ∃ r r' s', ofResults noteResults = .ok r ∧
      replaceEach 0 noteLinks r noteStore = .ok ([true, false], r', s') ∧
      (s'.textOf 0).toList = "b\n.\na".toList ∧
      r'.highlights noteFile.path = [⟨⟨2, 0⟩, ⟨2, 1⟩⟩] ∧
      ∃ r'' d'', r'.replaceAll noteResults Desk.opener ⟨s', noteDocuments.list⟩ =
          (.ok 2, r'', d'') ∧
        (d''.store.textOf 0).toList = "b\n.\nb\n".toList ∧
        (d''.store.textOf 1).toList = "b\n".toList := by
  have hfiles : noteResults.files = [] ++ noteFile :: [closedFile] := rfl
  have hbuffer : noteStore.buffer? 0 = some ⟨⟨"/note"⟩, "a.\na", false, true, 0, []⟩ := rfl
  have hlast : ∀ g ∈ [closedFile], (g.path == noteFile.path) = false := by decide +kernel
  have hlinks : ∀ l ∈ noteLinks, (l.path == noteFile.path) = true ∧
      l.region ∈ noteFile.regions := by
    decide +kernel
  obtain ⟨r, r', s', hr, hrun, hreplaced, -, hall⟩ :=
    replaceEach_any_order rfl find_note hfiles hlast hbuffer rfl hlinks
  have hedits := editsAt_replaceEach hrun
  -- The buffers that the two files get.
  let ids := idsFrom (heldBy noteDocuments) noteResults.files 1
  have hopen : Opens Desk.opener ids (searchedText noteStore) noteResults.files
      ⟨s', noteDocuments.list⟩ := opens_opener_edited openable_note hedits
  have hclosed : ∀ g ∈ noteResults.files, g ≠ noteFile → ∀ b, noteStore.buffer? (ids g) = some b →
      b.text = searchedText noteStore g := by
    intro g hg hne b hb
    rcases List.mem_pair.1 hg with rfl | rfl
    · exact absurd rfl hne
    · cases hb
  obtain ⟨r'', d'', hrun', hdone⟩ := hall Desk.opener ids _ rfl rfl hopen hclosed
  have hpending : r'.highlights noteFile.path = [⟨⟨2, 0⟩, ⟨2, 1⟩⟩] := by
    rw [hreplaced.highlights]
    decide +kernel
  refine ⟨r, r', s', hr, hrun, ?_, hpending, r'', d'', ?_, ?_, ?_⟩
  · rw [hreplaced.content]
    decide +kernel
  · have hother : r'.highlights closedFile.path = [⟨⟨0, 0⟩, ⟨0, 1⟩⟩] := by
      have htracked := tracked_replaceEach_of_ne (p := closedFile.path) hrun (by decide +kernel)
      cases hr
      rw [Replacer.highlights, htracked]
      decide +kernel
    rw [hrun']
    simp only [noteResults, List.map_cons, List.map_nil, hpending, hother]
    rfl
  · have hcontent := (hdone noteFile List.mem_cons_self).content
    have hid : ids noteFile = 0 := by decide +kernel
    rw [hid] at hcontent
    rw [hcontent]
    decide +kernel
  · have hcontent := (hdone closedFile (List.mem_cons_of_mem _ List.mem_cons_self)).content
    have hid : ids closedFile = 1 := by decide +kernel
    rw [hid, searchedText_closed] at hcontent
    rw [hcontent]
    decide +kernel

end Find
end CodeDesk
