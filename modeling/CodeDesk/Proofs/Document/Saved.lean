import CodeDesk.Proofs.Document.Open
import CodeDesk.Proofs.Files.Stay
import CodeDesk.Proofs.Text.Utf8
/-!
# Saved files — what a save leaves of the bytes that were read

A buffer holds the text of its file, not its bytes. To say what a save
should leave of the bytes, the text is taken as what spans of the file show,
and an edit exchanges the spans of its region for those of the new text
(`Edit.exchange`). The text of the buffer is shown by the spans all along
(`Mirrors.edit`), and a save writes this text (`Buffer.save_inv`).

What is written for a span are its bytes if it was read as a character, and
other bytes if it is a gap (`Span.Sound`). Nor can two gaps make up for each
other, since no gap is written shorter than it was (`flatMap_eq_iff`). So
the file is as it should be exactly if no gap is left among its spans
(`read_saved_iff`): gaps that an edit exchanged do no harm, every other gap
is overwritten.
-/

namespace CodeDesk

/-! ## Edits -/

/-- An edit of a buffer: the text of a region is exchanged. -/
structure Edit where
  /-- Where the old text is. -/
  region : Region
  /-- The new text. -/
  text : String
  /-- Whether the new text takes the case of the old one. -/
  keepCase : Bool
  deriving DecidableEq

/-- The characters that take the place of old ones. -/
def Edit.new (e : Edit) (old : List Char) : List Char :=
  (if e.keepCase then matchCase (String.ofList old) e.text else e.text).toList

/-- The spans of characters that are typed. -/
def typed (cs : List Char) : List Utf8.Span := cs.map fun c => ⟨some c, String.utf8EncodeChar c⟩

/-- The spans after an edit. If the region is not in the text the edit is
rejected and they stay. -/
def Edit.exchange (e : Edit) (xs : List Utf8.Span) : List Utf8.Span :=
  match e.region.indices? (xs.map Utf8.Span.char) with
  | none => xs
  | some (i, j) =>
    xs.take i ++ typed (e.new (sliceChars (xs.map Utf8.Span.char) i j)) ++ xs.drop j

/-- The spans after edits, first one first. -/
def exchanged (es : List Edit) (xs : List Utf8.Span) : List Utf8.Span :=
  es.foldl (fun xs e => e.exchange xs) xs

namespace Store

/-- The store after an edit of a buffer, which may be rejected. -/
def edit (s : Store) (id : BufferId) (e : Edit) : Store :=
  match s.replace id e.region e.text e.keepCase with
  | .ok (_, s) => s
  | .error _ => s

/-- The store after edits of a buffer, first one first. -/
def edits (s : Store) (id : BufferId) (es : List Edit) : Store :=
  es.foldl (fun s e => s.edit id e) s

end Store

/-! ## Spans that are written -/

namespace Utf8

theorem map_char_typed (cs : List Char) : (typed cs).map Span.char = cs := by
  rw [typed, List.map_map]
  exact List.map_id cs

/-- What is written for a span, beside its bytes. -/
structure Span.Sound (x : Span) : Prop where
  /-- It is written no shorter than it was. -/
  short : x.bytes.length ≤ (String.utf8EncodeChar x.char).length
  /-- It is written as it was exactly if it is a character. -/
  known : String.utf8EncodeChar x.char = x.bytes ↔ x.char?.isSome

theorem sound_typed {cs : List Char} {x : Span} (hx : x ∈ typed cs) : x.Sound := by
  obtain ⟨c, -, rfl⟩ := List.mem_map.1 hx
  exact ⟨Nat.le_refl _, iff_of_true rfl rfl⟩

/-- **What bytes are read as** is written as they were, gaps apart. -/
theorem sound_spans (bs : Bytes) : ∀ x ∈ spans bs, x.Sound := by
  fun_induction spans bs with
  | case1 => exact fun x hx => absurd hx List.not_mem_nil
  | case2 a rest ih =>
    refine List.forall_mem_cons.2 ⟨?_, ih⟩
    cases hnext : next a rest with
    | mk c? k =>
      cases c? with
      | some c =>
        have hbytes := encode_of_next hnext
        exact ⟨Nat.le_of_eq (congrArg List.length hbytes.symm), iff_of_true hbytes rfl⟩
      | none =>
        have hshown : String.utf8EncodeChar '\ufffd' = [0xEF, 0xBF, 0xBD] := by decide
        have hk := le_two_of_next hnext
        have hne := gap_ne hnext
        refine ⟨?_, iff_of_false (fun heq => hne ?_) Bool.false_ne_true⟩
        · show (a :: rest.take k).length ≤ (String.utf8EncodeChar '\ufffd').length
          rw [hshown, List.length_cons, List.length_take]
          simp only [List.length_cons, List.length_nil]
          omega
        · exact heq.symm.trans hshown

/-- Texts that are put together of parts are the same only part by part, if
no part is longer than the other one. -/
theorem flatMap_eq_iff {α β : Type} {f g : α → List β} {xs : List α}
    (hle : ∀ x ∈ xs, (g x).length ≤ (f x).length) :
    xs.flatMap f = xs.flatMap g ↔ ∀ x ∈ xs, f x = g x := by
  have hrest : ∀ {ys : List α}, (∀ x ∈ ys, (g x).length ≤ (f x).length) →
      (ys.flatMap g).length ≤ (ys.flatMap f).length := by
    intro ys hys
    induction ys with
    | nil => exact Nat.le_refl 0
    | cons y ys ih =>
      obtain ⟨hy, hys⟩ := List.forall_mem_cons.1 hys
      have hle := ih hys
      rw [List.flatMap_cons, List.flatMap_cons, List.length_append, List.length_append]
      omega
  induction xs with
  | nil => exact iff_of_true rfl fun x hx => absurd hx List.not_mem_nil
  | cons x xs ih =>
    obtain ⟨hx, hxs⟩ := List.forall_mem_cons.1 hle
    have htail := ih hxs
    rw [List.flatMap_cons, List.flatMap_cons, List.forall_mem_cons]
    constructor
    · intro heq
      have hlength := congrArg List.length heq
      rw [List.length_append, List.length_append] at hlength
      have hmore := hrest hxs
      obtain ⟨hhead, hbehind⟩ := List.append_inj heq (by omega)
      exact ⟨hhead, htail.1 hbehind⟩
    · rintro ⟨hhead, hbehind⟩
      rw [hhead, htail.2 hbehind]

/-- **Spans are written as they were** exactly if none is a gap. -/
theorem encode_eq_iff {xs : List Span} (h : ∀ x ∈ xs, x.Sound) :
    encode (String.ofList (xs.map Span.char)) = bytesOf xs ↔ ∀ x ∈ xs, x.char?.isSome := by
  rw [encode, String.toList_ofList, List.flatMap_map, bytesOf,
    flatMap_eq_iff fun x hx => (h x hx).short]
  exact forall₂_congr fun x hx => (h x hx).known

end Utf8

open Utf8 (Span spans bytesOf)

/-! ## Edits of a buffer -/

section Edits

variable {d : Disk} {s s' : Store} {id : BufferId} {p : Path} {xs : List Span} {e : Edit}

theorem sound_exchange (h : ∀ x ∈ xs, x.Sound) (e : Edit) : ∀ x ∈ e.exchange xs, x.Sound := by
  rw [Edit.exchange]
  split
  · exact h
  · intro x hx
    rcases List.mem_append.1 hx with hfront | hback
    · rcases List.mem_append.1 hfront with hfront | htyped
      · exact h x (List.mem_of_mem_take hfront)
      · exact Utf8.sound_typed htyped
    · exact h x (List.mem_of_mem_drop hback)

theorem sound_exchanged (h : ∀ x ∈ xs, x.Sound) (es : List Edit) :
    ∀ x ∈ exchanged es xs, x.Sound := by
  induction es generalizing xs with
  | nil => exact h
  | cons e es ih => exact ih (sound_exchange h e)

/-- A buffer shows spans, and only the clock of the disk was moved. -/
structure Mirrors (d : Disk) (s : Store) (id : BufferId) (p : Path) (xs : List Span) : Prop where
  /-- The spans show the text. -/
  buffer : ∃ b, s.buffer? id = some b ∧ b.path = p ∧ b.attached = true ∧
    b.text.toList = xs.map Span.char
  /-- The entries are as they were. -/
  entries : s.disk.entries = d.entries
  /-- And so is where relative paths start from. -/
  cwd : s.disk.cwd = d.cwd

/-- **An edit of the buffer** exchanges the spans it shows. -/
theorem Mirrors.edit (h : Mirrors d s id p xs) (e : Edit) :
    Mirrors d (s.edit id e) id p (e.exchange xs) := by
  obtain ⟨b, hb, hpath, hattached, hshown⟩ := h.buffer
  cases hregion : e.region.indices? (xs.map Span.char) with
  | none =>
    have hsame : e.exchange xs = xs := by rw [Edit.exchange, hregion]
    have hrejected : s.edit id e = s := by
      simp only [Store.edit, Store.replace, hb, Buffer.replace, hshown, hregion]
    rwa [hrejected, hsame]
  | some ij =>
    obtain ⟨i, j⟩ := ij
    have hdone : s.edit id e = s.tick.2.put id (b.setText s.tick.1 (String.ofList
        (spliceChars (xs.map Span.char) i j (e.new (sliceChars (xs.map Span.char) i j))))) := by
      simp only [Store.edit, Store.replace, hb, Buffer.replace, hshown, hregion]
      rfl
    rw [hdone]
    refine ⟨⟨_, Store.buffer?_put_self (s := s.tick.2) (Store.lt_of_buffer? hb), hpath, hattached,
      ?_⟩, h.entries, h.cwd⟩
    rw [Edit.exchange, hregion, Buffer.setText, String.toList_ofList, spliceChars,
      List.map_append, List.map_append, Utf8.map_char_typed, List.map_take, List.map_drop]

theorem Mirrors.edits (h : Mirrors d s id p xs) (es : List Edit) :
    Mirrors d (s.edits id es) id p (exchanged es xs) := by
  induction es generalizing s xs with
  | nil => exact h
  | cons e es ih => exact ih (h.edit e)

/-- A buffer that is made of a file shows the spans of its bytes. -/
theorem mirrors_openFile {bytes : Bytes} (hopen : s.openFile p = .ok (id, s'))
    (hread : s.disk.read p = .ok bytes) : Mirrors s.disk s' id p (spans bytes) := by
  simp only [Store.openFile, Buffer.ofFile, Buffer.readFile, Buffer.readFileBy,
    Disk.Calls.ofDisk, hread] at hopen
  cases htime : s.disk.modified p with
  | error e =>
    rw [htime] at hopen
    cases hopen
  | ok t =>
    rw [htime] at hopen
    cases hopen
    exact ⟨⟨_, List.getElem?_concat_length, rfl, rfl, (Utf8.map_char bytes).symm⟩, rfl, rfl⟩

end Edits

/-! ## Saving -/

/-- A save that succeeds wrote the text, and takes away no more than the
sidecar then. -/
theorem Buffer.save_inv {d : Disk} {b : Buffer} (h : (b.save d).1 = .ok ()) :
    ∃ d', d.write b.path (Utf8.encode b.text) = .ok d' ∧ (b.save d).2.1.Left d' := by
  rw [Buffer.save] at h ⊢
  obtain ⟨e, hfail⟩ | ⟨written, r, d', hwrite, hsave, hdisk⟩ := Buffer.saveBy_cases .ofDisk d b
  · rw [hfail] at h
    cases h
  · have htick : written.tick.2.Left written := .of_entries rfl rfl
    refine ⟨written, hwrite, ?_⟩
    rw [hsave]
    rcases hdisk with rfl | hremoved
    · exact htick
    · exact (Disk.left_removeFile hremoved).trans htick

section Saving

variable {s s' : Store} {id : BufferId} {p : Path} {bytes : Bytes}

/-- **What is read after a save**: the text of the buffer, if the file is
still there. -/
theorem read_saved {d : Disk} {xs : List Span} (h : Mirrors d s id p xs)
    (hsave : (s.save id).1 = .ok ()) (hstays : (s.save id).2.disk.isFile p = true) :
    (s.save id).2.disk.read p = .ok (Utf8.encode (String.ofList (xs.map Span.char))) := by
  obtain ⟨b, hb, hpath, -, hshown⟩ := h.buffer
  rw [Store.save, hb] at hsave hstays ⊢
  have hsave : (b.save s.disk).1 = .ok () := hsave
  have hstays : (b.save s.disk).2.1.isFile p = true := hstays
  obtain ⟨d', hwrite, hleft⟩ := Buffer.save_inv hsave
  have hread : d'.read p = .ok (Utf8.encode b.text) := Disk.read_write (hpath ▸ hwrite)
  have htext : b.text = String.ofList (xs.map Span.char) := by
    rw [← hshown, String.ofList_toList]
  show (b.save s.disk).2.1.read p = _
  rw [hleft.read hstays, hread, htext]

/-- **A file is saved with its edits and nothing else**, as long as it is
there afterwards, exactly if no gap is left among what was read and typed.
Without edits, what it should be is what it was. -/
theorem read_saved_iff (hopen : s.openFile p = .ok (id, s')) (hread : s.disk.read p = .ok bytes)
    (es : List Edit) (hsave : ((s'.edits id es).save id).1 = .ok ()) :
    (((s'.edits id es).save id).2.disk.read p = .ok (bytesOf (exchanged es (spans bytes))) ↔
      ((s'.edits id es).save id).2.disk.isFile p = true ∧
        ∀ x ∈ exchanged es (spans bytes), x.char?.isSome) ∧
    bytesOf (exchanged [] (spans bytes)) = bytes := by
  refine ⟨?_, Utf8.bytesOf_spans bytes⟩
  have hmirrors := (mirrors_openFile hopen hread).edits es
  have hsound := sound_exchanged (Utf8.sound_spans bytes) es
  rw [← Utf8.encode_eq_iff hsound]
  constructor
  · intro hexact
    have hstays := Disk.isFile_iff.2 ⟨_, hexact⟩
    have hwritten := read_saved hmirrors hsave hstays
    exact ⟨hstays, Except.ok.inj (hwritten.symm.trans hexact)⟩
  · rintro ⟨hstays, hbytes⟩
    rw [read_saved hmirrors hsave hstays, hbytes]

/-! ## A disk with one file -/

theorem locate_oneFile (bytes : Bytes) (changed clock : Stamp) :
    (Disk.oneFile bytes changed clock).locate true ⟨"/a"⟩ = .ok ["a"] :=
  Disk.locate_inRoot (by decide +kernel) fun _ _ h => nomatch h

theorem removeFile_oneFile (bytes : Bytes) (changed clock : Stamp) :
    (Disk.oneFile bytes changed clock).removeFile (sidecarOf ⟨"/a"⟩) = .error .missing := by
  have hsidecar : sidecarOf ⟨"/a"⟩ = ⟨"/#a#"⟩ := by decide +kernel
  have hlocate : (Disk.oneFile bytes changed clock).locate false ⟨"/#a#"⟩ = .ok ["#a#"] :=
    Disk.locate_inRoot (by decide +kernel) fun h => nomatch h
  rw [hsidecar, Disk.removeFile, hlocate]
  rfl

theorem openFile_oneFile (bytes : Bytes) (changed clock : Stamp) :
    (Store.ofDisk (Disk.oneFile bytes changed clock)).openFile ⟨"/a"⟩ =
      .ok (0, ⟨Disk.oneFile bytes changed clock,
        [⟨⟨"/a"⟩, Utf8.decodeLossy bytes, false, true, changed, []⟩]⟩) := by
  have hread := Disk.read_oneFile bytes changed clock
  have htime : (Disk.oneFile bytes changed clock).modified ⟨"/a"⟩ = .ok changed := by
    rw [Disk.modified, Disk.entry_oneFile]
  simp only [Store.openFile, Store.ofDisk, Buffer.ofFile, Buffer.readFile, Buffer.readFileBy,
    Disk.Calls.ofDisk, hread, htime]
  rfl

/-- There is no sidecar to take away. -/
theorem settle_oneFile (bytes : Bytes) (changed clock : Stamp) {b : Buffer}
    (hpath : b.path = ⟨"/a"⟩) : Buffer.settleBy .ofDisk (Disk.oneFile bytes changed clock) b =
      (.ok (), Disk.oneFile bytes changed clock, b) := by
  have hmissing := removeFile_oneFile bytes changed clock
  rw [← hpath] at hmissing
  simp only [Buffer.settleBy, Buffer.removeSidecarBy, Disk.Calls.ofDisk, hmissing]

/-- Saving to the one file succeeds, and the file stays. -/
theorem save_oneFile {changed clock : Stamp} {xs : List Span}
    (h : Mirrors (Disk.oneFile bytes changed clock) s id ⟨"/a"⟩ xs) :
    (s.save id).1 = .ok () ∧ (s.save id).2.disk.isFile ⟨"/a"⟩ = true := by
  obtain ⟨b, hb, hpath, hattached, -⟩ := h.buffer
  have hdisk : s.disk = Disk.oneFile bytes changed s.disk.clock := by
    have hentries := h.entries
    have hcwd := h.cwd
    cases hs : s.disk with
    | mk entries clock cwd =>
      rw [hs] at hentries hcwd
      dsimp only at hentries hcwd
      rw [hentries, hcwd]
      rfl
  have hwrite : (Disk.oneFile bytes changed s.disk.clock).write ⟨"/a"⟩ (Utf8.encode b.text) =
      .ok (Disk.oneFile (Utf8.encode b.text) s.disk.clock (s.disk.clock + 1)) := by
    rw [Disk.write, locate_oneFile]
    rfl
  have hsave : b.save s.disk = (.ok (), Disk.oneFile (Utf8.encode b.text) s.disk.clock
      (s.disk.clock + 2), { b with dirty := false, modified := s.disk.clock + 1 }) := by
    rw [hdisk, Buffer.save, Buffer.saveBy, if_neg (by simp [hattached]), hpath]
    dsimp only [Disk.Calls.ofDisk]
    rw [hwrite]
    refine settle_oneFile _ _ _ ?_
    rfl
  rw [Store.save, hb]
  refine ⟨congrArg Prod.fst hsave, ?_⟩
  show (b.save s.disk).2.1.isFile ⟨"/a"⟩ = true
  rw [hsave]
  exact Disk.isFile_iff.2 ⟨_, Disk.read_oneFile _ _ _⟩

/-- A gap that is exchanged does no harm. -/
theorem read_saved_exchanged :
    let e : Edit := ⟨⟨⟨0, 1⟩, ⟨0, 2⟩⟩, "é", false⟩
    ∃ id s', (Store.ofDisk (Disk.oneFile [0x61, 0xFF, 0x62] 0 1)).openFile ⟨"/a"⟩ = .ok (id, s') ∧
      ((s'.edits id [e]).save id).2.disk.read ⟨"/a"⟩ = .ok [0x61, 0xC3, 0xA9, 0x62] := by
  intro e
  have hopen := openFile_oneFile [0x61, 0xFF, 0x62] 0 1
  have hread := Disk.read_oneFile [0x61, 0xFF, 0x62] 0 1
  obtain ⟨hsave, hstays⟩ := save_oneFile ((mirrors_openFile hopen hread).edits [e])
  have hbytes : bytesOf (exchanged [e] (spans [0x61, 0xFF, 0x62])) = [0x61, 0xC3, 0xA9, 0x62] := by
    decide +kernel
  have hexact := (read_saved_iff hopen hread [e] hsave).1.2 ⟨hstays, by decide +kernel⟩
  exact ⟨0, _, hopen, hexact.trans (congrArg Except.ok hbytes)⟩

/-- One that is left is overwritten: a save without edits changes the
file. -/
theorem not_saved_exactly_gap :
    ∃ id s', (Store.ofDisk (Disk.oneFile [0xFF, 0x0A] 0 1)).openFile ⟨"/a"⟩ = .ok (id, s') ∧
      (s'.save id).1 = .ok () ∧
      (s'.save id).2.disk.read ⟨"/a"⟩ = .ok [0xEF, 0xBF, 0xBD, 0x0A] := by
  have hopen := openFile_oneFile [0xFF, 0x0A] 0 1
  have hread := Disk.read_oneFile [0xFF, 0x0A] 0 1
  have hmirrors := mirrors_openFile hopen hread
  obtain ⟨hsave, hstays⟩ := save_oneFile hmirrors
  have hwritten := read_saved hmirrors hsave hstays
  have hbytes : Utf8.encode (String.ofList ((spans [0xFF, 0x0A]).map Span.char)) =
      [0xEF, 0xBF, 0xBD, 0x0A] := by decide +kernel
  exact ⟨0, _, hopen, hsave, hbytes ▸ hwritten⟩

end Saving

end CodeDesk
