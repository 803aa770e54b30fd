import CodeDesk.Find.Request
import CodeDesk.Proofs.Document.Rebase
import CodeDesk.Proofs.Regex.Walk
import CodeDesk.Proofs.Text.LineStarts
import Mathlib.Data.List.Forall2
/-!
# Exact regions — regions and ranges of bytes

The bytes of a text at which its characters begin, and its end, go with the
positions in it: each stands at one of them, in their order, and other
positions have no byte. So a range of bytes becomes a region and comes back
as the same range (`exact_positions`), whatever the characters between are:
line breaks, characters of several bytes, or a last line that is not ended.

Ranges are followed as a list. The regions of ranges stand at their ends one
by one (`regionsIn?_eq_some_iff`), and what ascends among the bytes ascends
among the positions (`pairwise_regions`). A search makes its regions in one
walk over the characters; these are the same (`regionsIn?_byteRanges`).
-/

namespace CodeDesk

open Pos (Stands)

section Offsets

variable {cs : List Char} {q r : Region} {ms : List (Nat × Nat)} {rs : List Region} {n s e : Nat}

/-- **The bytes of a region** are those that stand at its ends, unless the
region is reversed. -/
theorem Region.offsets?_eq_some_iff :
    r.offsets? cs = some (s, e) ↔ Stands cs s r.start ∧ Stands cs e r.stop ∧ s ≤ e := by
  constructor
  · intro h
    obtain ⟨i, j, hindices, rfl, rfl⟩ := Region.exists_indices_of_offsets h
    obtain ⟨hij, -, rfl⟩ := Region.indices?_eq_some_iff.1 hindices
    refine ⟨⟨cs.take i, cs.drop i, (List.take_append_drop i cs).symm, rfl, rfl⟩,
      ⟨cs.take j, cs.drop j, (List.take_append_drop j cs).symm, rfl, rfl⟩, ?_⟩
    rw [Utf8.size_take cs hij]
    exact Nat.le_add_right _ _
  · rintro ⟨⟨front, rest, rfl, rfl, hstart⟩, ⟨front', rest', hcut, rfl, hstop⟩, hle⟩
    obtain ⟨more, rfl⟩ : ∃ more, front' = front ++ more := by
      rcases Nat.lt_or_eq_of_le hle with hlt | heq
      · obtain ⟨more, -, hmore⟩ := Utf8.exists_append_of_size_lt hcut hlt
        exact ⟨more, hmore⟩
      · exact ⟨[], by rw [List.append_nil, (Utf8.append_inj_of_size hcut heq).1]⟩
    have hindices : r.indices? (front ++ rest) = some (front.length, (front ++ more).length) := by
      refine Region.indices?_eq_some_iff.2 ⟨by simp, by rw [hcut]; simp, ?_⟩
      rw [Region.between, Pos.ofIndex, Pos.ofIndex, List.take_left' rfl, hstart, hcut,
        List.take_left' rfl, hstop]
    rw [offsets?_of_indices hindices, List.take_left' rfl, hcut, List.take_left' rfl]

/-! ## Ranges one by one -/

/-- A region stands at the ends of a range of bytes. -/
def Spans (cs : List Char) (m : Nat × Nat) (r : Region) : Prop :=
  Stands cs m.1 r.start ∧ Stands cs m.2 r.stop

theorem Region.ofRange?_eq_some_iff {m : Nat × Nat} :
    Region.ofRange? cs (lineStarts cs) m = some r ↔ Spans cs m r := by
  simp only [ofRange?, Option.bind_eq_bind, Option.bind_eq_some_iff, Pos.atOffset?_eq_some_iff,
    Option.some.injEq]
  constructor
  · rintro ⟨start, hstart, stop, hstop, rfl⟩
    exact ⟨hstart, hstop⟩
  · rintro ⟨hstart, hstop⟩
    exact ⟨r.start, hstart, r.stop, hstop, rfl⟩

/-- **The regions of ranges** stand at their ends, one region for each range
that holds bytes. -/
theorem regionsIn?_eq_some_iff :
    regionsIn? cs ms = some rs ↔
      List.Forall₂ (Spans cs) (ms.filter fun m => m.1 != m.2) rs := by
  rw [regionsIn?]
  generalize (ms.filter fun m => m.1 != m.2) = ms
  induction ms generalizing rs with
  | nil => simp [eq_comm]
  | cons m ms ih =>
    rw [List.mapM_cons, List.forall₂_cons_left_iff]
    simp only [Option.bind_eq_bind, Option.pure_def, Option.bind_eq_some_iff, ih,
      Option.some.injEq, Region.ofRange?_eq_some_iff]
    constructor
    · rintro ⟨r, hr, rest, hrest, rfl⟩
      exact ⟨r, rest, hr, hrest, rfl⟩
    · rintro ⟨r, rest, hr, hrest, rfl⟩
      exact ⟨r, hr, rest, hrest, rfl⟩

/-- Every place in a text has a position. -/
theorem exists_stands {text : String} (h : String.Pos.Raw.IsValid text ⟨n⟩) :
    ∃ p, Stands text.toList n p := by
  obtain ⟨front, rest, hcut, hsize⟩ := Utf8.isValid_iff.1 h
  exact ⟨_, front, rest, hcut, hsize, rfl⟩

/-- **Ranges between places in a text have regions.** -/
theorem exists_regionsIn? {text : String} (h : ∀ m ∈ ms,
    String.Pos.Raw.IsValid text ⟨m.1⟩ ∧ String.Pos.Raw.IsValid text ⟨m.2⟩) :
    ∃ rs, regionsIn? text.toList ms = some rs := by
  have hall : ∀ m ∈ ms.filter (fun m => m.1 != m.2), ∃ r, Spans text.toList m r := by
    intro m hm
    obtain ⟨hfirst, hlast⟩ := h m (List.mem_of_mem_filter hm)
    obtain ⟨start, hstart⟩ := exists_stands hfirst
    obtain ⟨stop, hstop⟩ := exists_stands hlast
    exact ⟨⟨start, stop⟩, hstart, hstop⟩
  simp only [regionsIn?_eq_some_iff]
  generalize (ms.filter fun m => m.1 != m.2) = ms at hall
  induction ms with
  | nil => exact ⟨[], .nil⟩
  | cons m ms ih =>
    obtain ⟨⟨r, hr⟩, hms⟩ := List.forall_mem_cons.1 hall
    obtain ⟨rs, hrs⟩ := ih hms
    exact ⟨r :: rs, .cons hr hrs⟩

/-- **A region leads back to the range it was made of.** -/
theorem map_offsets?_eq (h : List.Forall₂ (Spans cs) ms rs) (hms : ∀ m ∈ ms, m.1 ≤ m.2) :
    rs.map (·.offsets? cs) = ms.map some := by
  induction h with
  | nil => rfl
  | cons hspans _ ih =>
    obtain ⟨hle, hms⟩ := List.forall_mem_cons.1 hms
    rw [List.map_cons, List.map_cons, ih hms,
      Region.offsets?_eq_some_iff.2 ⟨hspans.1, hspans.2, hle⟩]

/-- One region ends before the other starts, and they share no position. -/
def Region.Before (q r : Region) : Prop := q.stop.le r.start = true ∧ q.overlaps r = false

/-- Ranges apart have regions apart. -/
theorem before_of_spans {m k : Nat × Nat} (hq : Spans cs m q) (hr : Spans cs k r)
    (hle : m.2 ≤ k.1) : q.Before r := by
  have hlt : r.start.lt q.stop = false := by
    rw [← Bool.not_eq_true, hr.1.lt_iff hq.2]
    omega
  exact ⟨by rw [Pos.le, hlt]; rfl, by rw [Region.overlaps, hlt, Bool.and_false]⟩

/-- **Ranges that follow each other have regions that do.** -/
theorem pairwise_regions {here : Nat} (h : List.Forall₂ (Spans cs) ms rs)
    (hms : Ascending here ms) : rs.Pairwise Region.Before := by
  induction h generalizing here with
  | nil => exact .nil
  | @cons m r ms rs hspans hrest ih =>
    obtain ⟨-, -, hms⟩ := hms
    refine .cons (fun q hq => ?_) (ih hms)
    obtain ⟨k, hk, hkq⟩ : ∃ k ∈ ms, Spans cs k q := by
      obtain ⟨i, hi, rfl⟩ := List.getElem_of_mem hq
      have hi' : i < ms.length := hrest.length_eq ▸ hi
      exact ⟨ms[i], List.getElem_mem hi', List.forall₂_iff_get.1 hrest |>.2 i hi' hi⟩
    exact before_of_spans hspans hkq (hms.le k hk).1

end Offsets

/-! ## The regions of a search -/

/-- The bytes of a range of characters. -/
def byteRange (cs : List Char) (m : Nat × Nat) : Nat × Nat :=
  (Utf8.size (cs.take m.1), Utf8.size (cs.take m.2))

section Search

variable {cs : List Char} {ms : List (Nat × Nat)} {here i j : Nat}

theorem stands_ofIndex (cs : List Char) (i : Nat) :
    Stands cs (Utf8.size (cs.take i)) (Pos.ofIndex cs i) :=
  ⟨cs.take i, cs.drop i, (List.take_append_drop i cs).symm, rfl, rfl⟩

theorem isValid_size_take (text : String) (i : Nat) :
    String.Pos.Raw.IsValid text ⟨Utf8.size (text.toList.take i)⟩ :=
  Utf8.isValid_iff.2 ⟨_, _, (List.take_append_drop i text.toList).symm, rfl⟩

theorem size_take_le (cs : List Char) (hij : i ≤ j) :
    Utf8.size (cs.take i) ≤ Utf8.size (cs.take j) := by
  rw [Utf8.size_take cs hij]
  exact Nat.le_add_right _ _

theorem size_take_lt (hij : i < j) (hj : j ≤ cs.length) :
    Utf8.size (cs.take i) < Utf8.size (cs.take j) :=
  ((stands_ofIndex cs i).lt_iff (stands_ofIndex cs j)).1 ((Pos.ofIndex_lt_iff hj).2 hij)

theorem Ascending.byteRange (cs : List Char) (h : Ascending here ms) :
    Ascending (Utf8.size (cs.take here)) (ms.map (byteRange cs)) := by
  induction ms generalizing here with
  | nil => trivial
  | cons m ms ih =>
    obtain ⟨hhere, hrange, hrest⟩ := h
    exact ⟨size_take_le cs hhere, size_take_le cs hrange, ih hrest⟩

/-- **The walk over the characters finds the regions of the bytes.** -/
theorem regionsIn?_byteRanges (h : Ascending 0 ms) (hin : ∀ m ∈ ms, m.1 < m.2 → m.2 ≤ cs.length) :
    regionsIn? cs (ms.map (byteRange cs)) =
      some (regionsOf cs (ms.filter fun m => m.1 < m.2)) := by
  have hsame : (ms.map (byteRange cs)).filter (fun m => m.1 != m.2) =
      (ms.filter fun m => m.1 < m.2).map (byteRange cs) := by
    rw [List.filter_map]
    refine congrArg _ (List.filter_congr fun m hm => ?_)
    have hle := (h.le m hm).2
    rcases Nat.lt_or_eq_of_le hle with hlt | heq
    · have := size_take_lt hlt (hin m hm hlt)
      simp only [Function.comp_apply, CodeDesk.byteRange, hlt, decide_true, bne_iff_ne, ne_eq]
      omega
    · simp [CodeDesk.byteRange, heq]
  rw [regionsIn?_eq_some_iff, hsame, regionsOf_ascending (h.filter _), List.forall₂_map_left_iff,
    List.forall₂_map_right_iff, List.forall₂_same]
  exact fun m _ => ⟨stands_ofIndex cs m.1, stands_ofIndex cs m.2⟩

/-- Every search runs a program whose matches follow each other. -/
theorem Find.framed_program {req : Find.Request} {p : Regex.Program}
    (h : req.program = .ok p) : Regex.Framed p := by
  rw [Find.Request.program] at h
  split at h
  · split at h
    · next hcompile =>
      cases h
      exact Regex.framed_compile? hcompile
    · cases h
  · cases h
    exact Regex.framed_literal _ _

/-- The matches of a text follow each other within it. -/
theorem findAll_within {p : Regex.Program} (hp : Regex.Framed p) (cs : List Char) :
    Ascending 0 (p.findAll cs) ∧ ∀ m ∈ p.findAll cs, m.1 < m.2 → m.2 ≤ cs.length := by
  obtain ⟨hascending, hmem⟩ := Regex.searchAllFrom_sound hp _ false (Regex.Cursor.start cs)
  refine ⟨hascending, fun m hm hlt => ?_⟩
  obtain ⟨slots, hslots, hrange⟩ := List.mem_filterMap.1 hm
  obtain ⟨k, hsearch, -, hrest⟩ := hmem slots hslots
  have hindex : k.rest = cs.drop k.index := hrest
  obtain ⟨hfirst, -, hlast⟩ := (p.searchFrom_sound hp hsearch).range hrange
  rw [hindex, List.length_drop] at hlast
  omega

end Search

/-! ## A text and its positions -/

/-- How the bytes of a text go with the positions in it. -/
structure ExactPositions (text : String) : Prop where
  /-- The position of a byte and the byte of a position are each other's
  inverse, so no other position has a byte. -/
  inverse : ∀ (n : Nat) (p : Pos), Pos.atOffset? text.toList (lineStarts text.toList) n = some p ↔
    p.offset? text.toList = some n
  /-- A byte has a position exactly if a character begins there or the text
  ends. -/
  places : ∀ n : Nat, (Pos.atOffset? text.toList (lineStarts text.toList) n).isSome ↔
    String.Pos.Raw.IsValid text ⟨n⟩
  /-- Later bytes have later positions, and the other way round. -/
  increasing : ∀ (m n : Nat) (p q : Pos), p.offset? text.toList = some m →
    q.offset? text.toList = some n → (p.lt q = true ↔ m < n)
  /-- The byte of a position is found by taking its line out of the text,
  which is always there to be taken. -/
  byLine : ∀ p : Pos, Pos.offsetIn? text.toList p = some (p.offset? text.toList)
  /-- Ranges between places in the text that follow each other have a region
  for each that holds bytes, in their order and apart, and each region leads
  back to its range. -/
  regions : ∀ ms : List (Nat × Nat), Ascending 0 ms →
    (∀ m ∈ ms, String.Pos.Raw.IsValid text ⟨m.1⟩ ∧ String.Pos.Raw.IsValid text ⟨m.2⟩) →
    ∃ rs, regionsIn? text.toList ms = some rs ∧
      rs.map (·.offsets? text.toList) = (ms.filter fun m => m.1 != m.2).map some ∧
      rs.Pairwise Region.Before
  /-- The matches of every search are such ranges, and it finds their
  regions. -/
  found : ∀ (req : Find.Request) (p : Regex.Program), req.program = .ok p →
    let ms := (p.findAll text.toList).map (byteRange text.toList)
    Ascending 0 ms ∧
      (∀ m ∈ ms, String.Pos.Raw.IsValid text ⟨m.1⟩ ∧ String.Pos.Raw.IsValid text ⟨m.2⟩) ∧
      regionsIn? text.toList ms = some (findRegions p text)

/-- **The bytes and the positions of a text lead to each other exactly**, and
so do ranges of bytes and regions. -/
theorem exact_positions (text : String) : ExactPositions text where
  inverse n p := by rw [Pos.atOffset?_eq_some_iff, Pos.offset?_eq_some_iff]
  places n := by
    rw [Option.isSome_iff_exists, Utf8.isValid_iff]
    simp only [Pos.atOffset?_eq_some_iff]
    constructor
    · rintro ⟨p, front, rest, hcut, hsize, -⟩
      exact ⟨front, rest, hcut, hsize⟩
    · rintro ⟨front, rest, hcut, hsize⟩
      exact ⟨_, front, rest, hcut, hsize, rfl⟩
  increasing m n p q hp hq :=
    (Pos.offset?_eq_some_iff.1 hp).lt_iff (Pos.offset?_eq_some_iff.1 hq)
  byLine p := Pos.offsetIn?_eq text.toList p
  regions ms hms hvalid := by
    obtain ⟨rs, hrs⟩ := exists_regionsIn? hvalid
    have hspans := regionsIn?_eq_some_iff.1 hrs
    have hfilter := hms.filter fun m => m.1 != m.2
    exact ⟨rs, hrs, map_offsets?_eq hspans fun m hm => (hfilter.le m hm).2,
      pairwise_regions hspans hfilter⟩
  found req p hp := by
    obtain ⟨hascending, hwithin⟩ := findAll_within (Find.framed_program hp) text.toList
    refine ⟨hascending.byteRange text.toList, fun m hm => ?_,
      regionsIn?_byteRanges hascending hwithin⟩
    obtain ⟨m, -, rfl⟩ := List.mem_map.1 hm
    exact ⟨isValid_size_take text m.1, isValid_size_take text m.2⟩

/-- A place within a character has no position, and the end of the text has
one in an empty line. -/
example : (List.range 6).map (Pos.atOffset? "né\n".toList (lineStarts "né\n".toList)) =
    [some ⟨0, 0⟩, some ⟨0, 1⟩, none, some ⟨0, 2⟩, some ⟨1, 0⟩, none] := by decide +kernel

end CodeDesk
