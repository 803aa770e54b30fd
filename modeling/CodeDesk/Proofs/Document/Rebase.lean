import CodeDesk.Document.Buffer
import CodeDesk.Proofs.Text.LineStarts
/-!
# Rebase — regions carried over an edit

An edit of a buffer names the region it replaced and the end of the new
text. Whoever holds other regions of the old text carries them over with
`Region.adjusted`, line by line and column by column, without looking at
either text. `Buffer.replace_rebases` says that this is exact: a region is
dropped only if the edit touched it, and any other leads to the characters
that it led to before, at the same bytes or moved by as many as the text
has grown.

Lines and columns are compared with numbers of characters first: a region
lies in a text exactly between two of these (`Region.indices?_eq_some_iff`),
and the tests of `adjusted` are those of the numbers (`overlaps_iff`,
`le_iff`). Then each side of the edit is one lemma (`adjusted_left`,
`adjusted_right`).
-/

namespace CodeDesk

namespace Pos

/-- Both differences in `Pos.shift` are those of whole numbers: neither
takes away more than there is. -/
def ShiftFits (p oldEnd newEnd : Pos) : Prop :=
  if p.line = oldEnd.line then oldEnd.col ≤ p.col else oldEnd.line ≤ p.line + newEnd.line

/-- What stands behind the old end can be shifted. -/
theorem shiftFits_after (p q : Pos) (cs : List Char) : (p.after cs).ShiftFits p q := by
  by_cases hcs : '\n' ∈ cs
  · have := line_after_pos hcs
    rw [after_of_mem _ hcs, ShiftFits, if_neg (by simp only; omega)]
    simp only
    omega
  · rw [after_of_not_mem _ hcs, ShiftFits, if_pos rfl]
    simp

end Pos

namespace Region

variable {cs new : List Char} {q r : Region} {a b i j : Nat}

/-- The region between two numbers of characters. -/
def between (cs : List Char) (i j : Nat) : Region := ⟨Pos.ofIndex cs i, Pos.ofIndex cs j⟩

/-- **A region lies in a text exactly between two numbers of characters.** -/
theorem indices?_eq_some_iff :
    r.indices? cs = some (i, j) ↔ i ≤ j ∧ j ≤ cs.length ∧ between cs i j = r := by
  have hgiven : r.indices? cs = some (i, j) ↔
      r.start.index? cs = some i ∧ r.stop.index? cs = some j ∧ i ≤ j := by
    unfold indices?
    split
    · next k l hk hl =>
      rw [hk, hl]
      simp only [Option.ite_none_right_eq_some, Option.some.injEq, Prod.mk.injEq]
      constructor
      · rintro ⟨hle, rfl, rfl⟩
        exact ⟨rfl, rfl, hle⟩
      · rintro ⟨rfl, rfl, hle⟩
        exact ⟨hle, rfl, rfl⟩
    · next hnone =>
      constructor
      · intro h
        simp at h
      · rintro ⟨hi, hj, -⟩
        exact absurd hj (hnone i j hi)
  rw [hgiven, Pos.index?_eq_some_iff, Pos.index?_eq_some_iff, between]
  constructor
  · rintro ⟨⟨-, hstart⟩, ⟨hj, hstop⟩, hij⟩
    exact ⟨hij, hj, by rw [hstart, hstop]⟩
  · rintro ⟨hij, hj, rfl⟩
    exact ⟨⟨by omega, rfl⟩, ⟨hj, rfl⟩, hij⟩

/-- The offsets of a region are those of its numbers of characters. -/
theorem exists_indices_of_offsets {s e : Nat} (h : r.offsets? cs = some (s, e)) :
    ∃ i j, r.indices? cs = some (i, j) ∧ s = Utf8.size (cs.take i) ∧
      e = Utf8.size (cs.take j) := by
  obtain ⟨⟨i, j⟩, hij, heq⟩ := Option.map_eq_some_iff.1 h
  rw [Prod.mk.injEq] at heq
  exact ⟨i, j, hij, heq.1.symm, heq.2.symm⟩

theorem overlaps_iff (hb : b ≤ cs.length) (hj : j ≤ cs.length) :
    (between cs a b).overlaps (between cs i j) = true ↔ a < j ∧ i < b := by
  rw [overlaps, Bool.and_eq_true, between, between, Pos.ofIndex_lt_iff hj, Pos.ofIndex_lt_iff hb]

theorem le_iff (hb : b ≤ cs.length) :
    (Pos.ofIndex cs b).le (Pos.ofIndex cs i) = true ↔ b ≤ i := by
  rw [Pos.le, Bool.not_eq_true', ← Bool.not_eq_true, Pos.ofIndex_lt_iff hb, Nat.not_lt]

/-- **A region is dropped exactly if it is the one that was replaced or
shares a position with it.** -/
theorem adjusted_eq_none_iff (e : TextEdit) :
    q.adjusted e = none ↔ q = e.region ∨ q.overlaps e.region = true := by
  unfold adjusted
  split
  · next h => simpa using h
  · next h =>
    rw [Bool.or_eq_true, decide_eq_true_eq] at h
    split <;> simpa using h

/-- A region that is not dropped lies on one side of the edit. -/
theorem apart_of_not_touched (hb : b ≤ cs.length) (hj : j ≤ cs.length)
    (h : ¬(between cs a b = between cs i j ∨ (between cs a b).overlaps (between cs i j) = true)) :
    b ≤ i ∨ (j ≤ a ∧ i < b) := by
  rw [overlaps_iff hb hj] at h
  by_cases hbi : b ≤ i
  · exact Or.inl hbi
  · refine Or.inr ⟨?_, by omega⟩
    by_contra hlt
    exact h (Or.inr ⟨by omega, by omega⟩)

/-! ## Before the edit -/

/-- **A region before the edit is what it was, and leads to what it led
to.** -/
theorem adjusted_left (new : List Char) (hab : a ≤ b) (hbi : b ≤ i) (hij : i ≤ j) (hj : j ≤ cs.length)
    (newStop : Pos)
    (h : ¬(between cs a b = between cs i j ∨ (between cs a b).overlaps (between cs i j) = true)) :
    (between cs a b).adjusted ⟨between cs i j, newStop⟩ = some (between cs a b) ∧
      (between cs a b).indices? (spliceChars cs i j new) = some (a, b) := by
  have hi : i ≤ cs.length := by omega
  constructor
  · have hle : (between cs a b).stop.le (between cs i j).start = true :=
      (le_iff (by omega)).2 hbi
    rw [adjusted, if_neg (by simpa using h), if_pos hle]
  · have hsame : between (spliceChars cs i j new) a b = between cs a b := by
      simp only [between, Pos.ofIndex]
      rw [take_splice_of_le hi (by omega), take_splice_of_le hi hbi]
    have hlen := length_splice j new hi
    exact indices?_eq_some_iff.2 ⟨hab, by omega, hsame⟩

/-! ## Behind the edit -/

/-- The end of the new text, as a number of characters. -/
theorem ofIndex_newStop (hi : i ≤ cs.length) :
    (Pos.ofIndex cs i).after new = Pos.ofIndex (spliceChars cs i j new) (i + new.length) := by
  rw [Pos.ofIndex, ← Pos.after_append, Pos.ofIndex, take_splice_new j new hi]

/-- **What stands behind the edit moves to where the same characters stand
afterwards.** -/
theorem shift_ofIndex (hi : i ≤ cs.length) (hja : j ≤ a) :
    (Pos.ofIndex cs a).shift (Pos.ofIndex cs j) ((Pos.ofIndex cs i).after new) =
      Pos.ofIndex (spliceChars cs i j new) (i + new.length + (a - j)) := by
  rw [Pos.ofIndex_after hja, Pos.shift_after, Pos.ofIndex, ← Pos.after_append,
    ← Pos.after_append, Pos.ofIndex, take_splice hi, List.append_assoc]

/-- **A region behind the edit moves along, and leads to what it led to.** -/
theorem adjusted_right (new : List Char) (hab : a ≤ b) (hb : b ≤ cs.length) (hja : j ≤ a) (hib : i < b)
    (h : ¬(between cs a b = between cs i j ∨ (between cs a b).overlaps (between cs i j) = true)) :
    ∃ q', (between cs a b).adjusted ⟨between cs i j, (Pos.ofIndex cs i).after new⟩ = some q' ∧
      q'.indices? (spliceChars cs i j new) =
        some (i + new.length + (a - j), i + new.length + (b - j)) := by
  have hi : i ≤ cs.length := by omega
  have hlen := length_splice j new hi
  refine ⟨between (spliceChars cs i j new) (i + new.length + (a - j))
    (i + new.length + (b - j)), ?_, ?_⟩
  · have hgt : ¬(between cs a b).stop.le (between cs i j).start = true := by
      intro hle
      have := (le_iff (by omega)).1 hle
      omega
    rw [adjusted, if_neg (by simpa using h), if_neg hgt]
    simp only [between, shift_ofIndex hi hja, shift_ofIndex hi (hja.trans hab)]
  · exact indices?_eq_some_iff.2 ⟨by omega, by omega, rfl⟩

end Region

/-! ## The edit of a buffer -/

/-- A text after the edit `e`, which put `new` in the place of the bytes from
`s` up to `t`, and the regions that are carried over it. -/
structure Rebases (before after : String) (s t : Nat) (new : String) (e : TextEdit) : Prop where
  /-- The bytes of the region are exchanged, and no others. -/
  bytes : Utf8.encode after =
    (Utf8.encode before).take s ++ Utf8.encode new ++ (Utf8.encode before).drop t
  /-- The edit tells where the new text ends. -/
  stop : e.stop.offset? after.toList = some (s + (Utf8.encode new).length)
  /-- A region is dropped exactly if the edit replaced it or a position of
  it. -/
  dropped : ∀ q : Region, (q.offsets? before.toList).isSome →
    (q.adjusted e = none ↔ q = e.region ∨ q.overlaps e.region = true)
  /-- Any other region leads to the characters that it led to. Before the
  edit it stays at its bytes, and behind it, it moves by as many as there are
  more than before; what is subtracted then is there. -/
  kept : ∀ (q : Region) (a b : Nat), q.offsets? before.toList = some (a, b) →
    ¬(q = e.region ∨ q.overlaps e.region = true) →
    ∃ q' a' b', q.adjusted e = some q' ∧ q'.offsets? after.toList = some (a', b') ∧
      q'.slice? after.toList = q.slice? before.toList ∧
      if q.stop.le e.region.start then q' = q ∧ a' = a ∧ b' = b
      else
        e.region.stop.le q.start = true ∧
        (a' : Int) = a + ((Utf8.encode new).length - ((t : Int) - s)) ∧
        (b' : Int) = b + ((Utf8.encode new).length - ((t : Int) - s)) ∧
        q.start.ShiftFits e.region.stop e.stop ∧ q.stop.ShiftFits e.region.stop e.stop

section Offsets

variable {cs new : List Char} {a b i j : Nat}

/-- Up to a place before the exchange there are as many bytes as before. -/
theorem size_take_splice_left (hi : i ≤ cs.length) (hai : a ≤ i) :
    Utf8.size ((spliceChars cs i j new).take a) = Utf8.size (cs.take a) := by
  rw [take_splice_of_le hi hai]

/-- Up to a place behind the exchange there are as many bytes more as the text
has grown. -/
theorem size_take_splice_right (hi : i ≤ cs.length) (hja : j ≤ a) :
    (Utf8.size ((spliceChars cs i j new).take (i + new.length + (a - j))) : Int) =
      Utf8.size (cs.take a) +
        (Utf8.size new - ((Utf8.size (cs.take j) : Int) - Utf8.size (cs.take i))) := by
  have hbefore := Utf8.size_take cs hja
  rw [take_splice hi, Utf8.size_append, Utf8.size_append, hbefore]
  push_cast
  omega

theorem slice?_of_indices {r : Region} (h : r.indices? cs = some (i, j)) :
    r.slice? cs = some (sliceChars cs i j) := by
  rw [Region.slice?, h, Option.map_some]

theorem offsets?_of_indices {r : Region} (h : r.indices? cs = some (i, j)) :
    r.offsets? cs = some (Utf8.size (cs.take i), Utf8.size (cs.take j)) := by
  rw [Region.offsets?, h, Option.map_some]

end Offsets

/-- **Carrying regions over an exchange of characters is exact.** -/
theorem rebases_splice {cs new : List Char} {r : Region} {i j : Nat}
    (h : r.indices? cs = some (i, j)) :
    Rebases (String.ofList cs) (String.ofList (spliceChars cs i j new)) (Utf8.size (cs.take i))
      (Utf8.size (cs.take j)) (String.ofList new) ⟨r, r.start.after new⟩ := by
  obtain ⟨hij, hj, rfl⟩ := Region.indices?_eq_some_iff.1 h
  have hi : i ≤ cs.length := hij.trans hj
  have hlen := length_splice j new hi
  refine ⟨Utf8.encode_splice cs i j new, ?_, fun q _ => Region.adjusted_eq_none_iff _, ?_⟩
  · -- The new text ends after as many characters as there are before and in it.
    have hstop : Pos.index? (spliceChars cs i j new) ((Pos.ofIndex cs i).after new) =
        some (i + new.length) :=
      Pos.index?_eq_some_iff.2 ⟨by omega, (Region.ofIndex_newStop hi).symm⟩
    simp only [String.toList_ofList, Pos.offset?, Region.between, hstop, Option.map_some,
      take_splice_new j new hi, Utf8.size_append, Utf8.size_eq_length new]
  · intro q s t hq htouched
    simp only [String.toList_ofList] at hq ⊢
    obtain ⟨a, b, hab, rfl, rfl⟩ := Region.exists_indices_of_offsets hq
    obtain ⟨hle, hb, rfl⟩ := Region.indices?_eq_some_iff.1 hab
    rcases Region.apart_of_not_touched hb hj htouched with hbi | ⟨hja, hib⟩
    · obtain ⟨hkept, hfound⟩ :=
        Region.adjusted_left new hle hbi hij hj ((Pos.ofIndex cs i).after new) htouched
      have hbefore : (Region.between cs a b).stop.le (Region.between cs i j).start = true :=
        (Region.le_iff hb).2 hbi
      refine ⟨_, _, _, hkept, offsets?_of_indices hfound, ?_, ?_⟩
      · rw [slice?_of_indices hfound, slice?_of_indices hab, sliceChars_splice_of_le hi hbi]
      · rw [if_pos hbefore]
        exact ⟨rfl, size_take_splice_left hi (hle.trans hbi), size_take_splice_left hi hbi⟩
    · obtain ⟨q', hkept, hfound⟩ := Region.adjusted_right new hle hb hja hib htouched
      have hbehind : ¬(Region.between cs a b).stop.le (Region.between cs i j).start = true := by
        intro hbefore
        have := (Region.le_iff hb).1 hbefore
        omega
      have hfits : ∀ c, j ≤ c →
          (Pos.ofIndex cs c).ShiftFits (Pos.ofIndex cs j) ((Pos.ofIndex cs i).after new) := by
        intro c hjc
        rw [Pos.ofIndex_after hjc]
        exact Pos.shiftFits_after _ _ _
      refine ⟨q', _, _, hkept, offsets?_of_indices hfound, ?_, ?_⟩
      · rw [slice?_of_indices hfound, slice?_of_indices hab, sliceChars_splice_of_ge hi hja hle]
      · rw [if_neg hbehind, ← Utf8.size_eq_length]
        exact ⟨(Region.le_iff hj).2 hja, size_take_splice_right hi hja,
          size_take_splice_right hi (hja.trans hle), hfits a hja, hfits b (hja.trans hle)⟩

namespace Buffer

/-- **Regions are carried over the edit of a buffer exactly.** Replacing a
region that lies in the text succeeds. It exchanges the bytes of the region
for those of the new text, in the case of the old one if that is asked for;
and every other region that the edit has not touched leads afterwards, as
adjusted, to the same characters as before. -/
theorem replace_rebases (b : Buffer) (now : Stamp) (r : Region) (text : String) (keepCase : Bool)
    {s t : Nat} (h : r.offsets? b.text.toList = some (s, t)) :
    ∃ b' e old new, b.replace now r text keepCase = .ok (b', e) ∧ e.region = r ∧
      r.slice? b.text.toList = some old ∧
      new = (if keepCase then matchCase (String.ofList old) text else text) ∧
      Rebases b.text b'.text s t new e := by
  obtain ⟨i, j, hij, rfl, rfl⟩ := Region.exists_indices_of_offsets h
  obtain ⟨new, hnew⟩ : ∃ new, new =
      if keepCase then matchCase (String.ofList (sliceChars b.text.toList i j)) text else text :=
    ⟨_, rfl⟩
  have hreplace : b.replace now r text keepCase =
      .ok (b.setText now (String.ofList (spliceChars b.text.toList i j new.toList)),
        ⟨r, r.start.after new.toList⟩) := by
    rw [hnew, replace, hij]
  have hrebases : Rebases (String.ofList b.text.toList)
      (String.ofList (spliceChars b.text.toList i j new.toList)) _ _ (String.ofList new.toList)
      ⟨r, r.start.after new.toList⟩ := rebases_splice hij
  rw [String.ofList_toList, String.ofList_toList] at hrebases
  exact ⟨_, _, _, new, hreplace, rfl, slice?_of_indices hij, hnew, hrebases⟩

/-- An edit over a line break, of letters of more than one byte. -/
theorem replace_rebases_lines :
    let b := ofText 0 ⟨"a.txt"⟩ "né\nab cd\nx"
    let r : Region := ⟨⟨0, 1⟩, ⟨1, 2⟩⟩
    r.offsets? b.text.toList = some (1, 6) ∧
      ∃ b' e old new, b.replace 1 r "uü\nö" false = .ok (b', e) ∧ e.region = r ∧
        r.slice? b.text.toList = some old ∧ new = "uü\nö" ∧
        Rebases b.text b'.text 1 6 new e :=
  have h : Region.offsets? "né\nab cd\nx".toList ⟨⟨0, 1⟩, ⟨1, 2⟩⟩ = some (1, 6) := by decide
  ⟨h, replace_rebases _ 1 _ "uü\nö" false h⟩

end Buffer
end CodeDesk
