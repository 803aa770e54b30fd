import CodeDesk.Text.Region
import Mathlib.Order.Nat
/-!
# Pieces — positions, and a text cut at its matches

The position after some characters depends on their line breaks and on
what follows the last one (`after_of_mem`, `after_of_not_mem`). From that
come the two facts everything about regions rests on: `index?` finds the
place that `after` computed (`index?_after`) and no other
(`index?_eq_some_iff`), and `shift` carries every position behind an edit to
where the same characters stand afterwards (`shift_after`).

A text with matches is a list of pieces, each a gap and the match behind
it, and a rest behind the last match. `cutFrom` cuts a text at ascending
ranges, and the regions of the ranges are those of the pieces
(`regionsFrom_eq`). Pieces make positions simple: a region of a piece
leads from what comes before it to what it holds (`indices?_middle`), and
an edit of one piece moves the regions behind it and no others
(`adjusted_of_before`, `adjusted_of_behind`).
-/

namespace CodeDesk

/-! ## Where the characters of a text stand -/

namespace Pos

@[simp] theorem after_nil (p : Pos) : p.after [] = p := rfl

@[simp] theorem after_cons (p : Pos) (c : Char) (cs : List Char) :
    p.after (c :: cs) = (p.step c).after cs := rfl

/-- Walking over two texts is walking over the one and then the other. -/
theorem after_append (p : Pos) (cs ds : List Char) :
    p.after (cs ++ ds) = (p.after cs).after ds := by
  rw [after, after, after, List.foldl_append]

/-- Without a line break the column counts on. -/
theorem after_of_not_mem {cs : List Char} (p : Pos) (h : '\n' ∉ cs) :
    p.after cs = ⟨p.line, p.col + cs.length⟩ := by
  induction cs generalizing p with
  | nil => rfl
  | cons c cs ih =>
    rw [List.mem_cons, not_or] at h
    rw [after_cons, step, if_neg (Ne.symm h.1), ih _ h.2]
    simp only [List.length_cons, Pos.mk.injEq, true_and]
    omega

/-- With a line break the lines count on, and the column is the one the
text gives by itself. -/
theorem after_of_mem {cs : List Char} (p : Pos) (h : '\n' ∈ cs) :
    p.after cs = ⟨p.line + (after ⟨0, 0⟩ cs).line, (after ⟨0, 0⟩ cs).col⟩ := by
  induction cs generalizing p with
  | nil => simp at h
  | cons c cs ih =>
    by_cases hcs : '\n' ∈ cs
    · rw [after_cons, after_cons, ih _ hcs, ih (step ⟨0, 0⟩ c) hcs]
      unfold step
      split <;> simp only [Pos.mk.injEq, and_true] <;> omega
    · have hc : c = '\n' := by
        rcases List.mem_cons.1 h with h | h
        · exact h.symm
        · exact absurd h hcs
      rw [after_cons, after_cons, step, step, if_pos hc, if_pos hc, after_of_not_mem _ hcs,
        after_of_not_mem _ hcs]

/-- A text with a line break leads to a later line. -/
theorem line_after_pos {cs : List Char} (h : '\n' ∈ cs) : 0 < (after ⟨0, 0⟩ cs).line := by
  induction cs with
  | nil => simp at h
  | cons c cs ih =>
    by_cases hcs : '\n' ∈ cs
    · rw [after_cons, after_of_mem _ hcs]
      have := ih hcs
      simp only
      omega
    · have hc : c = '\n' := by
        rcases List.mem_cons.1 h with h | h
        · exact h.symm
        · exact absurd h hcs
      rw [after_cons, step, if_pos hc, after_of_not_mem _ hcs]
      simp

/-! ## Positions and numbers of characters -/

/-- **`indexFrom` finds the position that a part of the text leads to.** -/
theorem indexFrom_after (i : Nat) (cs rest : List Char) :
    indexFrom i (cs ++ rest) (after ⟨0, 0⟩ cs).line (after ⟨0, 0⟩ cs).col =
      some (i + cs.length) := by
  induction cs generalizing i with
  | nil => rw [List.nil_append, after_nil, indexFrom]; rfl
  | cons c cs ih =>
    have hlen : i + (c :: cs).length = i + 1 + cs.length := by
      rw [List.length_cons]; omega
    rw [List.cons_append, after_cons, hlen]
    by_cases hc : c = '\n'
    · have hline : (step ⟨0, 0⟩ c).after cs =
          ⟨(after ⟨0, 0⟩ cs).line + 1, (after ⟨0, 0⟩ cs).col⟩ := by
        by_cases hcs : '\n' ∈ cs
        · rw [after_of_mem _ hcs, step, if_pos hc]
          simp only [Pos.mk.injEq, and_true]
          omega
        · rw [after_of_not_mem _ hcs, after_of_not_mem _ hcs, step, if_pos hc]
      rw [hline, indexFrom, if_pos hc, ih]
    · -- The character counts in the column only as long as no line ends behind it.
      by_cases hcs : '\n' ∈ cs
      · have hline : (step ⟨0, 0⟩ c).after cs = after ⟨0, 0⟩ cs := by
          rw [after_of_mem _ hcs, step, if_neg hc]
          simp
        obtain ⟨l, hl⟩ : ∃ l, (after ⟨0, 0⟩ cs).line = l + 1 :=
          ⟨_, (Nat.succ_pred_eq_of_pos (line_after_pos hcs)).symm⟩
        have := ih (i + 1)
        rw [hl] at this
        rw [hline, hl, indexFrom, if_neg hc, this]
      · have hcol : (step ⟨0, 0⟩ c).after cs = ⟨0, cs.length + 1⟩ := by
          rw [after_of_not_mem _ hcs, step, if_neg hc]
          simp only [Pos.mk.injEq, true_and]
          omega
        have := ih (i + 1)
        rw [after_of_not_mem _ hcs] at this
        simp only [Nat.zero_add] at this
        rw [hcol, indexFrom, if_neg hc, this]

/-- **The position that a part of a text leads to is the one after as many
characters.** -/
theorem index?_after (cs rest : List Char) :
    index? (cs ++ rest) (after ⟨0, 0⟩ cs) = some cs.length := by
  rw [index?, indexFrom_after, Nat.zero_add]

/-- From the start of a line the lines count on, and the column is the one
the text gives by itself. -/
theorem after_line_start (l : Nat) (cs : List Char) :
    after ⟨l, 0⟩ cs = ⟨l + (after ⟨0, 0⟩ cs).line, (after ⟨0, 0⟩ cs).col⟩ := by
  by_cases hcs : '\n' ∈ cs
  · exact after_of_mem ⟨l, 0⟩ hcs
  · rw [after_of_not_mem _ hcs, after_of_not_mem _ hcs]
    simp

/-- A text leads to its first line only if it has no line break. -/
theorem not_mem_of_line_eq_zero {cs : List Char} (h : (after ⟨0, 0⟩ cs).line = 0) :
    '\n' ∉ cs := by
  intro hcs
  have := line_after_pos hcs
  omega

/-- **Only a part of the text leads to what `indexFrom` finds.** -/
theorem exists_of_indexFrom {i line col k : Nat} {cs : List Char}
    (h : indexFrom i cs line col = some k) :
    ∃ front rest, cs = front ++ rest ∧ after ⟨0, 0⟩ front = ⟨line, col⟩ ∧
      k = i + front.length := by
  fun_induction indexFrom i cs line col with
  | case1 cs i =>
    obtain rfl : i = k := by simpa using h
    exact ⟨[], cs, rfl, rfl, rfl⟩
  | case2 => simp at h
  | case3 => simp at h
  | case4 i c cs col hc ih =>
    obtain ⟨front, rest, rfl, hafter, rfl⟩ := ih h
    -- No line has ended yet, so the character counts in the column.
    have hfront : '\n' ∉ front := not_mem_of_line_eq_zero (by rw [hafter])
    have hlen : front.length = col := by simpa [after_of_not_mem _ hfront] using hafter
    refine ⟨c :: front, rest, rfl, ?_, by simp only [List.length_cons]; omega⟩
    rw [after_cons, step, if_neg hc, after_of_not_mem _ hfront, hlen]
    simp only [Pos.mk.injEq, true_and]
    omega
  | case5 i cs line col ih =>
    obtain ⟨front, rest, rfl, hafter, rfl⟩ := ih h
    refine ⟨'\n' :: front, rest, rfl, ?_, by simp only [List.length_cons]; omega⟩
    rw [after_cons, step, if_pos rfl, after_line_start, hafter]
    simp only [Pos.mk.injEq, and_true]
    omega
  | case6 i c cs line col hc ih =>
    obtain ⟨front, rest, rfl, hafter, rfl⟩ := ih h
    -- A line has still to end, so the column starts anew behind it.
    have hfront : '\n' ∈ front := by
      refine Classical.byContradiction fun hnone => ?_
      simp [after_of_not_mem _ hnone] at hafter
    refine ⟨c :: front, rest, rfl, ?_, by simp only [List.length_cons]; omega⟩
    rw [after_cons, step, if_neg hc, after_of_mem _ hfront, hafter]
    simp

/-- **A position lies in a text exactly at the number of characters that lead
to it.** -/
theorem index?_eq_some_iff {cs : List Char} {p : Pos} {i : Nat} :
    index? cs p = some i ↔ i ≤ cs.length ∧ ofIndex cs i = p := by
  constructor
  · intro h
    obtain ⟨front, rest, rfl, hafter, hi⟩ := exists_of_indexFrom h
    have hlen : i = front.length := by omega
    refine ⟨by simp [hlen], ?_⟩
    rw [ofIndex, hlen, List.take_left' rfl, hafter]
  · rintro ⟨hi, rfl⟩
    have hfound := index?_after (cs.take i) (cs.drop i)
    rw [List.take_append_drop, List.length_take, Nat.min_eq_left hi] at hfound
    exact hfound

/-! ## The order of positions -/

/-- What comes later in a text has a greater position. -/
theorem lt_after {cs : List Char} (p : Pos) (h : cs ≠ []) : p.lt (p.after cs) = true := by
  by_cases hcs : '\n' ∈ cs
  · have := line_after_pos hcs
    rw [after_of_mem _ hcs, lt]
    simp only [Bool.or_eq_true, decide_eq_true_eq]
    left
    omega
  · have := List.length_pos_iff.2 h
    rw [after_of_not_mem _ hcs, lt]
    simp only [Bool.or_eq_true, decide_eq_true_eq, Bool.and_eq_true, beq_iff_eq]
    right
    exact ⟨trivial, by omega⟩

/-- Nothing in a text lies behind what comes later. -/
theorem after_lt (p : Pos) (cs : List Char) : (p.after cs).lt p = false := by
  by_cases hcs : '\n' ∈ cs
  · have := line_after_pos hcs
    rw [after_of_mem _ hcs, lt]
    simp only [Bool.or_eq_false_iff, decide_eq_false_iff_not, Bool.and_eq_false_iff,
      beq_eq_false_iff_ne]
    exact ⟨by omega, Or.inl (by omega)⟩
  · rw [after_of_not_mem _ hcs, lt]
    simp only [Bool.or_eq_false_iff, decide_eq_false_iff_not, Bool.and_eq_false_iff]
    exact ⟨by omega, Or.inr (by omega)⟩

/-- A position differs from every later one. -/
theorem after_ne {cs : List Char} (p : Pos) (h : cs ≠ []) : p.after cs ≠ p := by
  intro heq
  have hlt := lt_after p h
  have hself := after_lt p []
  rw [after_nil] at hself
  rw [heq, hself] at hlt
  cases hlt

/-- The characters before one place are those before an earlier one and those
between. -/
theorem take_append_sliceChars (cs : List Char) {i j : Nat} (h : i ≤ j) :
    cs.take i ++ sliceChars cs i j = cs.take j := by
  rw [sliceChars, ← List.take_add, Nat.add_sub_cancel' h]

/-- The position after some characters, seen from an earlier one. -/
theorem ofIndex_after {cs : List Char} {i j : Nat} (h : i ≤ j) :
    ofIndex cs j = (ofIndex cs i).after (sliceChars cs i j) := by
  rw [ofIndex, ← take_append_sliceChars cs h, after_append, ofIndex]

/-- **Positions are ordered as the numbers of characters before them.** -/
theorem ofIndex_lt_iff {cs : List Char} {i j : Nat} (hj : j ≤ cs.length) :
    (ofIndex cs i).lt (ofIndex cs j) = true ↔ i < j := by
  rcases Nat.lt_or_ge i j with hlt | hge
  · have hsome : sliceChars cs i j ≠ [] := by
      intro hnone
      have hlen := congrArg List.length hnone
      simp only [sliceChars, List.length_take, List.length_drop, List.length_nil] at hlen
      omega
    rw [ofIndex_after (Nat.le_of_lt hlt)]
    exact iff_of_true (lt_after _ hsome) hlt
  · rw [ofIndex_after hge, after_lt]
    exact iff_of_false Bool.false_ne_true (by omega)

/-! ## Edits -/

/-- **A position behind an edit keeps its characters.** Moved from the old
end `p` of the edited text to the new end `q`, it is the one that the same
characters lead to. -/
theorem shift_after (p q : Pos) (cs : List Char) : (p.after cs).shift p q = q.after cs := by
  by_cases hcs : '\n' ∈ cs
  · have := line_after_pos hcs
    rw [after_of_mem _ hcs, after_of_mem q hcs, shift, if_neg (by simp only; omega)]
    simp only [Pos.mk.injEq, and_true]
    omega
  · rw [after_of_not_mem _ hcs, after_of_not_mem q hcs, shift, if_pos rfl]
    simp only [Pos.mk.injEq, true_and]
    omega

end Pos

/-! ## A text cut at its matches -/

/-- A gap and the match behind it. -/
structure Piece where
  /-- What comes before the match. -/
  gap : List Char
  /-- The match. -/
  found : List Char
  deriving DecidableEq, Repr

/-- The text of pieces. -/
def textOf : List Piece → List Char
  | [] => []
  | x :: xs => x.gap ++ x.found ++ textOf xs

/-- A text from character number `here` on, cut at ascending ranges: the
pieces, and what follows the last of them. -/
def cutFrom (here : Nat) (cs : List Char) : List (Nat × Nat) → List Piece × List Char
  | [] => ([], cs)
  | (i, j) :: ms =>
    let ahead := cs.drop (i - here)
    let cut := cutFrom j (ahead.drop (j - i)) ms
    (⟨cs.take (i - here), ahead.take (j - i)⟩ :: cut.1, cut.2)

/-- The region of the match of a piece that starts at `p`. -/
def Piece.region (x : Piece) (p : Pos) : Region :=
  ⟨p.after x.gap, (p.after x.gap).after x.found⟩

/-- The regions of the matches of pieces that start at `p`. -/
def regionsAt (p : Pos) : List Piece → List Region
  | [] => []
  | x :: xs => x.region p :: regionsAt (x.region p).stop xs

/-- The characters that a region covers in the text `cs`, if it lies in
it. -/
def Region.slice? (cs : List Char) (r : Region) : Option (List Char) :=
  (r.indices? cs).map fun m => sliceChars cs m.1 m.2

@[simp] theorem textOf_cons (x : Piece) (xs : List Piece) :
    textOf (x :: xs) = x.gap ++ x.found ++ textOf xs := rfl

/-- The text of pieces in two parts. -/
theorem textOf_append (xs ys : List Piece) : textOf (xs ++ ys) = textOf xs ++ textOf ys := by
  induction xs with
  | nil => rfl
  | cons x xs ih =>
    simp only [List.cons_append, textOf_cons, ih, List.append_assoc]

/-- **Cutting loses nothing.** -/
theorem textOf_cutFrom (here : Nat) (cs : List Char) (ms : List (Nat × Nat)) :
    textOf (cutFrom here cs ms).1 ++ (cutFrom here cs ms).2 = cs := by
  induction ms generalizing here cs with
  | nil => rfl
  | cons m ms ih =>
    obtain ⟨i, j⟩ := m
    rw [cutFrom]
    simp only [textOf_cons, List.append_assoc, ih, List.take_append_drop]

/-- **The regions of ranges are those of the pieces between them.** -/
theorem regionsFrom_eq (p : Pos) (here : Nat) (cs : List Char) (ms : List (Nat × Nat)) :
    regionsFrom p here cs ms = regionsAt p (cutFrom here cs ms).1 := by
  induction ms generalizing p here cs with
  | nil => rfl
  | cons m ms ih =>
    obtain ⟨i, j⟩ := m
    rw [regionsFrom, cutFrom, regionsAt, ih]
    rfl

/-- Ranges that follow each other from `here` on. -/
def Ascending (here : Nat) : List (Nat × Nat) → Prop
  | [] => True
  | m :: ms => here ≤ m.1 ∧ m.1 ≤ m.2 ∧ Ascending m.2 ms

theorem Ascending.mono {here here' : Nat} {ms : List (Nat × Nat)} (h : Ascending here ms)
    (hle : here' ≤ here) : Ascending here' ms := by
  cases ms with
  | nil => trivial
  | cons m ms => exact ⟨hle.trans h.1, h.2⟩

/-- Each of the ranges is from there on. -/
theorem Ascending.le {here : Nat} {ms : List (Nat × Nat)} (h : Ascending here ms) :
    ∀ m ∈ ms, here ≤ m.1 ∧ m.1 ≤ m.2 := by
  induction ms generalizing here with
  | nil => exact fun m hm => absurd hm List.not_mem_nil
  | cons m ms ih =>
    obtain ⟨hhere, hrange, hrest⟩ := h
    exact List.forall_mem_cons.2 ⟨⟨hhere, hrange⟩, ih (hrest.mono (hhere.trans hrange))⟩

theorem Ascending.filter {here : Nat} {ms : List (Nat × Nat)} (h : Ascending here ms)
    (keep : Nat × Nat → Bool) : Ascending here (ms.filter keep) := by
  induction ms generalizing here with
  | nil => trivial
  | cons m ms ih =>
    obtain ⟨hhere, hrange, hrest⟩ := h
    rw [List.filter_cons]
    split
    · exact ⟨hhere, hrange, ih hrest⟩
    · exact ih (hrest.mono (hhere.trans hrange))

/-- **Each range has its own region**, wherever the others are. -/
theorem regionsFrom_ascending {here : Nat} {ms : List (Nat × Nat)} (h : Ascending here ms)
    (p : Pos) (cs : List Char) :
    regionsFrom p here cs ms =
      ms.map fun m => ⟨p.after (cs.take (m.1 - here)), p.after (cs.take (m.2 - here))⟩ := by
  induction ms generalizing here p cs with
  | nil => rfl
  | cons m ms ih =>
    obtain ⟨i, j⟩ := m
    obtain ⟨hhere, hrange, hrest⟩ := h
    have hstop : ∀ k, j ≤ k → (p.after (cs.take (j - here))).after
        ((cs.drop (j - here)).take (k - j)) = p.after (cs.take (k - here)) := by
      intro k hk
      rw [← Pos.after_append, ← List.take_add, show j - here + (k - j) = k - here by omega]
    have hmiddle : (p.after (cs.take (i - here))).after
        ((cs.drop (i - here)).take (j - i)) = p.after (cs.take (j - here)) := by
      rw [← Pos.after_append, ← List.take_add, show i - here + (j - i) = j - here by omega]
    have hbehind : (cs.drop (i - here)).drop (j - i) = cs.drop (j - here) := by
      rw [List.drop_drop, show i - here + (j - i) = j - here by omega]
    rw [regionsFrom, List.map_cons, hmiddle, hbehind, ih hrest]
    refine congrArg _ (List.map_congr_left fun m hm => ?_)
    obtain ⟨hfirst, hlast⟩ := hrest.le m hm
    rw [hstop m.1 hfirst, hstop m.2 (hfirst.trans hlast)]

/-- The regions of ranges that follow each other, each by itself. -/
theorem regionsOf_ascending {cs : List Char} {ms : List (Nat × Nat)} (h : Ascending 0 ms) :
    regionsOf cs ms = ms.map fun m => ⟨Pos.ofIndex cs m.1, Pos.ofIndex cs m.2⟩ :=
  regionsFrom_ascending h ⟨0, 0⟩ cs

/-- The regions of pieces in two parts. -/
theorem regionsAt_append (p : Pos) (xs ys : List Piece) :
    regionsAt p (xs ++ ys) = regionsAt p xs ++ regionsAt (p.after (textOf xs)) ys := by
  induction xs generalizing p with
  | nil => rfl
  | cons x xs ih =>
    simp only [List.cons_append, regionsAt, Piece.region, ih, textOf_cons, Pos.after_append]

/-- Every piece has its region. -/
theorem length_regionsAt (p : Pos) (xs : List Piece) : (regionsAt p xs).length = xs.length := by
  induction xs generalizing p with
  | nil => rfl
  | cons x xs ih => rw [regionsAt, List.length_cons, ih, List.length_cons]

/-- A region of pieces is that of some piece among them. -/
theorem exists_of_mem_regionsAt {p : Pos} {xs : List Piece} {r : Region}
    (h : r ∈ regionsAt p xs) :
    ∃ ys x zs, xs = ys ++ x :: zs ∧ r = x.region (p.after (textOf ys)) := by
  induction xs generalizing p with
  | nil => simp [regionsAt] at h
  | cons x xs ih =>
    rw [regionsAt, List.mem_cons] at h
    rcases h with rfl | h
    · exact ⟨[], x, xs, rfl, rfl⟩
    · obtain ⟨ys, y, zs, rfl, rfl⟩ := ih h
      refine ⟨x :: ys, y, zs, rfl, ?_⟩
      simp only [textOf_cons, Piece.region, Pos.after_append]

/-- **Matches with text have regions of their own**, since each region
starts behind the one before it. -/
theorem nodup_regionsAt {p : Pos} {xs : List Piece} (h : ∀ x ∈ xs, x.found ≠ []) :
    (regionsAt p xs).Nodup := by
  induction xs generalizing p with
  | nil => exact List.nodup_nil
  | cons x xs ih =>
    rw [regionsAt, List.nodup_cons]
    refine ⟨fun hmem => ?_, ih fun y hy => h y (List.mem_cons_of_mem x hy)⟩
    obtain ⟨ys, y, zs, -, heq⟩ := exists_of_mem_regionsAt hmem
    have hne : x.found ++ (textOf ys ++ y.gap) ≠ [] := fun hnil =>
      h x List.mem_cons_self (List.append_eq_nil_iff.1 hnil).1
    refine Pos.after_ne (p.after x.gap) hne ?_
    rw [Pos.after_append, Pos.after_append]
    exact (congrArg Region.start heq).symm

/-- A region of its own is neither before nor behind itself. -/
theorem not_mem_regionsAt_of_nodup {p : Pos} {xs zs : List Piece} {x : Piece}
    (h : (regionsAt p (xs ++ x :: zs)).Nodup) :
    x.region (p.after (textOf xs)) ∉ regionsAt p xs ∧
      x.region (p.after (textOf xs)) ∉ regionsAt (x.region (p.after (textOf xs))).stop zs := by
  rw [regionsAt_append, regionsAt] at h
  obtain ⟨-, hback, hapart⟩ := List.nodup_append.1 h
  exact ⟨fun hmem => hapart _ hmem _ List.mem_cons_self rfl, (List.nodup_cons.1 hback).1⟩

/-! ## A region within its text -/

section Middle

variable (before found behind : List Char)

/-- **A region leads to its characters.** -/
theorem indices?_middle :
    Region.indices? (before ++ found ++ behind)
        ⟨Pos.after ⟨0, 0⟩ before, (Pos.after ⟨0, 0⟩ before).after found⟩ =
      some (before.length, before.length + found.length) := by
  have hstart : Pos.index? (before ++ found ++ behind) (Pos.after ⟨0, 0⟩ before) =
      some before.length := by
    rw [List.append_assoc, Pos.index?_after]
  have hstop : Pos.index? (before ++ found ++ behind)
      ((Pos.after ⟨0, 0⟩ before).after found) = some (before.length + found.length) := by
    rw [← Pos.after_append, Pos.index?_after, List.length_append]
  simp only [Region.indices?, hstart, hstop]
  rw [if_pos (by omega)]

/-- The characters of a region. -/
theorem sliceChars_middle :
    sliceChars (before ++ found ++ behind) before.length (before.length + found.length) =
      found := by
  rw [sliceChars, List.append_assoc, List.drop_left', Nat.add_sub_cancel_left, List.take_left']
  all_goals rfl

/-- What a region covers in its text. -/
theorem slice?_middle :
    Region.slice? (before ++ found ++ behind)
        ⟨Pos.after ⟨0, 0⟩ before, (Pos.after ⟨0, 0⟩ before).after found⟩ = some found := by
  rw [Region.slice?, indices?_middle, Option.map_some, sliceChars_middle]

/-- The text with the characters of a region exchanged. -/
theorem spliceChars_middle (new : List Char) :
    spliceChars (before ++ found ++ behind) before.length (before.length + found.length) new =
      before ++ new ++ behind := by
  rw [spliceChars, ← List.length_append, List.drop_left' rfl, List.append_assoc before,
    List.take_left' rfl]

end Middle

/-! ## Regions around an edit -/

/-- **A region before an edit stays where it is.** -/
theorem adjusted_of_before {start stop : Pos} {between old : List Char} (newStop : Pos)
    (hold : old ≠ []) :
    Region.adjusted ⟨start, stop⟩
        ⟨⟨stop.after between, (stop.after between).after old⟩, newStop⟩ = some ⟨start, stop⟩ := by
  have hne : (⟨start, stop⟩ : Region) ≠ ⟨stop.after between, (stop.after between).after old⟩ := by
    intro heq
    rw [Region.mk.injEq, ← Pos.after_append] at heq
    exact Pos.after_ne stop (by simp [hold]) heq.2.symm
  have hover : Region.overlaps ⟨start, stop⟩
      ⟨stop.after between, (stop.after between).after old⟩ = false := by
    rw [Region.overlaps, Pos.after_lt, Bool.and_false]
  rw [Region.adjusted, if_neg (by simp [hne, hover]), if_pos (by simp [Pos.le, Pos.after_lt])]

/-- **A region behind an edit moves along with the text it is in.** -/
theorem adjusted_of_behind {start newStop : Pos} {old between found : List Char}
    (hold : old ≠ []) :
    Region.adjusted
        ⟨(start.after old).after between, ((start.after old).after between).after found⟩
        ⟨⟨start, start.after old⟩, newStop⟩ =
      some ⟨newStop.after between, (newStop.after between).after found⟩ := by
  have hlt : start.lt (((start.after old).after between).after found) = true := by
    rw [← Pos.after_append, ← Pos.after_append]
    exact Pos.lt_after start (by simp [hold])
  have hne : (⟨(start.after old).after between,
      ((start.after old).after between).after found⟩ : Region) ≠ ⟨start, start.after old⟩ := by
    intro heq
    rw [Region.mk.injEq, ← Pos.after_append] at heq
    exact Pos.after_ne start (by simp [hold]) heq.1
  have hover : Region.overlaps
      ⟨(start.after old).after between, ((start.after old).after between).after found⟩
      ⟨start, start.after old⟩ = false := by
    rw [Region.overlaps, Pos.after_lt, Bool.false_and]
  rw [Region.adjusted, if_neg (by simp [hne, hover]), if_neg (by simp [Pos.le, hlt])]
  rw [Pos.shift_after, ← Pos.after_append (start.after old), Pos.shift_after, Pos.after_append]

end CodeDesk
