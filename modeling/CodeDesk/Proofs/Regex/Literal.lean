import CodeDesk.Proofs.Regex.Occurrence
import CodeDesk.Regex.Search
/-!
# Searching for a plain text

The program of a plain text is one chain of instructions (`Spells`): the
instruction that still needs `m` characters stands at `m + 1`. A thread on
it is therefore known by where it started (`threadAt`), the threads of a
walk differ in their instructions, and none is ever dropped as seen
before. What a walk returns is read off its oldest thread that goes on to
fit (`walk_spells`), and a search that is started again behind each match
finds the `occurrences` (`findAll_literal`).
-/

namespace CodeDesk
namespace Regex

open Unicode

/-! ## The program of a plain text -/

/-- A program that is one chain: the start of the match, a character for
each set, the end of the match. -/
structure Spells (p : Program) (sets : List CharSet) : Prop where
  groups : p.groups = 1
  entry : p.entry = sets.length + 2
  size : p.code.size = sets.length + 3
  final : p.code[0]? = some .done
  stop : p.code[1]? = some (.save 1 0)
  char : ∀ s rest, s :: rest <:+ sets →
    p.code[rest.length + 2]? = some (.char s (rest.length + 1))
  start : p.code[sets.length + 2]? = some (.save 0 (sets.length + 1))

/-- A sequence is placed from its end. -/
theorem place_seq_cons (e : Expr) (es : List Expr) (next : Nat) (code : Code) :
    (Expr.seq (e :: es)).place next code =
      e.place ((Expr.seq es).place next code).1 ((Expr.seq es).place next code).2 := by
  cases es <;> rfl

/-- The characters of a plain text in front of the end of the match. -/
theorem place_chars (sets : List CharSet) :
    ∃ code : Code, (Expr.seq (sets.map .chars)).place 1 #[.done, .save 1 0] =
        (sets.length + 1, code) ∧ code.size = sets.length + 2 ∧ code[0]? = some .done ∧
      code[1]? = some (.save 1 0) ∧ ∀ s rest, s :: rest <:+ sets →
        code[rest.length + 2]? = some (.char s (rest.length + 1)) := by
  -- The chain is built from its end, so what is there stays where it is.
  induction sets with
  | nil => exact ⟨#[.done, .save 1 0], rfl, rfl, rfl, rfl, fun s rest h => by simp at h⟩
  | cons t sets ih =>
    obtain ⟨code, hplace, hsize, hfinal, hstop, hchar⟩ := ih
    refine ⟨code.push (.char t (sets.length + 1)), ?_, ?_, ?_, ?_, ?_⟩
    · rw [List.map_cons, place_seq_cons, hplace, Expr.place, hsize, List.length_cons]
    · rw [Array.size_push, hsize, List.length_cons]
    · rw [Array.getElem?_push, if_neg (by omega), hfinal]
    · rw [Array.getElem?_push, if_neg (by omega), hstop]
    · intro s rest h
      rcases List.suffix_cons_iff.1 h with heq | h
      · cases heq
        rw [Array.getElem?_push, if_pos hsize.symm]
      · have := h.length_le
        rw [List.length_cons] at this
        rw [Array.getElem?_push, if_neg (by omega), hchar s rest h]

/-- **The program of a plain text spells it.** -/
theorem spells_literal (ignoreCase : Bool) (s : String) :
    Spells (literal ignoreCase s) (setsOf ignoreCase s) := by
  obtain ⟨code, hplace, hsize, hfinal, hstop, hchar⟩ := place_chars (setsOf ignoreCase s)
  have hcode : literal ignoreCase s =
      ⟨code.push (.save 0 ((setsOf ignoreCase s).length + 1)), code.size, 1, []⟩ := by
    have hexpr : literalExpr ignoreCase s = Expr.seq ((setsOf ignoreCase s).map .chars) := by
      rw [literalExpr, setsOf, List.map_map]
      rfl
    have hbase : (#[.done] : Code).push (.save 1 0) = #[.done, .save 1 0] := rfl
    rw [literal, Program.ofExpr, Expr.place, hexpr]
    simp only [List.size_toArray, List.length_cons, List.length_nil, Nat.mul_zero, Nat.zero_add,
      hbase, hplace]
  rw [hcode]
  refine ⟨rfl, hsize, ?_, ?_, ?_, fun t rest h => ?_, ?_⟩
  · rw [Array.size_push, hsize]
  · rw [Array.getElem?_push, if_neg (by omega), hfinal]
  · rw [Array.getElem?_push, if_neg (by omega), hstop]
  · have := h.length_le
    rw [List.length_cons] at this
    rw [Array.getElem?_push, if_neg (by omega), hchar t rest h]
  · rw [Array.getElem?_push, if_pos hsize.symm]

/-! ## Following threads -/

section Follow

variable (p : Program) (index : Nat) (before after : Option Char)

/-- Threads that were found stay found. -/
theorem follow_waiting (fuel seen : Nat) (waiting stack : List Thread) :
    ∃ found, (follow p index before after fuel seen waiting stack).2 = found ++ waiting := by
  induction fuel generalizing seen waiting stack with
  | zero => exact ⟨[], rfl⟩
  | succ fuel ih =>
    cases stack with
    | nil => exact ⟨[], rfl⟩
    | cons t stack =>
      have hpush : ∃ found, (follow p index before after fuel (seen ||| 1 <<< t.place)
          (t :: waiting) stack).2 = found ++ waiting := by
        obtain ⟨found, hfound⟩ := ih (seen ||| 1 <<< t.place) (t :: waiting) stack
        exact ⟨found ++ [t], by rw [hfound, List.append_assoc, List.singleton_append]⟩
      rw [follow]
      split
      · exact ih _ _ _
      · split
        · exact ih _ _ _
        · exact hpush
        · exact hpush
        · split
          · exact ih _ _ _
          · exact ih _ _ _
        · exact ih _ _ _
        · exact ih _ _ _

/-- **Threads at different characters are all kept, in their order.** -/
theorem follow_chars (ts tail : List Thread) (fuel seen : Nat) (waiting : List Thread)
    (hchar : ∀ t ∈ ts, ∃ s next, p.code[t.place]? = some (.char s next))
    (hapart : ts.Pairwise (·.place ≠ ·.place))
    (hseen : ∀ t ∈ ts, seen.testBit t.place = false) :
    ∃ seen', follow p index before after (ts.length + fuel) seen waiting (ts ++ tail) =
        follow p index before after fuel seen' (ts.reverse ++ waiting) tail ∧
      ∀ m, (∀ t ∈ ts, t.place ≠ m) → seen.testBit m = false → seen'.testBit m = false := by
  induction ts generalizing seen waiting with
  | nil => exact ⟨seen, by rw [List.length_nil, Nat.zero_add]; rfl, fun _ _ h => h⟩
  | cons t ts ih =>
    obtain ⟨s, next, ht⟩ := hchar t List.mem_cons_self
    obtain ⟨hfirst, hrest⟩ := List.pairwise_cons.1 hapart
    have hkeep : ∀ m, t.place ≠ m → seen.testBit m = false →
        (seen ||| 1 <<< t.place).testBit m = false := by
      intro m hne hm
      rw [Nat.testBit_or, hm, Nat.one_shiftLeft, Nat.testBit_two_pow, Bool.false_or]
      exact decide_eq_false hne
    obtain ⟨seen', heq, hold⟩ := ih (seen ||| 1 <<< t.place) (t :: waiting)
      (fun u hu => hchar u (List.mem_cons_of_mem t hu)) hrest
      (fun u hu => hkeep _ (hfirst u hu) (hseen u (List.mem_cons_of_mem t hu)))
    refine ⟨seen', ?_, fun m hne hm => ?_⟩
    · have hfuel : (t :: ts).length + fuel = (ts.length + fuel) + 1 := by
        rw [List.length_cons]; omega
      rw [hfuel, List.cons_append, follow, hseen t List.mem_cons_self]
      simp only [Bool.false_eq_true, if_false, ht]
      rw [heq, List.reverse_cons, List.append_assoc, List.singleton_append]
    · exact hold m (fun u hu => hne u (List.mem_cons_of_mem t hu))
        (hkeep m (hne t List.mem_cons_self) hm)

end Follow

/-! ## The threads of a walk -/

/-- The thread that started at character number `a`, before character
number `index`. -/
def threadAt (sets : List CharSet) (index a : Nat) : Thread :=
  ⟨sets.length - (index - a) + 1, #[some a, none]⟩

/-- Where the threads of a walk started: in their order, and not so long
ago that a match would have ended. -/
structure Underway (n index : Nat) (starts : List Nat) : Prop where
  ascending : starts.Pairwise (· < ·)
  started : ∀ a ∈ starts, a < index ∧ index ≤ a + n

/-- Threads that go on and the new one behind them have not come to the end
of a match. -/
theorem Underway.within {n index : Nat} {starts : List Nat} (hway : Underway n index starts)
    (hpos : 0 < n) (hon : ∀ a ∈ starts, index < a + n) :
    ∀ a ∈ starts ++ [index], a ≤ index ∧ index < a + n := by
  intro a ha
  rcases List.mem_append.1 ha with ha | ha
  · exact ⟨Nat.le_of_lt (hway.started a ha).1, hon a ha⟩
  · rw [List.mem_singleton.1 ha]
    exact ⟨Nat.le_refl _, Nat.lt_add_of_pos_right hpos⟩

/-- **Over a character** some of them go on. -/
theorem Underway.next {n index : Nat} {starts : List Nat} (hway : Underway n index starts)
    (hpos : 0 < n) (hon : ∀ a ∈ starts, index < a + n) (goes : Nat → Bool) :
    Underway n (index + 1) ((starts ++ [index]).filter goes) := by
  refine ⟨List.Pairwise.filter _ ?_, fun a ha => ?_⟩
  · rw [List.pairwise_append]
    refine ⟨hway.ascending, List.pairwise_singleton _ _, fun a ha b hb => ?_⟩
    rw [List.mem_singleton.1 hb]
    exact (hway.started a ha).1
  · have := hway.within hpos hon a (List.mem_filter.1 ha).1
    omega

/-- The slots of a match that started at `a`. -/
def slotsOf (sets : List CharSet) (a : Nat) : Slots := #[some a, some (a + sets.length)]

/-- The start of the match that a walk returns: that of the oldest thread
whose remaining sets fit, or else the first occurrence ahead. -/
def leading (sets : List CharSet) (index : Nat) (cs : List Char) (starts : List Nat) :
    Option Nat :=
  match starts.find? fun a => fit (sets.drop (index - a)) cs with
  | some a => some a
  | none => firstFrom sets index cs

section Walk

variable {p : Program} {sets : List CharSet} {index a : Nat} {starts : List Nat}
  (before after : Option Char)

/-- A thread waits for the first of its remaining sets. -/
theorem char_threadAt (h : Spells p sets) (hlt : index - a < sets.length) :
    p.code[(threadAt sets index a).place]? =
      some (.char sets[index - a] (sets.length - (index - a))) := by
  have hdrop := List.drop_eq_getElem_cons hlt
  have hchar := h.char sets[index - a] (sets.drop (index - a + 1))
    (hdrop ▸ List.drop_suffix _ _)
  rw [List.length_drop] at hchar
  rw [threadAt, show sets.length - (index - a) + 1 = sets.length - (index - a + 1) + 2 by omega,
    hchar, show sets.length - (index - a + 1) + 1 = sets.length - (index - a) by omega]

/-- **No thread of a walk is dropped**: those under way wait on, and the
new one waits for the first character. -/
theorem follow_underway (h : Spells p sets) (hsets : sets ≠ [])
    (hway : Underway sets.length index starts) (hon : ∀ a ∈ starts, index < a + sets.length)
    (fuel : Nat) :
    (follow p index before after (starts.length + (fuel + 3)) 0 []
        (starts.map (threadAt sets index) ++ [⟨p.entry, #[none, none]⟩])).2.reverse =
      (starts ++ [index]).map (threadAt sets index) := by
  have hpos := List.length_pos_iff.2 hsets
  have hplace : ∀ t ∈ starts.map (threadAt sets index), t.place ≤ sets.length := by
    intro t ht
    obtain ⟨a, ha, rfl⟩ := List.mem_map.1 ht
    have := hway.started a ha
    have := hon a ha
    simp only [threadAt]
    omega
  obtain ⟨seen, heq, hseen⟩ := follow_chars p index before after
    (starts.map (threadAt sets index)) [⟨p.entry, #[none, none]⟩] (fuel + 3) 0 []
    (fun t ht => by
      obtain ⟨a, ha, rfl⟩ := List.mem_map.1 ht
      have := hway.started a ha
      have := hon a ha
      exact ⟨_, _, char_threadAt h (by omega)⟩)
    (by
      rw [List.pairwise_map]
      refine hway.ascending.imp_of_mem fun {a b} ha hb hlt => ?_
      have := hway.started a ha
      have := hway.started b hb
      have := hon a ha
      simp only [threadAt]
      omega)
    (fun t _ => Nat.zero_testBit _)
  -- The new thread goes over two instructions that no other thread is at.
  have hentry : seen.testBit p.entry = false := by
    refine hseen _ (fun t ht => ?_) (Nat.zero_testBit _)
    have := hplace t ht
    rw [h.entry]
    omega
  have hfirst : (seen ||| 1 <<< p.entry).testBit (sets.length + 1) = false := by
    rw [Nat.testBit_or, Nat.one_shiftLeft, Nat.testBit_two_pow, h.entry,
      hseen _ (fun t ht => by have := hplace t ht; omega) (Nat.zero_testBit _)]
    simp
  have hchar : p.code[sets.length + 1]? = some (.char sets[0] sets.length) := by
    have := char_threadAt h (show index - index < sets.length by omega)
    simpa [threadAt] using this
  rw [List.length_map] at heq
  rw [heq, follow]
  simp only [hentry, Bool.false_eq_true, if_false]
  rw [h.entry, h.start]
  simp only
  rw [h.entry] at hfirst
  rw [follow]
  simp only [hfirst, Bool.false_eq_true, if_false, hchar]
  rw [follow]
  simp [threadAt]

/-- A thread that needs no more characters completes the match. -/
theorem follow_ended (h : Spells p sets) (hend : index = a + sets.length)
    (fuel : Nat) (stack : List Thread) :
    ∃ found, (follow p index before after (fuel + 2) 0 []
        (threadAt sets index a :: stack)).2.reverse = ⟨0, slotsOf sets a⟩ :: found := by
  have hplace : threadAt sets index a = ⟨1, #[some a, none]⟩ := by
    rw [threadAt, hend]
    simp
  obtain ⟨found, hfound⟩ := follow_waiting p index before after fuel
    (0 ||| 1 <<< 1 ||| 1 <<< 0) [⟨0, slotsOf sets a⟩] stack
  refine ⟨found.reverse, ?_⟩
  rw [hplace, follow]
  simp only [Nat.zero_testBit, Bool.false_eq_true, if_false, h.stop]
  rw [follow, if_neg (show ¬ (0 ||| 1 <<< 1).testBit 0 = true by decide)]
  simp only [h.final]
  have hslots : (#[some a, none] : Slots).setIfInBounds 1 (some index) = slotsOf sets a := by
    rw [slotsOf, hend]
    rfl
  rw [hslots, hfound, List.reverse_append]
  rfl

/-- A thread that completes the match cuts those behind it. -/
theorem step_ended (h : Spells p sets) (next : Option Char) (slots : Slots) (ts : List Thread) :
    step p next (⟨0, slots⟩ :: ts) = ([], some slots) := by
  rw [step]
  simp only [h.final]

/-- Over a character go the threads that wait for it. -/
theorem step_underway (h : Spells p sets) (c : Char)
    (hon : ∀ a ∈ starts, a ≤ index ∧ index < a + sets.length) :
    step p (some c) (starts.map (threadAt sets index)) =
      ((starts.filter fun a => sets[index - a]?.any (·.contains c)).map
        (threadAt sets (index + 1)), none) := by
  induction starts with
  | nil => rfl
  | cons a starts ih =>
    have ha := hon a List.mem_cons_self
    have hlt : index - a < sets.length := by omega
    rw [List.map_cons, step, char_threadAt h hlt]
    simp only
    rw [ih fun b hb => hon b (List.mem_cons_of_mem a hb), List.filter_cons,
      List.getElem?_eq_getElem hlt, Option.any_some]
    simp only
    split
    · rw [List.map_cons]
      simp only [threadAt, Prod.mk.injEq, List.cons.injEq, Thread.mk.injEq, and_true]
      omega
    · rfl

/-- At the end of the text no thread goes on. -/
theorem step_none (h : Spells p sets)
    (hon : ∀ a ∈ starts, a ≤ index ∧ index < a + sets.length) :
    step p none (starts.map (threadAt sets index)) = ([], none) := by
  induction starts with
  | nil => rfl
  | cons a starts ih =>
    have ha := hon a List.mem_cons_self
    rw [List.map_cons, step, char_threadAt h (by omega)]
    simp only
    rw [ih fun b hb => hon b (List.mem_cons_of_mem a hb)]

/-- The threads found at a place: one that completes the match comes first,
or else all of them wait. -/
theorem waiting_cases (before after : Option Char) (h : Spells p sets) (hsets : sets ≠ [])
    (hway : Underway sets.length index starts) :
    let pending := starts.map (threadAt sets index) ++ [⟨p.entry, #[none, none]⟩]
    let waiting := (follow p index before after (2 * p.code.size + pending.length + 1) 0 []
      pending).2.reverse
    (∃ a rest found, starts = a :: rest ∧ index = a + sets.length ∧
        waiting = ⟨0, slotsOf sets a⟩ :: found) ∨
      ((∀ a ∈ starts, index < a + sets.length) ∧
        waiting = (starts ++ [index]).map (threadAt sets index)) := by
  intro pending waiting
  have hfuel : 2 * p.code.size + pending.length + 1 =
      starts.length + ((2 * sets.length + 5) + 3) := by
    simp only [pending, h.size, List.length_append, List.length_map, List.length_singleton]
    omega
  by_cases hon : ∀ a ∈ starts, index < a + sets.length
  · right
    refine ⟨hon, ?_⟩
    simp only [waiting, hfuel]
    exact follow_underway before after h hsets hway hon _
  · left
    -- Only the oldest thread can have come this far.
    cases starts with
    | nil => exact absurd (fun a ha => by simp at ha) hon
    | cons a rest =>
      have hend : index = a + sets.length := by
        refine Nat.le_antisymm (hway.started a List.mem_cons_self).2
          (Nat.not_lt.1 fun hlt => hon ?_)
        intro b hb
        rcases List.mem_cons.1 hb with rfl | hrest
        · exact hlt
        · have := (List.pairwise_cons.1 hway.ascending).1 b hrest
          omega
      obtain ⟨found, hfound⟩ := follow_ended before after h hend
        (2 * sets.length + 6 + (a :: rest).length)
        (rest.map (threadAt sets index) ++ [⟨p.entry, #[none, none]⟩])
      refine ⟨a, rest, found, rfl, hend, ?_⟩
      rw [← hfound]
      simp only [waiting, hfuel]
      rw [show (a :: rest).length + ((2 * sets.length + 5) + 3) =
        2 * sets.length + 6 + (a :: rest).length + 2 by omega]
      rfl

/-- A match that no thread can better is returned. -/
theorem walk_settled (p : Program) (index : Nat) (before : Option Char) (slots : Slots)
    (cs : List Char) : walk p index before [] (some slots) cs = some slots := by
  cases cs with
  | nil => rfl
  | cons c cs => rfl

/-- A thread that completes the match leads. -/
theorem leading_ended (hend : index = a + sets.length) (cs : List Char) (rest : List Nat) :
    leading sets index cs (a :: rest) = some a := by
  have hfit : fit (sets.drop (index - a)) cs = true := by
    rw [hend, Nat.add_sub_cancel_left, List.drop_length]
    rfl
  rw [leading, List.find?_cons, hfit]

/-- At the end of the text no thread leads. -/
theorem leading_nil (hon : ∀ a ∈ starts, index - a < sets.length) :
    leading sets index [] starts = none := by
  have hnone : starts.find? (fun a => fit (sets.drop (index - a)) []) = none := by
    rw [List.find?_eq_none]
    intro a ha
    rw [fit_nil fun hnil => ?_]
    · exact Bool.false_ne_true
    · have := hon a ha
      rw [List.drop_eq_nil_iff] at hnil
      omega
  rw [leading, hnone]
  rfl

/-- **Over a character** lead the threads that went over it, and the one
that started before it comes last. -/
theorem leading_cons (hsets : sets ≠ []) (hon : ∀ a ∈ starts, index - a < sets.length)
    (hstarted : ∀ a ∈ starts, a ≤ index) (c : Char) (cs : List Char) :
    leading sets index (c :: cs) starts =
      leading sets (index + 1) cs
        ((starts ++ [index]).filter fun a => sets[index - a]?.any (·.contains c)) := by
  have hfit : ∀ k, k < sets.length → fit (sets.drop k) (c :: cs) =
      (sets[k]?.any (·.contains c) && fit (sets.drop (k + 1)) cs) := by
    intro k hk
    rw [List.drop_eq_getElem_cons hk, fit, List.getElem?_eq_getElem hk, Option.any_some]
  -- Who fits from here on goes over the character and fits from there on.
  have hfind : ∀ bs : List Nat, (∀ b ∈ bs, index - b < sets.length ∧ b ≤ index) →
      bs.find? (fun b => fit (sets.drop (index - b)) (c :: cs)) =
        (bs.filter fun b => sets[index - b]?.any (·.contains c)).find?
          fun b => fit (sets.drop (index + 1 - b)) cs := by
    intro bs hbs
    induction bs with
    | nil => rfl
    | cons b bs ih =>
      have hb := hbs b List.mem_cons_self
      rw [List.find?_cons, hfit _ hb.1, ih fun d hd => hbs d (List.mem_cons_of_mem b hd),
        show index - b + 1 = index + 1 - b by omega, List.filter_cons]
      cases sets[index - b]?.any (·.contains c) with
      | false => rfl
      | true => rw [Bool.true_and, if_pos rfl, List.find?_cons]
  have hpos := List.length_pos_iff.2 hsets
  have hall : ∀ b ∈ starts ++ [index], index - b < sets.length ∧ b ≤ index := by
    intro b hb
    rcases List.mem_append.1 hb with hb | hb
    · exact ⟨hon b hb, hstarted b hb⟩
    · rw [List.mem_singleton.1 hb]
      exact ⟨by omega, Nat.le_refl _⟩
  rw [leading, leading, ← hfind _ hall, List.find?_append]
  cases starts.find? fun b => fit (sets.drop (index - b)) (c :: cs) with
  | some b => rfl
  | none =>
    rw [firstFrom, Option.none_or, List.find?_singleton, Nat.sub_self, List.drop_zero]
    by_cases hnow : fit sets (c :: cs) = true
    · simp [hnow]
    · simp [hnow]

/-- **What a walk returns** is read off its threads and what lies ahead. -/
theorem walk_spells (h : Spells p sets) (hsets : sets ≠ [])
    (hway : Underway sets.length index starts) (cs : List Char) :
    walk p index before (starts.map (threadAt sets index)) none cs =
      (leading sets index cs starts).map (slotsOf sets) := by
  have hslots : (Array.replicate (2 * p.groups) none : Slots) = #[none, none] := by
    rw [h.groups]
    rfl
  have hpos := List.length_pos_iff.2 hsets
  -- Along the text, with the threads kept where `Underway` has them.
  induction cs generalizing index before starts with
  | nil =>
    rw [walk]
    simp only [Option.isSome_none, Bool.false_eq_true, if_false, hslots]
    rcases waiting_cases before none h hsets hway with
      ⟨a, rest, found, rfl, hend, hwaiting⟩ | ⟨hon, hwaiting⟩
    · rw [hwaiting, step_ended h, leading_ended hend]
      rfl
    · rw [hwaiting, step_none h (hway.within hpos hon),
        leading_nil fun a ha => by have := hon a ha; omega]
      rfl
  | cons c cs ih =>
    rw [walk]
    simp only [Option.isSome_none, Bool.false_eq_true, if_false, hslots]
    rw [if_neg (by simp)]
    rcases waiting_cases before (some c) h hsets hway with
      ⟨a, rest, found, rfl, hend, hwaiting⟩ | ⟨hon, hwaiting⟩
    · rw [hwaiting, step_ended h, leading_ended hend]
      exact walk_settled p _ _ _ cs
    · rw [hwaiting, step_underway h c (hway.within hpos hon)]
      simp only
      rw [ih (some c) (hway.next hpos hon _),
        leading_cons hsets (fun a ha => by have := hon a ha; omega)
          (fun a ha => Nat.le_of_lt (hway.started a ha).1)]

end Walk

/-! ## Searches -/

section Search

variable {p : Program} {sets : List CharSet}

/-- The range of a match. -/
theorem groupRange_slotsOf (a : Nat) :
    groupRange (slotsOf sets a) 0 = some (a, a + sets.length) := rfl

/-- A search returns the first occurrence ahead. -/
theorem searchFrom_spells (h : Spells p sets) (hsets : sets ≠ []) (k : Cursor) :
    p.searchFrom k = (firstFrom sets k.index k.rest).map (slotsOf sets) :=
  walk_spells k.before h hsets ⟨List.Pairwise.nil, fun a ha => by simp at ha⟩ k.rest

/-- Where a cursor stands after it was moved on. -/
theorem advance_eq (k : Cursor) {n : Nat} (hn : n ≤ k.rest.length) :
    (k.advance n).index = k.index + n ∧ (k.advance n).rest = k.rest.drop n := by
  induction n generalizing k with
  | zero => exact ⟨rfl, rfl⟩
  | succ n ih =>
    obtain ⟨index, before, rest⟩ := k
    cases rest with
    | nil => simp at hn
    | cons c cs =>
      obtain ⟨hindex, hrest⟩ := ih ⟨index + 1, some c, cs⟩ (Nat.le_of_succ_le_succ hn)
      rw [Cursor.advance]
      refine ⟨?_, hrest⟩
      rw [hindex]
      simp only
      omega

/-- A search that is started again behind each match finds the
occurrences. -/
theorem searchAllFrom_spells (h : Spells p sets) (hsets : sets ≠ []) {fuel : Nat}
    (resumed : Bool) (k : Cursor) (hfuel : k.rest.length < fuel) :
    (searchAllFrom p fuel resumed k).filterMap (groupRange · 0) =
      occurrencesFrom sets k.index 0 k.rest := by
  have hpos := List.length_pos_iff.2 hsets
  induction fuel generalizing resumed k with
  | zero => exact absurd hfuel (Nat.not_lt_zero _)
  | succ fuel ih =>
    rw [searchAllFrom, searchFrom_spells h hsets, occurrencesFrom_eq hsets]
    cases hfirst : firstFrom sets k.index k.rest with
    | none => rfl
    | some i =>
      obtain ⟨hle, hroom, -⟩ := firstFrom_some hfirst
      obtain ⟨hindex, hrest⟩ := advance_eq k (n := i + sets.length - k.index) (by omega)
      have hnext := ih true (k.advance (i + sets.length - k.index)) (by
        rw [hrest, List.length_drop]
        omega)
      rw [hindex, hrest, show k.index + (i + sets.length - k.index) = i + sets.length by omega]
        at hnext
      simp only [Option.map_some, groupRange_slotsOf]
      rw [if_neg (by simp only [Bool.and_eq_true, decide_eq_true_eq]; omega),
        List.filterMap_cons, groupRange_slotsOf]
      simp only
      rw [hnext]

end Search

/-- **A search for a plain text finds its occurrences.** -/
theorem findAll_literal (ignoreCase : Bool) {s : String} (hs : setsOf ignoreCase s ≠ [])
    (cs : List Char) :
    (literal ignoreCase s).findAll cs = occurrences (setsOf ignoreCase s) cs :=
  searchAllFrom_spells (spells_literal ignoreCase s) hs false (Cursor.start cs)
    (show cs.length < 2 * cs.length + 3 by omega)

/-- A text that fits is matched as a whole. -/
theorem find_literal (ignoreCase : Bool) {s : String} (hs : setsOf ignoreCase s ≠ [])
    {cs : List Char} (hfit : fit (setsOf ignoreCase s) cs = true)
    (hlen : cs.length = (setsOf ignoreCase s).length) :
    (literal ignoreCase s).find cs = some (0, cs.length) := by
  have hfirst : firstFrom (setsOf ignoreCase s) 0 cs = some 0 := by
    cases cs with
    | nil => exact absurd (List.length_eq_zero_iff.1 hlen.symm) hs
    | cons c cs => rw [firstFrom, if_pos hfit]
  rw [Program.find, Program.findFrom, searchFrom_spells (spells_literal ignoreCase s) hs]
  simp only [Cursor.start, hfirst, Option.map_some, Option.bind_some]
  rw [hlen, groupRange_slotsOf, Nat.zero_add]

/-! ## The text without characters -/

/-- The program of the text without characters. -/
theorem literal_empty (ignoreCase : Bool) :
    literal ignoreCase "" = ⟨#[.done, .save 1 0, .save 0 1], 2, 1, []⟩ := rfl

/-- The program of the text without characters matches at once. -/
theorem walk_literal_empty (ignoreCase : Bool) (index : Nat) (before : Option Char)
    (cs : List Char) :
    walk (literal ignoreCase "") index before [] none cs =
      some #[some index, some index] := by
  have hseen : Nat.testBit 4 1 = false := by decide
  have hslots : ((Array.replicate 2 none : Slots).setIfInBounds 0 (some index)).setIfInBounds 1
      (some index) = #[some index, some index] := rfl
  rw [literal_empty]
  cases cs with
  | nil => simp [walk, follow, hseen, hslots, step]
  | cons c cs => simp [walk, follow, hseen, hslots, step, walk_settled]

/-- A search for the text without characters only finds matches without
characters. -/
theorem range_of_mem_findAll_empty (ignoreCase : Bool) {cs : List Char} {m : Nat × Nat}
    (hm : m ∈ (literal ignoreCase "").findAll cs) : m.1 = m.2 := by
  have hslots : ∀ fuel resumed k, ∀ slots ∈ searchAllFrom (literal ignoreCase "") fuel resumed k,
      ∃ i, slots = #[some i, some i] := by
    intro fuel
    induction fuel with
    | zero => intro resumed k slots hmem; simp [searchAllFrom] at hmem
    | succ fuel ih =>
      intro resumed k slots hmem
      rw [searchAllFrom, Program.searchFrom, walk_literal_empty] at hmem
      simp only [groupRange] at hmem
      split at hmem
      · simp at hmem
      · split at hmem
        · split at hmem
          · simp at hmem
          · exact ih _ _ _ hmem
        · rcases List.mem_cons.1 hmem with rfl | hmem
          · exact ⟨k.index, rfl⟩
          · exact ih _ _ _ hmem
  rw [Program.findAll, List.mem_filterMap] at hm
  obtain ⟨slots, hmem, hrange⟩ := hm
  obtain ⟨i, rfl⟩ := hslots _ _ _ _ hmem
  cases hrange
  rfl

end Regex
end CodeDesk
