import CodeDesk.Proofs.Text.Pieces
import Mathlib.Data.List.Induction
/-!
# Line starts — bytes and positions lead to each other

A part of a text is given by numbers of characters, and its place in a file
by numbers of bytes. The two go together: the bytes of a text that is cut
somewhere are those of its parts (`encode_append`), so the offset of a
place is the length of the bytes before it (`size_eq_length`), and an edit
of the characters is an edit of the bytes (`encode_splice`).

A byte of a text stands at a position (`Pos.Stands`) if the characters
before it are as many bytes and lead there. Each byte at which a character
begins stands at one position, and no two stand at the same
(`Stands.unique`, `Stands.byte_unique`), in the order of the bytes
(`Stands.lt_iff`).

Both searches by line starts decide this relation: the starts are where
the lines stand (`lineStarts_getElem?_iff`) and ascend, so the binary search
ends at the last one that is not behind the byte (`Stands.lineOf?_eq`),
and the column is counted from there (`atOffset?_eq_some_iff`); and the line
of a position is cut out of the text at its ends (`offsetIn?_eq`). Neither
takes a part of the text between bytes where no character begins.
-/

namespace CodeDesk

/-! ## Characters and bytes of a part of a text -/

namespace Utf8

theorem size_append (cs ds : List Char) : size (cs ++ ds) = size cs + size ds := by
  induction cs with
  | nil => simp [size]
  | cons c cs ih =>
    simp only [List.cons_append, size, ih]
    omega

/-- The bytes of a text that is written in two parts. -/
theorem encode_append (cs ds : List Char) :
    encode (String.ofList (cs ++ ds)) =
      encode (String.ofList cs) ++ encode (String.ofList ds) := by
  simp only [encode, String.toList_ofList, List.flatMap_append]

/-- The size of a text is the number of its bytes. -/
theorem size_eq_length (cs : List Char) : size cs = (encode (String.ofList cs)).length := by
  induction cs with
  | nil => simp [size, encode]
  | cons c cs ih =>
    have hc : (String.utf8EncodeChar c).length = c.utf8Size := String.length_utf8EncodeChar c
    simp only [encode, String.toList_ofList, List.flatMap_cons, List.length_append, hc] at ih ⊢
    rw [size, ih]

theorem take_encode (cs ds : List Char) :
    (encode (String.ofList (cs ++ ds))).take (size cs) = encode (String.ofList cs) := by
  rw [encode_append, List.take_left' (size_eq_length cs).symm]

theorem drop_encode (cs ds : List Char) :
    (encode (String.ofList (cs ++ ds))).drop (size cs) = encode (String.ofList ds) := by
  rw [encode_append, List.drop_left' (size_eq_length cs).symm]

/-- **Exchanging characters exchanges their bytes.** -/
theorem encode_splice (cs : List Char) (i j : Nat) (new : List Char) :
    encode (String.ofList (spliceChars cs i j new)) =
      (encode (String.ofList cs)).take (size (cs.take i)) ++ encode (String.ofList new) ++
        (encode (String.ofList cs)).drop (size (cs.take j)) := by
  have htake := take_encode (cs.take i) (cs.drop i)
  have hdrop := drop_encode (cs.take j) (cs.drop j)
  rw [List.take_append_drop] at htake hdrop
  rw [spliceChars, encode_append, encode_append, htake, hdrop]

/-- The size up to a place, taken at an earlier one and counted on. -/
theorem size_take (cs : List Char) {i j : Nat} (h : i ≤ j) :
    size (cs.take j) = size (cs.take i) + size (sliceChars cs i j) := by
  rw [← size_append, Pos.take_append_sliceChars cs h]

end Utf8

/-! ## Characters on both sides of an exchange -/

section Splice

variable {cs new : List Char} {i j a b : Nat}

/-- A slice is the end of a front part. -/
theorem sliceChars_eq_drop (cs : List Char) (a b : Nat) : sliceChars cs a b = (cs.take b).drop a := by
  rw [sliceChars, List.drop_take]

/-- What comes before the exchanged characters is as it was. -/
theorem take_splice_of_le (hi : i ≤ cs.length) (hai : a ≤ i) :
    (spliceChars cs i j new).take a = cs.take a := by
  rw [spliceChars, List.append_assoc, List.take_append_of_le_length, List.take_take,
    Nat.min_eq_left hai]
  rw [List.length_take, Nat.min_eq_left hi]
  exact hai

/-- What comes up to a place behind the exchanged characters. -/
theorem take_splice (hi : i ≤ cs.length) :
    (spliceChars cs i j new).take (i + new.length + (a - j)) =
      cs.take i ++ new ++ sliceChars cs j a := by
  have hlen : (cs.take i ++ new).length = i + new.length := by
    rw [List.length_append, List.length_take, Nat.min_eq_left hi]
  rw [spliceChars, ← hlen, List.take_length_add_append, sliceChars]

/-- **The characters before an exchange stay in their place.** -/
theorem sliceChars_splice_of_le (hi : i ≤ cs.length) (hbi : b ≤ i) :
    sliceChars (spliceChars cs i j new) a b = sliceChars cs a b := by
  rw [sliceChars_eq_drop, sliceChars_eq_drop, take_splice_of_le hi hbi]

/-- **The characters behind an exchange move as a whole.** -/
theorem sliceChars_splice_of_ge (hi : i ≤ cs.length) (hja : j ≤ a) (hab : a ≤ b) :
    sliceChars (spliceChars cs i j new) (i + new.length + (a - j)) (i + new.length + (b - j)) =
      sliceChars cs a b := by
  have hlen : (cs.take i ++ new).length = i + new.length := by
    rw [List.length_append, List.length_take, Nat.min_eq_left hi]
  have hwidth : i + new.length + (b - j) - (i + new.length + (a - j)) = b - a := by omega
  have hplace : j + (a - j) = a := by omega
  rw [sliceChars, sliceChars, hwidth, spliceChars, ← hlen, List.drop_length_add_append,
    List.drop_drop, hplace]

/-- The part up to the end of what was put in. -/
theorem take_splice_new (j : Nat) (new : List Char) (hi : i ≤ cs.length) :
    (spliceChars cs i j new).take (i + new.length) = cs.take i ++ new := by
  have htake : (spliceChars cs i j new).take (i + new.length + (j - j)) =
      cs.take i ++ new ++ sliceChars cs j j := take_splice hi
  have hnone : sliceChars cs j j = [] := by simp [sliceChars]
  rwa [Nat.sub_self, Nat.add_zero, hnone, List.append_nil] at htake

theorem length_splice (j : Nat) (new : List Char) (hi : i ≤ cs.length) :
    (spliceChars cs i j new).length = i + new.length + (cs.length - j) := by
  simp only [spliceChars, List.length_append, List.length_take, List.length_drop]
  omega

end Splice

/-! ## Bytes and positions -/

namespace Utf8

variable {a b c d cs front middle rest : List Char} {m n s e : Nat}

/-- **A text is cut in one way after a number of bytes.** -/
theorem append_inj_of_size (h : a ++ b = c ++ d) (hsize : size a = size c) : a = c ∧ b = d := by
  induction a generalizing c with
  | nil =>
    cases c with
    | nil => exact ⟨rfl, h⟩
    | cons y c =>
      have := y.utf8Size_pos
      rw [size, size] at hsize
      omega
  | cons x a ih =>
    cases c with
    | nil =>
      have := x.utf8Size_pos
      rw [size, size] at hsize
      omega
    | cons y c =>
      obtain ⟨rfl, htail⟩ := List.cons.inj h
      rw [size, size, Nat.add_left_cancel_iff] at hsize
      obtain ⟨rfl, rfl⟩ := ih htail hsize
      exact ⟨rfl, rfl⟩

/-- Of two front parts of a text the one with fewer bytes is part of the
other. -/
theorem exists_append_of_size_lt (h : a ++ b = c ++ d)
    (hlt : size a < size c) : ∃ more, more ≠ [] ∧ c = a ++ more := by
  rcases List.append_eq_append_iff.1 h with ⟨more, rfl, -⟩ | ⟨more, rfl, -⟩
  · refine ⟨more, ?_, rfl⟩
    rintro rfl
    rw [List.append_nil] at hlt
    exact Nat.lt_irrefl _ hlt
  · rw [size_append] at hlt
    omega

theorem drop?_cons (x : Char) (cs : List Char) (hn : 0 < n) :
    drop? (x :: cs) n = if x.utf8Size ≤ n then drop? cs (n - x.utf8Size) else none := by
  obtain ⟨n, rfl⟩ := Nat.exists_eq_succ_of_ne_zero (Nat.ne_of_gt hn)
  rw [drop?]

theorem take?_cons (x : Char) (cs : List Char) (hn : 0 < n) :
    take? (x :: cs) n =
      if x.utf8Size ≤ n then (take? cs (n - x.utf8Size)).map (x :: ·) else none := by
  obtain ⟨n, rfl⟩ := Nat.exists_eq_succ_of_ne_zero (Nat.ne_of_gt hn)
  rw [take?]

theorem drop?_append (front rest : List Char) : drop? (front ++ rest) (size front) = some rest := by
  induction front with
  | nil => rw [List.nil_append, size, drop?]
  | cons x front ih =>
    have hpos := x.utf8Size_pos
    rw [List.cons_append, size, drop?_cons x _ (by omega), if_pos (Nat.le_add_right _ _),
      Nat.add_sub_cancel_left, ih]

theorem take?_append (front rest : List Char) :
    take? (front ++ rest) (size front) = some front := by
  induction front with
  | nil => rw [List.nil_append, size, take?]
  | cons x front ih =>
    have hpos := x.utf8Size_pos
    rw [List.cons_append, size, take?_cons x _ (by omega), if_pos (Nat.le_add_right _ _),
      Nat.add_sub_cancel_left, ih, Option.map_some]

/-- **What follows a number of bytes** is there exactly if they are the bytes
of a front part. -/
theorem drop?_eq_some_iff :
    drop? cs n = some rest ↔ ∃ front, cs = front ++ rest ∧ size front = n := by
  constructor
  · intro h
    fun_induction drop? cs n with
    | case1 cs =>
      cases h
      exact ⟨[], rfl, rfl⟩
    | case2 => cases h
    | case3 x cs n hle ih =>
      obtain ⟨front, rfl, hsize⟩ := ih h
      exact ⟨x :: front, rfl, by rw [size]; omega⟩
    | case4 => cases h
  · rintro ⟨front, rfl, rfl⟩
    exact drop?_append front rest

theorem take?_eq_some_iff :
    take? cs n = some front ↔ ∃ rest, cs = front ++ rest ∧ size front = n := by
  constructor
  · intro h
    fun_induction take? cs n generalizing front with
    | case1 cs =>
      cases h
      exact ⟨cs, rfl, rfl⟩
    | case2 => cases h
    | case3 x cs n hle ih =>
      obtain ⟨front, hfront, rfl⟩ := Option.map_eq_some_iff.1 h
      obtain ⟨rest, rfl, hsize⟩ := ih hfront
      exact ⟨rest, rfl, by rw [size]; omega⟩
    | case4 => cases h
  · rintro ⟨rest, rfl, rfl⟩
    exact take?_append front rest

/-- **A part of a text between two numbers of bytes** is there exactly if
characters begin or the text ends at both. -/
theorem slice?_eq_some_iff :
    slice? cs s e = some middle ↔
      ∃ front rest, cs = front ++ middle ++ rest ∧ size front = s ∧ s + size middle = e := by
  rw [slice?, Option.ite_none_right_eq_some, Option.bind_eq_some_iff]
  constructor
  · rintro ⟨hle, rest, hrest, hmiddle⟩
    obtain ⟨front, rfl, rfl⟩ := drop?_eq_some_iff.1 hrest
    obtain ⟨back, rfl, hsize⟩ := take?_eq_some_iff.1 hmiddle
    exact ⟨front, back, by rw [List.append_assoc], rfl, by omega⟩
  · rintro ⟨front, rest, rfl, rfl, rfl⟩
    refine ⟨Nat.le_add_right _ _, middle ++ rest, ?_, ?_⟩
    · rw [List.append_assoc, drop?_append]
    · rw [Nat.add_sub_cancel_left, take?_append]

theorem size_eq_utf8ByteSize (cs : List Char) : size cs = (String.ofList cs).utf8ByteSize := by
  induction cs with
  | nil => rfl
  | cons x cs ih =>
    have hcons : String.ofList (x :: cs) = String.singleton x ++ String.ofList cs := by
      rw [String.singleton_eq_ofList, ← String.ofList_append]
      rfl
    rw [size, ih, hcons, String.utf8ByteSize_append, String.utf8ByteSize_singleton]

theorem rawEndPos_eq (text : String) : text.rawEndPos = ⟨size text.toList⟩ := by
  rw [size_eq_utf8ByteSize, String.ofList_toList]
  rfl

/-- **A place in a text** is one where its characters can be cut. -/
theorem isValid_iff {text : String} :
    String.Pos.Raw.IsValid text ⟨n⟩ ↔
      ∃ front rest, text.toList = front ++ rest ∧ size front = n := by
  rw [String.Pos.Raw.isValid_iff_exists_append]
  constructor
  · rintro ⟨front, rest, rfl, hn⟩
    rw [rawEndPos_eq, String.Pos.Raw.mk.injEq] at hn
    exact ⟨front.toList, rest.toList, String.toList_append, hn.symm⟩
  · rintro ⟨front, rest, htext, rfl⟩
    refine ⟨String.ofList front, String.ofList rest, ?_, ?_⟩
    · rw [← String.ofList_append, ← htext, String.ofList_toList]
    · rw [rawEndPos_eq, String.toList_ofList]

end Utf8

namespace Pos

variable {cs front rest : List Char} {m n : Nat} {p q : Pos}

/-! ## Where the bytes stand -/

/-- Byte number `n` of a text stands at `p`: the characters before it are as
many bytes and lead there. -/
def Stands (cs : List Char) (n : Nat) (p : Pos) : Prop :=
  ∃ front rest, cs = front ++ rest ∧ Utf8.size front = n ∧ after ⟨0, 0⟩ front = p

/-- **The byte of a position** is the one that stands there. -/
theorem offset?_eq_some_iff : p.offset? cs = some n ↔ Stands cs n p := by
  rw [offset?, Option.map_eq_some_iff]
  constructor
  · rintro ⟨i, hi, rfl⟩
    obtain ⟨-, rfl⟩ := index?_eq_some_iff.1 hi
    exact ⟨cs.take i, cs.drop i, (List.take_append_drop i cs).symm, rfl, rfl⟩
  · rintro ⟨front, rest, rfl, rfl, rfl⟩
    refine ⟨front.length, index?_after front rest, ?_⟩
    rw [List.take_left' rfl]

theorem Stands.unique (h : Stands cs n p) (h' : Stands cs n q) : p = q := by
  obtain ⟨front, rest, rfl, hsize, rfl⟩ := h
  obtain ⟨front', rest', hcut, hsize', rfl⟩ := h'
  rw [(Utf8.append_inj_of_size hcut (hsize.trans hsize'.symm)).1]

theorem Stands.byte_unique (h : Stands cs m p) (h' : Stands cs n p) : m = n :=
  Option.some.inj ((offset?_eq_some_iff.2 h).symm.trans (offset?_eq_some_iff.2 h'))

theorem Stands.lt (h : Stands cs m p) (h' : Stands cs n q) (hlt : m < n) : p.lt q = true := by
  obtain ⟨front, rest, rfl, rfl, rfl⟩ := h
  obtain ⟨front', rest', hcut, rfl, rfl⟩ := h'
  obtain ⟨more, hmore, rfl⟩ := Utf8.exists_append_of_size_lt hcut hlt
  rw [after_append]
  exact lt_after _ hmore

/-- **Bytes are ordered as the positions where they stand.** -/
theorem Stands.lt_iff (h : Stands cs m p) (h' : Stands cs n q) : p.lt q = true ↔ m < n := by
  refine ⟨fun hlt => ?_, h.lt h'⟩
  rcases Nat.lt_trichotomy m n with hmn | rfl | hnm
  · exact hmn
  · obtain rfl := h.unique h'
    simp [Pos.lt] at hlt
  · have hback := h'.lt h hnm
    simp only [Pos.lt, Bool.or_eq_true, decide_eq_true_eq, Bool.and_eq_true, beq_iff_eq]
      at hlt hback
    omega

/-! ## The starts of the lines -/

/-- The first byte, and no other, stands at the start of the first line. -/
theorem stands_zero_iff : Stands cs n ⟨0, 0⟩ ↔ n = 0 := by
  constructor
  · intro h
    exact h.byte_unique ⟨[], cs, rfl, rfl, rfl⟩
  · rintro rfl
    exact ⟨[], cs, rfl, rfl, rfl⟩

/-- What leads to a later line behind its first character. -/
theorem step_after_iff (c : Char) (front : List Char) (l : Nat) :
    (step ⟨0, 0⟩ c).after front = ⟨l + 1, 0⟩ ↔
      after ⟨0, 0⟩ front = ⟨if c = '\n' then l else l + 1, 0⟩ := by
  by_cases hc : c = '\n'
  · rw [step, if_pos hc, if_pos hc, after_line_start]
    obtain ⟨line, col⟩ := after ⟨0, 0⟩ front
    simp only [Pos.mk.injEq]
    omega
  · rw [step, if_neg hc, if_neg hc]
    by_cases hfront : '\n' ∈ front
    · rw [after_of_mem _ hfront]
      simp only [Nat.zero_add]
    · rw [after_of_not_mem _ hfront, after_of_not_mem _ hfront]
      simp

/-- The start of a later line in what follows the first character. -/
theorem stands_cons_iff (c : Char) (l : Nat) :
    Stands (c :: cs) n ⟨l + 1, 0⟩ ↔
      ∃ k, Stands cs k ⟨if c = '\n' then l else l + 1, 0⟩ ∧ c.utf8Size + k = n := by
  constructor
  · rintro ⟨front, rest, hcut, rfl, hafter⟩
    cases front with
    | nil => cases hafter
    | cons x front =>
      obtain ⟨rfl, rfl⟩ := List.cons.inj hcut
      exact ⟨Utf8.size front, ⟨front, rest, rfl, rfl, (step_after_iff _ _ _).1 hafter⟩, rfl⟩
  · rintro ⟨k, ⟨front, rest, rfl, rfl, hafter⟩, rfl⟩
    exact ⟨c :: front, rest, rfl, rfl, (step_after_iff _ _ _).2 hafter⟩

/-- Behind its first character a text has one line less, or as many. -/
theorem breaksFrom_cons_getElem? (here l : Nat) (c : Char) (cs : List Char) :
    (here :: breaksFrom here (c :: cs))[l + 1]? =
      ((here + c.utf8Size) :: breaksFrom (here + c.utf8Size) cs)[
        if c = '\n' then l else l + 1]? := by
  rw [List.getElem?_cons_succ, breaksFrom]
  split
  · next hc =>
    subst hc
    rfl
  · rw [List.getElem?_cons_succ]

/-- The bytes behind line breaks are where the lines start. -/
theorem breaksFrom_getElem?_iff (here l : Nat) :
    (here :: breaksFrom here cs)[l]? = some n ↔ ∃ k, Stands cs k ⟨l, 0⟩ ∧ here + k = n := by
  induction cs generalizing here l with
  | nil =>
    cases l with
    | zero => simp [stands_zero_iff]
    | succ l =>
      rw [breaksFrom, List.getElem?_cons_succ, List.getElem?_nil]
      refine iff_of_false (fun h => by cases h) ?_
      rintro ⟨k, ⟨front, rest, hcut, -, hafter⟩, -⟩
      rw [(List.append_eq_nil_iff.1 hcut.symm).1] at hafter
      cases hafter
  | cons c cs ih =>
    cases l with
    | zero => simp [stands_zero_iff]
    | succ l =>
      rw [breaksFrom_cons_getElem?, ih]
      simp only [stands_cons_iff]
      constructor
      · rintro ⟨k, hk, rfl⟩
        exact ⟨_, ⟨k, hk, rfl⟩, (Nat.add_assoc _ _ _).symm⟩
      · rintro ⟨_, ⟨k, hk, rfl⟩, rfl⟩
        exact ⟨k, hk, Nat.add_assoc _ _ _⟩

/-- **A line starts at the byte that is listed for it.** -/
theorem lineStarts_getElem?_iff {l : Nat} : (lineStarts cs)[l]? = some n ↔ Stands cs n ⟨l, 0⟩ := by
  rw [lineStarts, List.getElem?_toArray, breaksFrom_getElem?_iff]
  simp

/-- The starts of the lines ascend. -/
theorem lineStarts_lt {k l : Nat} (hkl : k < l) (hm : (lineStarts cs)[k]? = some m)
    (hn : (lineStarts cs)[l]? = some n) : m < n := by
  refine ((lineStarts_getElem?_iff.1 hm).lt_iff (lineStarts_getElem?_iff.1 hn)).1 ?_
  simp [lt, hkl]

end Pos

/-! ## The line of a byte -/

section Bisect

variable {a : Array Nat} {x lo hi : Nat}

/-- **Where a binary search ends.** It finds what it looks for, or else the
place between what is less and what is greater. -/
theorem bisect_spec (hsorted : ∀ i j y z : Nat, i < j → a[i]? = some y → a[j]? = some z → y < z)
    (hsize : hi ≤ a.size) (hlo : lo ≤ hi)
    (hbelow : ∀ i y : Nat, i < lo → a[i]? = some y → y < x)
    (habove : ∀ i y : Nat, hi ≤ i → a[i]? = some y → x < y) :
    match bisect a x lo hi with
    | .ok i => a[i]? = some x
    | .error i => i ≤ a.size ∧ (∀ k y : Nat, k < i → a[k]? = some y → y < x) ∧
        ∀ k y : Nat, i ≤ k → a[k]? = some y → x < y := by
  fun_induction bisect a x lo hi with
  | case1 lo hi hlt mid hnone =>
    have : mid < a.size := by omega
    rw [Array.getElem?_eq_getElem this] at hnone
    cases hnone
  | case2 lo hi hlt mid hfound => exact hfound
  | case3 lo hi hlt mid y hy hne hless ih =>
    -- What is up to the middle is less, since the numbers ascend.
    refine ih hsize (by omega) (fun i z hi hz => ?_) habove
    rcases Nat.lt_or_eq_of_le (Nat.le_of_lt_succ hi) with hi | rfl
    · exact (hsorted i mid z y hi hz hy).trans hless
    · rw [hy] at hz
      cases hz
      exact hless
  | case4 lo hi hlt mid y hy hne hless ih =>
    -- What is from the middle on is greater.
    have hmore : x < y := by omega
    refine ih (by omega) (by omega) hbelow fun i z hi hz => ?_
    rcases Nat.lt_or_eq_of_le hi with hi | rfl
    · exact hmore.trans (hsorted mid i y z hi hy hz)
    · rw [hy] at hz
      cases hz
      exact hmore
  | case5 lo hi hge =>
    obtain rfl : lo = hi := by omega
    exact ⟨hsize, hbelow, habove⟩

end Bisect

section Cut

variable {sep : Char} {cs front back : List Char}

theorem cutFirst_eq_some (h : cutFirst sep cs = some (front, back)) :
    cs = front ++ sep :: back ∧ sep ∉ front := by
  induction cs generalizing front with
  | nil => cases h
  | cons c cs ih =>
    rw [cutFirst] at h
    split at h
    · next hc =>
      cases h
      exact ⟨by rw [hc, List.nil_append], List.not_mem_nil⟩
    · next hc =>
      obtain ⟨⟨front, back⟩, hcut, heq⟩ := Option.map_eq_some_iff.1 h
      cases heq
      obtain ⟨rfl, hfront⟩ := ih hcut
      refine ⟨rfl, ?_⟩
      rw [List.mem_cons, not_or]
      exact ⟨Ne.symm hc, hfront⟩

theorem not_mem_of_cutFirst (h : cutFirst sep cs = none) : sep ∉ cs := by
  induction cs with
  | nil => exact List.not_mem_nil
  | cons c cs ih =>
    rw [cutFirst] at h
    split at h
    · cases h
    · next hc =>
      rw [List.mem_cons, not_or]
      exact ⟨Ne.symm hc, ih (Option.map_eq_none_iff.1 h)⟩

end Cut

section Lines

variable {cs front rest : List Char} {l n : Nat} {p : Pos}

/-- The line that is found starts at the byte or before it, and no later one
does. -/
theorem exists_lineOf? (cs : List Char) (n : Nat) :
    ∃ l s, lineOf? (lineStarts cs) n = some l ∧ (lineStarts cs)[l]? = some s ∧ s ≤ n ∧
      ∀ t, (lineStarts cs)[l + 1]? = some t → n < t := by
  have hspec := bisect_spec (a := lineStarts cs) (x := n)
    (fun _ _ _ _ hij hy hz => Pos.lineStarts_lt hij hy hz) (Nat.le_refl _) (Nat.zero_le _)
    (fun i _ hi _ => absurd hi (Nat.not_lt_zero i))
    (fun i y hi hy => by rw [Array.getElem?_eq_none hi] at hy; cases hy)
  have hfirst : (lineStarts cs)[0]? = some 0 :=
    Pos.lineStarts_getElem?_iff.2 (Pos.stands_zero_iff.2 rfl)
  rw [lineOf?]
  split at hspec
  · next i hi =>
    rw [hi]
    exact ⟨i, n, rfl, hspec, Nat.le_refl n,
      fun t ht => Pos.lineStarts_lt (Nat.lt_succ_self i) hspec ht⟩
  · next i hi =>
    obtain ⟨hsize, hbelow, habove⟩ := hspec
    rw [hi]
    cases i with
    | zero => exact absurd (habove 0 0 (Nat.le_refl 0) hfirst) (Nat.not_lt_zero n)
    | succ i =>
      obtain ⟨m, hstart⟩ : ∃ m, (lineStarts cs)[i]? = some m :=
        ⟨_, Array.getElem?_eq_getElem hsize⟩
      exact ⟨i, m, rfl, hstart, (hbelow i _ (Nat.lt_succ_self i) hstart).le,
        fun t ht => habove (i + 1) t (Nat.le_refl _) ht⟩

/-- **A text ends in its last line**: what it leads to is the start of a line
and the characters behind it. -/
theorem exists_line (front : List Char) : ∃ before line, front = before ++ line ∧ '\n' ∉ line ∧
    Pos.after ⟨0, 0⟩ before = ⟨(Pos.after ⟨0, 0⟩ front).line, 0⟩ ∧
    (Pos.after ⟨0, 0⟩ front).col = line.length := by
  induction front using List.reverseRecOn with
  | nil => exact ⟨[], [], rfl, List.not_mem_nil, rfl, rfl⟩
  | append_singleton front c ih =>
    rw [Pos.after_append, Pos.after_cons, Pos.after_nil]
    by_cases hc : c = '\n'
    · refine ⟨front ++ [c], [], (List.append_nil _).symm, List.not_mem_nil, ?_, ?_⟩
      all_goals rw [Pos.step, if_pos hc]
      · rw [Pos.after_append, Pos.after_cons, Pos.after_nil, Pos.step, if_pos hc]
      · rfl
    · obtain ⟨before, line, hcut, hline, hafter, hcol⟩ := ih
      rw [Pos.step, if_neg hc]
      refine ⟨before, line ++ [c], by rw [hcut, List.append_assoc], ?_, hafter, ?_⟩
      · rw [List.mem_append, not_or, List.mem_singleton]
        exact ⟨hline, Ne.symm hc⟩
      · rw [List.length_append, ← hcol]
        rfl

/-- The line of a byte and the characters of it that come before the byte. -/
theorem Pos.Stands.exists_line (h : Stands cs n p) : ∃ before line rest,
    cs = before ++ line ++ rest ∧ '\n' ∉ line ∧ after ⟨0, 0⟩ before = ⟨p.line, 0⟩ ∧
    p.col = line.length ∧ Utf8.size before + Utf8.size line = n := by
  obtain ⟨front, rest, rfl, rfl, rfl⟩ := h
  obtain ⟨before, line, hcut, hline, hafter, hcol⟩ := CodeDesk.exists_line front
  refine ⟨before, line, rest, by rw [hcut], hline, hafter, hcol, ?_⟩
  rw [hcut, Utf8.size_append]

/-- **The line that is found is that of the position.** -/
theorem Pos.Stands.lineOf?_eq (h : Stands cs n p) : lineOf? (lineStarts cs) n = some p.line := by
  obtain ⟨l, s, hl, hs, hle, hnext⟩ := exists_lineOf? cs n
  obtain ⟨before, line, rest, rfl, -, hafter, -, rfl⟩ := h.exists_line
  have hstart : (lineStarts (before ++ line ++ rest))[p.line]? = some (Utf8.size before) :=
    lineStarts_getElem?_iff.2 ⟨before, line ++ rest, by rw [List.append_assoc], rfl, hafter⟩
  rcases Nat.lt_trichotomy l p.line with hlt | rfl | hgt
  · -- the next line would start behind the byte
    have hsize : p.line < (lineStarts (before ++ line ++ rest)).size :=
      (Array.getElem?_eq_some_iff.1 hstart).1
    have hsome := Array.getElem?_eq_getElem (Nat.lt_of_le_of_lt hlt hsize)
    have hbehind := hnext _ hsome
    rcases Nat.lt_or_eq_of_le hlt with hlt | heq
    · have := lineStarts_lt hlt hsome hstart
      omega
    · rw [← heq, hsome, Option.some.injEq] at hstart
      omega
  · exact hl
  · -- the line found starts behind the position
    have hlt : p.lt ⟨l, 0⟩ = true := by simp [Pos.lt, hgt]
    have := (h.lt_iff (lineStarts_getElem?_iff.1 hs)).1 hlt
    omega

namespace Pos

/-- **The position of a byte**, found by the line starts, is where it stands.
No byte has one at which no character begins. -/
theorem atOffset?_eq_some_iff : atOffset? cs (lineStarts cs) n = some p ↔ Stands cs n p := by
  have hfound : ∀ q, Stands cs n q → atOffset? cs (lineStarts cs) n = some q := by
    intro q hq
    obtain ⟨before, line, rest, rfl, -, hafter, hcol, hn⟩ := hq.exists_line
    have hstart : (lineStarts (before ++ line ++ rest))[q.line]? = some (Utf8.size before) :=
      lineStarts_getElem?_iff.2 ⟨before, line ++ rest, by rw [List.append_assoc], rfl, hafter⟩
    have hslice : Utf8.slice? (before ++ line ++ rest) (Utf8.size before) n = some line :=
      Utf8.slice?_eq_some_iff.2 ⟨before, rest, rfl, rfl, hn⟩
    simp only [atOffset?, hq.lineOf?_eq, hstart, hslice, Option.bind_eq_bind, Option.bind_some,
      ← hcol]
  refine ⟨fun h => ?_, hfound p⟩
  obtain ⟨start, ahead, hahead⟩ : ∃ start ahead, Utf8.slice? cs start n = some ahead := by
    simp only [atOffset?, Option.bind_eq_bind, Option.bind_eq_some_iff] at h
    obtain ⟨-, -, start, -, ahead, hahead, -⟩ := h
    exact ⟨start, ahead, hahead⟩
  obtain ⟨before, rest, hcut, hbefore, hn⟩ := Utf8.slice?_eq_some_iff.1 hahead
  have hstands : Stands cs n (after ⟨0, 0⟩ (before ++ ahead)) :=
    ⟨before ++ ahead, rest, hcut, by rw [Utf8.size_append, hbefore, hn], rfl⟩
  rw [hfound _ hstands, Option.some.injEq] at h
  exact h ▸ hstands

/-- The line that starts with `line` ends there. -/
def EndsLine (behind : List Char) : Prop := behind = [] ∨ ∃ rest, behind = '\n' :: rest

/-- What is taken out of the text for a position is its line. -/
theorem exists_slice_line {before behind : List Char} (hcut : cs = before ++ behind) :
    ∃ line rest, behind = line ++ rest ∧ '\n' ∉ line ∧ EndsLine rest ∧
      Utf8.slice? cs (Utf8.size before) (lineStop cs (Utf8.size before) behind) = some line := by
  rw [lineStop]
  split
  · next front back hfirst =>
    obtain ⟨rfl, hfront⟩ := cutFirst_eq_some hfirst
    exact ⟨front, '\n' :: back, rfl, hfront, .inr ⟨back, rfl⟩, Utf8.slice?_eq_some_iff.2
      ⟨before, '\n' :: back, by rw [hcut, List.append_assoc], rfl, rfl⟩⟩
  · next hfirst =>
    refine ⟨behind, [], (List.append_nil _).symm, not_mem_of_cutFirst hfirst, .inl rfl,
      Utf8.slice?_eq_some_iff.2 ⟨before, [], ?_, rfl, ?_⟩⟩
    · rw [hcut, List.append_nil]
    · rw [hcut, Utf8.size_append]

/-- No part of a text without a line break is longer than the line that the text
starts with. -/
theorem length_le_of_endsLine {line line' rest rest' : List Char}
    (h : line ++ rest = line' ++ rest') (hrest : EndsLine rest) (hline' : '\n' ∉ line') :
    line'.length ≤ line.length := by
  by_contra hlt
  obtain ⟨more, rfl⟩ : line <+: line' := List.prefix_of_prefix_length_le
    (List.prefix_append line rest) (h ▸ List.prefix_append line' rest') (by omega)
  rw [List.append_assoc, List.append_cancel_left_eq] at h
  rcases hrest with rfl | ⟨rest, rfl⟩
  · rw [(List.append_eq_nil_iff.1 h.symm).1, List.append_nil] at hlt
    exact hlt (Nat.le_refl _)
  · cases more with
    | nil =>
      rw [List.append_nil] at hlt
      exact hlt (Nat.le_refl _)
    | cons c more =>
      obtain ⟨rfl, -⟩ := List.cons.inj h
      exact hline' (List.mem_append_right _ List.mem_cons_self)

/-- A position lies in a line exactly up to its end. -/
theorem stands_line_iff {before line rest : List Char} (hcut : cs = before ++ line ++ rest)
    (hline : '\n' ∉ line) (hrest : EndsLine rest) (hafter : after ⟨0, 0⟩ before = ⟨p.line, 0⟩) :
    Stands cs n p ↔ p.col ≤ line.length ∧ Utf8.size before + Utf8.size (line.take p.col) = n := by
  constructor
  · intro h
    obtain ⟨before', line', rest', hcut', hline', hafter', hcol, rfl⟩ := h.exists_line
    have hstart : Stands cs (Utf8.size before) ⟨p.line, 0⟩ :=
      ⟨before, line ++ rest, by rw [hcut, List.append_assoc], rfl, hafter⟩
    have hstart' : Stands cs (Utf8.size before') ⟨p.line, 0⟩ :=
      ⟨before', line' ++ rest', by rw [hcut', List.append_assoc], rfl, hafter'⟩
    rw [hcut, List.append_assoc, List.append_assoc] at hcut'
    obtain ⟨rfl, hbehind⟩ := Utf8.append_inj_of_size hcut' (hstart.byte_unique hstart')
    have hle := length_le_of_endsLine hbehind hrest hline'
    have hsame : line.take p.col = line' := by
      have htake : (line ++ rest).take p.col = line.take p.col :=
        List.take_append_of_le_length (hcol ▸ hle)
      rw [← htake, hbehind, hcol, List.take_left' rfl]
    rw [hsame]
    exact ⟨hcol ▸ hle, rfl⟩
  · rintro ⟨hcol, rfl⟩
    refine ⟨before ++ line.take p.col, line.drop p.col ++ rest, ?_, Utf8.size_append _ _, ?_⟩
    · rw [hcut, List.append_assoc, List.append_assoc, ← List.append_assoc (line.take _),
        List.take_append_drop]
    · rw [after_append, hafter, after_of_not_mem _ fun hmem => hline (List.mem_of_mem_take hmem),
        List.length_take_of_le hcol, Nat.zero_add]

/-- **The byte of a position**, found by its line, is the one that stands
there, and every part that is taken out of the text is there. -/
theorem offsetIn?_eq (cs : List Char) (p : Pos) : offsetIn? cs p = some (p.offset? cs) := by
  rw [offsetIn?]
  split
  · next hnone =>
    have hoff : p.offset? cs = none := by
      rw [Option.eq_none_iff_forall_ne_some]
      intro n hn
      obtain ⟨before, line, rest, hcut, -, hafter, -⟩ := (offset?_eq_some_iff.1 hn).exists_line
      rw [lineStarts_getElem?_iff.2 ⟨before, line ++ rest, by rw [hcut, List.append_assoc], rfl,
        hafter⟩] at hnone
      cases hnone
    rw [hoff]
  · next start hstart =>
    obtain ⟨before, behind, hcut, rfl, hafter⟩ := lineStarts_getElem?_iff.1 hstart
    have hdrop : Utf8.drop? cs (Utf8.size before) = some behind :=
      Utf8.drop?_eq_some_iff.2 ⟨before, hcut, rfl⟩
    obtain ⟨line, rest, hbehind, hline, hrest, hslice⟩ := exists_slice_line hcut
    rw [hbehind, ← List.append_assoc] at hcut
    have hiff := fun n => (offset?_eq_some_iff (n := n)).trans
      (stands_line_iff hcut hline hrest hafter)
    simp only [hdrop, Option.bind_eq_bind, Option.bind_some, hslice]
    obtain ⟨front, back, -, -, hstop⟩ := Utf8.slice?_eq_some_iff.1 hslice
    split
    · next hcol =>
      rw [(hiff _).2 ⟨Nat.le_of_eq hcol, rfl⟩, hcol, List.take_length, hstop]
    · split
      · next hne hlt => rw [(hiff _).2 ⟨Nat.le_of_lt hlt, rfl⟩]
      · next hne hge =>
        have hoff : p.offset? cs = none := by
          rw [Option.eq_none_iff_forall_ne_some]
          intro n hn
          have := ((hiff n).1 hn).1
          omega
        rw [hoff]

end Pos

end Lines

end CodeDesk
