import CodeDesk.Text.Split
/-!
# Numbers — what a run of digits says

The value of digits is a fold over them, so zeros in front do not count, and
each further digit makes a number ten times as great. A word is read from
nothing but digits (`word?_eq_some_iff`), and the digits that a number is
written with are read back as that number (`word?_toString`).
-/

namespace CodeDesk

/-! ## Texts and numbers -/

theorem dropLead?_eq_some_iff {lead text rest : List Char} :
    dropLead? lead text = some rest ↔ text = lead ++ rest := by
  induction lead generalizing text with
  | nil => rw [dropLead?, Option.some.injEq, List.nil_append]
  | cons a lead ih =>
    cases text with
    | nil => simp [dropLead?]
    | cons b text =>
      rw [dropLead?, List.cons_append, List.cons.injEq]
      split
      · next heq => rw [ih, heq, eq_self, true_and]
      · next hne => simp [Ne.symm hne]

/-- The value of digits that stand behind a number. -/
def digitsBehind (n : Nat) (ds : List Char) : Nat :=
  ds.foldl (fun n c => 10 * n + (c.toNat - '0'.toNat)) n

theorem digitsValue_cons (d : Char) (ds : List Char) :
    digitsValue (d :: ds) = digitsBehind (d.toNat - '0'.toNat) ds := by
  rw [digitsValue, List.foldl_cons, digitsBehind, Nat.mul_zero, Nat.zero_add]

theorem digitsBehind_zero (ds : List Char) : digitsBehind 0 ds = digitsValue ds := rfl

theorem le_digitsBehind (n : Nat) (ds : List Char) : n ≤ digitsBehind n ds := by
  induction ds generalizing n with
  | nil => exact Nat.le_refl n
  | cons d ds ih =>
    have h := ih (10 * n + (d.toNat - '0'.toNat))
    rw [digitsBehind, List.foldl_cons]
    rw [digitsBehind] at h
    omega

/-- One more digit makes a number ten times as great. -/
theorem mul_le_digitsBehind (n : Nat) (d : Char) (ds : List Char) :
    10 * n ≤ digitsBehind n (d :: ds) := by
  have h := le_digitsBehind (10 * n + (d.toNat - '0'.toNat)) ds
  rw [digitsBehind, List.foldl_cons]
  rw [digitsBehind] at h
  omega

theorem digitsValue_padded (zeros : Nat) (ds : List Char) :
    digitsValue (List.replicate zeros '0' ++ ds) = digitsValue ds := by
  induction zeros with
  | zero => rfl
  | succ zeros ih => rw [List.replicate_succ, List.cons_append, digitsValue_cons, ← ih]; rfl

/-- A digit is known by its value. -/
theorem eq_of_value {d d' : Char} (h : isDigit d) (h' : isDigit d')
    (hvalue : d.toNat - '0'.toNat = d'.toNat - '0'.toNat) : d = d' := by
  rw [isDigit, Bool.and_eq_true, decide_eq_true_eq] at h h'
  have hle : '0'.toNat ≤ d.toNat := h.1
  have hle' : '0'.toNat ≤ d'.toNat := h'.1
  rw [← Char.ofNat_toNat d, ← Char.ofNat_toNat d', show d.toNat = d'.toNat by omega]

/-- Digits of a number below ten are zeros and one more digit. -/
theorem exists_padding {ds : List Char} (hne : ds ≠ []) (hdigits : ∀ d ∈ ds, isDigit d)
    (hvalue : digitsValue ds < 10) :
    ∃ zeros d, ds = List.replicate zeros '0' ++ [d] ∧ isDigit d ∧
      digitsValue ds = d.toNat - '0'.toNat := by
  induction ds with
  | nil => exact absurd rfl hne
  | cons d ds ih =>
    have hd : isDigit d := hdigits d List.mem_cons_self
    rw [digitsValue_cons] at hvalue ⊢
    cases ds with
    | nil => exact ⟨0, d, rfl, hd, rfl⟩
    | cons d' ds =>
      -- A digit in front of others is a zero, or the number is at least ten.
      have hzero : d.toNat - '0'.toNat = 0 := by
        have := mul_le_digitsBehind (d.toNat - '0'.toNat) d' ds
        omega
      rw [hzero, digitsBehind_zero] at hvalue ⊢
      obtain ⟨zeros, last, hds, hlast, hval⟩ :=
        ih (List.cons_ne_nil d' ds) (fun c hc => hdigits c (List.mem_cons_of_mem d hc)) hvalue
      refine ⟨zeros + 1, last, ?_, hlast, hval⟩
      rw [eq_of_value hd (show isDigit '0' from rfl) hzero, hds, List.replicate_succ,
        List.cons_append]

/-! ## The number at the end of a name -/

theorem word?_eq_some_iff {cs : List Char} {n : Nat} (hplus : '+' ∉ cs) :
    word? cs = some n ↔
      cs ≠ [] ∧ (∀ c ∈ cs, isDigit c) ∧ digitsValue cs = n ∧ n < wordLimit := by
  have hword : word? cs = if cs.isEmpty || !cs.all isDigit then none
      else if digitsValue cs < wordLimit then some (digitsValue cs) else none := by
    unfold word?
    split
    · exact absurd List.mem_cons_self hplus
    · rfl
  rw [hword]
  split
  · next hbad =>
    rw [Bool.or_eq_true, Bool.not_eq_true', List.isEmpty_iff, List.all_eq_false] at hbad
    constructor
    · intro h
      cases h
    · rintro ⟨hne, hdigits, -⟩
      rcases hbad with hnil | ⟨c, hc, hno⟩
      · exact absurd hnil hne
      · exact absurd (hdigits c hc) hno
  · next hgood =>
    rw [Bool.or_eq_true, not_or, Bool.not_eq_true', Bool.not_eq_false, List.isEmpty_iff,
      List.all_eq_true] at hgood
    split
    · next hlt =>
      rw [Option.some.injEq]
      exact ⟨fun h => ⟨hgood.1, hgood.2, h, h ▸ hlt⟩, fun h => h.2.2.1⟩
    · next hge =>
      constructor
      · intro h
        cases h
      · rintro ⟨-, -, rfl, hlt⟩
        exact absurd hlt hge

/-! ## Numbers that are written -/

/-- A number is written in digits. -/
theorem isDigit_of_mem_toString {n : Nat} {c : Char} (h : c ∈ (toString n).toList) :
    isDigit c := by
  have hmem : c ∈ Nat.toDigits 10 n := by
    rw [← Nat.toList_repr]
    exact h
  have hdigit : c.isDigit := Nat.isDigit_of_mem_toDigits (by decide) (by decide) hmem
  rw [Char.isDigit, Bool.and_eq_true, decide_eq_true_eq, decide_eq_true_eq] at hdigit
  rw [isDigit, Bool.and_eq_true, decide_eq_true_eq, decide_eq_true_eq]
  exact hdigit

theorem toString_ne_nil (n : Nat) : (toString n).toList ≠ [] := by
  have hdigits : (toString n).toList = Nat.toDigits 10 n := Nat.toList_repr
  rw [hdigits]
  exact Nat.toDigits_ne_nil

theorem digitsValue_toString (n : Nat) : digitsValue (toString n).toList = n := by
  have hdigits : (toString n).toList = Nat.toDigits 10 n := Nat.toList_repr
  rw [hdigits]
  exact Nat.ofDigitChars_toDigits (by decide) (by decide)

theorem eq_zero_of_toDigits {n : Nat} {ds : List Char} (h : Nat.toDigits 10 n = '0' :: ds) :
    n = 0 := by
  induction n using Nat.strongRecOn generalizing ds with
  | ind n ih =>
    rcases Nat.lt_or_ge n 10 with hlt | hge
    · have hdigit : ∀ n < 10, n.digitChar = '0' → n = 0 := by decide
      rw [Nat.toDigits_of_lt_base hlt] at h
      exact hdigit n hlt (List.cons.inj h).1
    · -- The first digit is the one of a tenth of the number.
      rw [Nat.toDigits_of_base_le (by decide) hge] at h
      obtain ⟨d, ds', hds⟩ := List.exists_cons_of_ne_nil (Nat.toDigits_ne_nil (b := 10) (n := n / 10))
      rw [hds, List.cons_append] at h
      have htenth := ih (n / 10) (by omega) (hds.trans (by rw [(List.cons.inj h).1]))
      omega

/-- No number is written with a zero in front of other digits. -/
theorem eq_nil_of_toString {n : Nat} {ds : List Char} (h : (toString n).toList = '0' :: ds) :
    ds = [] := by
  have hdigits : (toString n).toList = Nat.toDigits 10 n := Nat.toList_repr
  obtain rfl := eq_zero_of_toDigits (hdigits.symm.trans h)
  exact (List.cons.inj h).2.symm

/-- **Written numbers are read back**, as far as a word reaches. -/
theorem word?_toString {n : Nat} (h : n < wordLimit) : word? (toString n).toList = some n := by
  have hplus : '+' ∉ (toString n).toList := fun hmem =>
    absurd (isDigit_of_mem_toString hmem) (by decide)
  exact (word?_eq_some_iff hplus).2
    ⟨toString_ne_nil n, fun c hc => isDigit_of_mem_toString hc, digitsValue_toString n, h⟩

end CodeDesk
