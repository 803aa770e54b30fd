import CodeDesk.Unicode.CaseMap

/-!
# Lower case is final

What lower case makes of a character is in lower case already. For two runs
of characters that are mapped by a distance this is a matter of their ends:
the run that the first one becomes lies beside the second one, or the two
interleave. So it is enough to compare the runs with each other once, and no
character has to be looked at.
-/

namespace CodeDesk
namespace Unicode

/-! ## Runs that do not meet -/

namespace CaseRun

variable {r q : CaseRun} {n : Nat}

theorem has_iff :
    r.has n = true ↔ r.first ≤ n ∧ n ≤ r.last ∧ (r.alternate = true → (n - r.first) % 2 = 0) := by
  cases h : r.alternate <;> simp [has, h, and_assoc]

/-- No character of `r` becomes one of `q`: what becomes of them ends before
`q`, starts behind it, or falls between its characters. -/
def apart (r q : CaseRun) : Bool :=
  decide (0 ≤ r.first + r.shift) &&
    (Nat.blt (r.image r.last) q.first || Nat.blt q.last (r.image r.first) ||
      r.alternate && q.alternate && (r.image r.first + q.first) % 2 == 1)

theorem not_has_image (h : apart r q = true) (hn : r.has n = true) :
    q.has (r.image n) = false := by
  rw [has_iff] at hn
  obtain ⟨hfirst, hlast, heven⟩ := hn
  simp only [apart, image, Bool.and_eq_true, Bool.or_eq_true, decide_eq_true_eq, Nat.blt_eq,
    beq_iff_eq] at h
  obtain ⟨hnonneg, (hbefore | hbehind) | ⟨⟨halt, hqalt⟩, hodd⟩⟩ := h
  all_goals
    refine Bool.eq_false_iff.2 fun hq => ?_
    rw [has_iff, image] at hq
    obtain ⟨hqfirst, hqlast, hqeven⟩ := hq
  · omega
  · omega
  · -- The distances to both first characters are even, and so is that between them.
    have heven := heven halt
    have hqeven := hqeven hqalt
    omega

end CaseRun

/-! ## Characters in lower case -/

section

variable {several : List (Nat × List Nat)} {runs : List CaseRun} {c d : Char}

theorem caseMap_eq_self (hseveral : several.lookup c.toNat = none)
    (hruns : ∀ r ∈ runs, r.has c.toNat = false) : caseMap several runs c = [c] := by
  simp only [caseMap, hseveral]
  cases hfind : runs.find? fun r => Nat.ble c.toNat r.last with
  | none => rfl
  | some r =>
    have hfree := hruns r (List.mem_of_find?_eq_some hfind)
    simp only [hfree, Bool.false_eq_true, if_false]

/-- What a character becomes is in one of the tables, or nothing becomes of
it. -/
theorem mem_caseMap (h : d ∈ caseMap several runs c) :
    (∃ e ∈ several, ∃ n ∈ e.2, d = Char.ofNat n) ∨
      (∃ r ∈ runs, r.has c.toNat = true ∧ d = Char.ofNat (r.image c.toNat)) ∨
      d = c ∧ caseMap several runs c = [c] := by
  unfold caseMap at h ⊢
  cases hseveral : several.lookup c.toNat with
  | some ds =>
    rw [hseveral] at h
    obtain ⟨n, hn, rfl⟩ := List.mem_map.1 h
    obtain ⟨before, after, heq, _⟩ := List.lookup_eq_some_iff.1 hseveral
    exact .inl ⟨(c.toNat, ds), by simp [heq], n, hn, rfl⟩
  | none =>
    rw [hseveral] at h
    dsimp only at h ⊢
    cases hfind : runs.find? fun r => Nat.ble c.toNat r.last with
    | none =>
      rw [hfind] at h
      exact .inr (.inr ⟨List.mem_singleton.1 h, rfl⟩)
    | some r =>
      rw [hfind] at h
      dsimp only at h ⊢
      by_cases hhas : r.has c.toNat = true
      · rw [if_pos hhas] at h
        have hr := List.mem_of_find?_eq_some hfind
        exact .inr (.inl ⟨r, hr, hhas, List.mem_singleton.1 h⟩)
      · rw [if_neg hhas] at h ⊢
        exact .inr (.inr ⟨List.mem_singleton.1 h, rfl⟩)

end

/-- Lower case leaves a character as it is. -/
def IsLower (c : Char) : Prop := lowerChar c = [c]

instance (c : Char) : Decidable (IsLower c) := inferInstanceAs (Decidable (lowerChar c = [c]))

/-- The characters that become several, as runs. -/
def severalRuns : List CaseRun := lowerSeveral.map fun e => ⟨e.1, e.1, false, 0⟩

/-- No run becomes anything that lower case maps. -/
theorem lowerRuns_apart :
    ∀ r ∈ lowerRuns, ∀ q ∈ severalRuns ++ lowerRuns, r.apart q = true := by
  have h : (lowerRuns.all fun r => (severalRuns ++ lowerRuns).all fun q => r.apart q) = true := by
    decide +kernel
  intro r hr q hq
  exact List.all_eq_true.1 (List.all_eq_true.1 h r hr) q hq

theorem isLower_of_not_has {c : Char}
    (h : ∀ q ∈ severalRuns ++ lowerRuns, q.has c.toNat = false) : IsLower c := by
  refine caseMap_eq_self (List.lookup_eq_none_iff.2 fun e he => ?_) fun r hr =>
    h r (List.mem_append_right _ hr)
  have hkey := h ⟨e.1, e.1, false, 0⟩ (List.mem_append_left _ (List.mem_map_of_mem he))
  refine bne_iff_ne.2 fun heq => ?_
  simp [CaseRun.has, heq, Nat.ble_self_eq_true] at hkey

/-- What lower case makes of a character is in lower case. -/
theorem isLower_of_mem {c d : Char} (h : d ∈ lowerChar c) : IsLower d := by
  obtain ⟨e, he, n, hn, rfl⟩ | ⟨r, hr, hhas, rfl⟩ | ⟨rfl, hself⟩ := mem_caseMap h
  · have hall : ∀ e ∈ lowerSeveral, ∀ n ∈ e.2, IsLower (Char.ofNat n) := by decide
    exact hall e he n hn
  · by_cases hvalid : (r.image c.toNat).isValidChar
    · have hnat : (Char.ofNat (r.image c.toNat)).toNat = r.image c.toNat := by
        rw [Char.ofNat, dif_pos hvalid]
        rfl
      refine isLower_of_not_has fun q hq => ?_
      rw [hnat]
      exact CaseRun.not_has_image (lowerRuns_apart r hr q hq) hhas
    · have hzero : Char.ofNat (r.image c.toNat) = Char.ofNat 0 := by
        rw [Char.ofNat, dif_neg hvalid]
        rfl
      rw [hzero]
      decide
  · exact hself

theorem IsLower.ne_sigma {c : Char} (h : IsLower c) : c ≠ 'Σ' := by
  have hsigma : ¬ IsLower 'Σ' := by decide
  exact fun heq => hsigma (heq ▸ h)

/-! ## Texts in lower case -/

theorem isLower_of_mem_lowerFrom {d : Char} (passed cs : List Char)
    (h : d ∈ lowerFrom passed cs) : IsLower d := by
  induction cs generalizing passed with
  | nil => cases h
  | cons c cs ih =>
    rw [lowerFrom] at h
    obtain hhead | htail := List.mem_append.1 h
    · -- Both forms of a small sigma are in lower case.
      split at hhead
      · split at hhead
        · rw [List.mem_singleton.1 hhead]
          decide
        · rw [List.mem_singleton.1 hhead]
          decide
      · exact isLower_of_mem hhead
    · exact ih (c :: passed) htail

theorem lowerFrom_eq_self (passed cs : List Char) (h : ∀ c ∈ cs, IsLower c) :
    lowerFrom passed cs = cs := by
  induction cs generalizing passed with
  | nil => rfl
  | cons c cs ih =>
    have hc : IsLower c := h c List.mem_cons_self
    have hcs := ih (c :: passed) fun d hd => h d (List.mem_cons_of_mem c hd)
    rw [lowerFrom, if_neg hc.ne_sigma, hc, hcs]
    rfl

/-- A text in lower case stays as it is. -/
@[simp] theorem lower_lower (s : String) : lower (lower s) = lower s := by
  simp only [lower, String.toList_ofList]
  rw [lowerFrom_eq_self [] _ fun c hc => isLower_of_mem_lowerFrom [] s.toList hc]

example : lower "GitÉ" = "gité" := by decide +kernel

end Unicode
end CodeDesk
