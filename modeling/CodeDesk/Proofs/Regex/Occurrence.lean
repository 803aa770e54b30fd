import CodeDesk.Proofs.Text.Pieces
import CodeDesk.Regex.Expr
/-!
# Occurrences — where a text stands in another

What a search for a plain text is to find, said without a program: the
text is a list of character sets, one for each of its characters, and it
occurs where these `fit` one after the other. `occurrencesFrom` reads off
the leftmost occurrences that do not overlap, in one walk.

Two views of that walk serve the proofs. `occurrencesFrom_eq` goes from
one occurrence to the next, as a search that is started again behind each
match does; and every match of the cut text fits (`fit_of_mem_cutFrom`).
-/

namespace CodeDesk
namespace Regex

open Unicode

/-- Whether a text starts with one character of each set. -/
def fit : List CharSet → List Char → Bool
  | [], _ => true
  | _ :: _, [] => false
  | s :: sets, c :: cs => s.contains c && fit sets cs

/-- The number of the first character from which on the sets fit, where
the text starts with character number `here`. -/
def firstFrom (sets : List CharSet) (here : Nat) : List Char → Option Nat
  | [] => none
  | c :: cs => if fit sets (c :: cs) then some here else firstFrom sets (here + 1) cs

/-- The ranges from which on the sets fit, the leftmost ones that do not
overlap; the first `skip` characters belong to the range before. -/
def occurrencesFrom (sets : List CharSet) (here : Nat) : (skip : Nat) → List Char → List (Nat × Nat)
  | _, [] => []
  | skip + 1, _ :: cs => occurrencesFrom sets (here + 1) skip cs
  | 0, c :: cs =>
    if fit sets (c :: cs) then
      (here, here + sets.length) :: occurrencesFrom sets (here + 1) (sets.length - 1) cs
    else occurrencesFrom sets (here + 1) 0 cs

/-- The sets of a text that is looked for. -/
def setsOf (ignoreCase : Bool) (s : String) : List CharSet := s.toList.map (charSet ignoreCase)

/-- The leftmost occurrences in a text that do not overlap. -/
def occurrences (sets : List CharSet) (cs : List Char) : List (Nat × Nat) :=
  occurrencesFrom sets 0 0 cs

/-! ## Fitting -/

section Fit

variable {sets : List CharSet} {cs : List Char}

/-- A text that fits is long enough. -/
theorem length_le_of_fit (h : fit sets cs = true) : sets.length ≤ cs.length := by
  induction sets generalizing cs with
  | nil => exact Nat.zero_le _
  | cons s sets ih =>
    cases cs with
    | nil => simp [fit] at h
    | cons c cs =>
      rw [fit, Bool.and_eq_true] at h
      exact Nat.succ_le_succ (ih h.2)

/-- Only as many characters count as there are sets. -/
theorem fit_take : fit sets (cs.take sets.length) = fit sets cs := by
  induction sets generalizing cs with
  | nil => rfl
  | cons s sets ih =>
    cases cs with
    | nil => rfl
    | cons c cs => rw [List.length_cons, List.take_succ_cons, fit, fit, ih]

/-- Sets without a text to fit. -/
theorem fit_nil (h : sets ≠ []) : fit sets [] = false := by
  cases sets with
  | nil => exact absurd rfl h
  | cons s sets => rfl

/-- Where the sets fit first is in the text, with room for all of them. -/
theorem firstFrom_some {here i : Nat} (h : firstFrom sets here cs = some i) :
    here ≤ i ∧ i + sets.length ≤ here + cs.length ∧ fit sets (cs.drop (i - here)) = true := by
  induction cs generalizing here with
  | nil => simp [firstFrom] at h
  | cons c cs ih =>
    rw [firstFrom] at h
    split at h
    · next hfit =>
      cases h
      rw [Nat.sub_self, List.drop_zero]
      exact ⟨Nat.le_refl _, Nat.add_le_add_left (length_le_of_fit hfit) _, hfit⟩
    · obtain ⟨hle, hroom, hfit⟩ := ih h
      rw [List.length_cons]
      refine ⟨by omega, by omega, ?_⟩
      rw [show i - here = (i - (here + 1)) + 1 by omega, List.drop_succ_cons]
      exact hfit

end Fit

/-! ## From one occurrence to the next -/

/-- Characters that belong to the range before are passed over. -/
theorem occurrencesFrom_skip (sets : List CharSet) (here skip : Nat) (cs : List Char) :
    occurrencesFrom sets here skip cs =
      occurrencesFrom sets (here + skip) 0 (cs.drop skip) := by
  induction skip generalizing here cs with
  | zero => rfl
  | succ skip ih =>
    cases cs with
    | nil => simp [occurrencesFrom]
    | cons c cs =>
      rw [occurrencesFrom, ih, List.drop_succ_cons]
      congr 1
      omega

/-- **The occurrences are the first one and those behind it.** -/
theorem occurrencesFrom_eq {sets : List CharSet} (hsets : sets ≠ []) (here : Nat)
    (cs : List Char) :
    occurrencesFrom sets here 0 cs =
      match firstFrom sets here cs with
      | none => []
      | some i =>
        (i, i + sets.length) ::
          occurrencesFrom sets (i + sets.length) 0 (cs.drop (i + sets.length - here)) := by
  induction cs generalizing here with
  | nil => rfl
  | cons c cs ih =>
    have hpos := List.length_pos_iff.2 hsets
    rw [occurrencesFrom, firstFrom]
    split
    · rw [occurrencesFrom_skip]
      simp only
      rw [show here + sets.length - here = (sets.length - 1) + 1 by omega, List.drop_succ_cons,
        show here + 1 + (sets.length - 1) = here + sets.length by omega]
    · rw [ih]
      cases hfirst : firstFrom sets (here + 1) cs with
      | none => rfl
      | some i =>
        have := (firstFrom_some hfirst).1
        simp only
        rw [show i + sets.length - here = (i + sets.length - (here + 1)) + 1 by omega,
          List.drop_succ_cons]

/-- **Every match of a text that is cut at its occurrences fits.** -/
theorem fit_of_mem_cutFrom {sets : List CharSet} (hsets : sets ≠ []) {here : Nat}
    {cs : List Char} {x : Piece}
    (hx : x ∈ (cutFrom here cs (occurrencesFrom sets here 0 cs)).1) :
    fit sets x.found = true ∧ x.found.length = sets.length := by
  have hpos := List.length_pos_iff.2 hsets
  -- Each cut leaves less text, so the induction is on how much there is.
  induction hn : cs.length using Nat.strongRecOn generalizing here cs with
  | ind n ih =>
    rw [occurrencesFrom_eq hsets] at hx
    cases hfirst : firstFrom sets here cs with
    | none => simp [hfirst, cutFrom] at hx
    | some i =>
      obtain ⟨hle, hroom, hfit⟩ := firstFrom_some hfirst
      rw [hfirst] at hx
      simp only [cutFrom, List.mem_cons, Nat.add_sub_cancel_left, List.drop_drop] at hx
      rcases hx with rfl | hx
      · refine ⟨by rw [fit_take]; exact hfit, ?_⟩
        rw [List.length_take, List.length_drop]
        omega
      · rw [show i - here + sets.length = i + sets.length - here by omega] at hx
        refine ih _ ?_ hx rfl
        rw [List.length_drop]
        omega

end Regex
end CodeDesk
