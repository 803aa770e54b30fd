import CodeDesk.Data.Value
import Mathlib.Data.List.Nodup
/-!
# Values that are read back

A reader that undoes how one item is written undoes how a list of them is
written, and a record is read back field by field: no name occurs twice among
the members, so the member of each name is the one that was written for it.
-/

namespace CodeDesk
namespace Value

variable {α β : Type}

/-! ## Fields -/

/-- A field that may be missing holds what stands for a missing one, or what
was read. -/
theorem eq_or_of_defaulted {fallback a : α} {f : Value → Option α} {o : Option Value}
    (h : defaulted fallback f o = some a) : a = fallback ∨ ∃ v, f v = some a := by
  cases o with
  | none => exact .inl (Option.some.inj h).symm
  | some v => exact .inr ⟨v, h⟩

theorem nat?_nat {limit n : Nat} (h : n < limit) : nat? limit (nat n) = some n := by
  have hrange : (decide (0 ≤ (n : Int)) && decide ((n : Int) < (limit : Int))) = true := by
    rw [Bool.and_eq_true, decide_eq_true_eq, decide_eq_true_eq]
    omega
  rw [nat, nat?, if_pos hrange, Int.toNat_natCast]

theorem lt_of_nat? {limit n : Nat} {v : Value} (h : nat? limit v = some n) : n < limit := by
  unfold nat? at h
  split at h
  · next i =>
    split at h
    · next hrange =>
      rw [Bool.and_eq_true, decide_eq_true_eq, decide_eq_true_eq] at hrange
      have hn := Option.some.inj h
      omega
    · cases h
  · cases h

/-! ## Lists -/

theorem mapM_map_eq_some {f : β → Option α} {g : α → β} (as : List α)
    (h : ∀ a ∈ as, f (g a) = some a) : (as.map g).mapM f = some as := by
  induction as with
  | nil => rfl
  | cons a as ih =>
    rw [List.map_cons, List.mapM_cons, h a List.mem_cons_self,
      ih fun b hb => h b (List.mem_cons_of_mem a hb)]
    rfl

theorem listOf?_map {f : Value → Option α} {g : α → Value} (as : List α)
    (h : ∀ a ∈ as, f (g a) = some a) : listOf? f (list (as.map g)) = some as :=
  mapM_map_eq_some as h

@[simp] theorem listOf?_texts (ss : List String) : listOf? text? (texts ss) = some ss :=
  listOf?_map ss fun _ _ => rfl

/-! ## Records -/

section

variable {names : List String} {ms : List (String × Value)}

theorem repeats_eq_false (hnames : ms.map Prod.fst = names) (hnodup : names.Nodup) :
    repeats names ms = false := by
  refine List.any_eq_false.2 fun n _ => ?_
  have hone : names.count n ≤ 1 := List.nodup_iff_count_le_one.1 hnodup n
  rw [← hnames, List.count_eq_countP, List.countP_map, List.countP_eq_length_filter] at hone
  exact fun hlt => absurd (of_decide_eq_true hlt) (Nat.not_lt.2 hone)

theorem map_find? (hnames : ms.map Prod.fst = names) (hnodup : names.Nodup) :
    (names.map fun n => (ms.find? fun m => m.1 == n).map Prod.snd) =
      ms.map fun m => some m.2 := by
  subst hnames
  induction ms with
  | nil => rfl
  | cons m ms ih =>
    obtain ⟨hnew, hnodup⟩ := List.nodup_cons.1 hnodup
    rw [List.map_cons, List.map_cons, List.map_cons, ← ih hnodup]
    congr 1
    · rw [List.find?_cons, beq_self_eq_true]
      rfl
    · refine List.map_congr_left fun n hn => ?_
      -- The first member has another name, so that the others are searched.
      have hne : (m.1 == n) = false := beq_eq_false_iff_ne.2 fun heq => hnew (heq ▸ hn)
      rw [List.find?_cons, hne]

/-- A record that has every field in its place is read as their values. -/
theorem record?_map (hnames : ms.map Prod.fst = names) (hnodup : names.Nodup) :
    record? names (map ms) = some (ms.map fun m => some m.2) := by
  rw [record?, repeats_eq_false hnames hnodup, if_neg Bool.false_ne_true, map_find? hnames hnodup]

end

/-! ## Equal values -/

mutual

/-- Whether values are the same and hold no floating point number, which
evaluation cannot compare. -/
def same : Value → Value → Bool
  | null, null => true
  | bool a, bool b => a == b
  | int m, int n => m == n
  | text s, text t => s == t
  | list vs, list ws => sameItems vs ws
  | map ms, map ns => sameMembers ms ns
  | unreadable, unreadable => true
  | _, _ => false

/-- `same` of every item. -/
def sameItems : List Value → List Value → Bool
  | [], [] => true
  | v :: vs, w :: ws => same v w && sameItems vs ws
  | _, _ => false

/-- `same` of every member, and of their names. -/
def sameMembers : List (String × Value) → List (String × Value) → Bool
  | [], [] => true
  | (m, v) :: ms, (n, w) :: ns => m == n && same v w && sameMembers ms ns
  | _, _ => false

end

mutual

theorem eq_of_same : ∀ {v w : Value}, same v w = true → v = w
  | null, w, h => by cases w <;> first | rfl | cases h
  | bool a, w, h => by
    cases w with
    | bool b => rw [beq_iff_eq.1 h]
    | _ => cases h
  | int m, w, h => by
    cases w with
    | int n => rw [beq_iff_eq.1 h]
    | _ => cases h
  | float x, w, h => by cases w <;> cases h
  | text s, w, h => by
    cases w with
    | text t => rw [beq_iff_eq.1 h]
    | _ => cases h
  | list vs, w, h => by
    cases w with
    | list ws => rw [eq_of_sameItems h]
    | _ => cases h
  | map ms, w, h => by
    cases w with
    | map ns => rw [eq_of_sameMembers h]
    | _ => cases h
  | unreadable, w, h => by cases w <;> first | rfl | cases h

theorem eq_of_sameItems : ∀ {vs ws : List Value}, sameItems vs ws = true → vs = ws
  | [], [], _ => rfl
  | v :: vs, w :: ws, h => by
    rw [sameItems, Bool.and_eq_true] at h
    rw [eq_of_same h.1, eq_of_sameItems h.2]
  | [], _ :: _, h => by cases h
  | _ :: _, [], h => by cases h

theorem eq_of_sameMembers : ∀ {ms ns : List (String × Value)}, sameMembers ms ns = true → ms = ns
  | [], [], _ => rfl
  | (m, v) :: ms, (n, w) :: ns, h => by
    rw [sameMembers, Bool.and_eq_true, Bool.and_eq_true, beq_iff_eq] at h
    rw [h.1.1, eq_of_same h.1.2, eq_of_sameMembers h.2]
  | [], _ :: _, h => by cases h
  | _ :: _, [], h => by cases h

end

end Value
end CodeDesk
