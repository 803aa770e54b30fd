import CodeDesk.Proofs.Files.Path
import CodeDesk.Settings.Recent
import Mathlib.Data.List.Induction
/-!
# Recent paths — the last uses, newest first

The paths that were used are ordered by their last use (`lastFirst`), each
once, and a list of recent paths is the beginning of that order. It is kept
step by step: the path that is used moves to the front and what is too much
is dropped at once. Nothing is lost by that (`paths_foldl_add`): all that was
dropped stands behind the paths that are kept, and a place gets free in
front of it only for a path that stood before it or is used anew.

When paths are also taken away and the number of places changes, the list
has gaps, but what is in it is still in order (`Ordered.run`).
-/

namespace CodeDesk
namespace Settings
namespace Recent

variable {used : List Path} {p q : Path} {r : Recent} {max : Nat}

/-! ## The order of last uses -/

/-- The paths that were used, each once and as it was written last, in the
order of their last uses, the newest first. -/
def lastFirst (used : List Path) : List Path := used.reverse.eraseDups

/-- When a path was last used: the number of uses up to then, none if it never
was. -/
def lastUse (used : List Path) (p : Path) : Nat := used.length - used.reverse.idxOf p

/-- Leaving out some paths, in whatever way they are written, and each but once
can be done in either order. -/
theorem eraseDups_filter {f : Path → Bool} (hf : ∀ p q : Path, (p == q) = true → f p = f q)
    (ps : List Path) : (ps.filter f).eraseDups = ps.eraseDups.filter f := by
  match ps with
  | [] => rfl
  | p :: ps =>
    have hshort : (ps.filter fun q => !(q == p)).length < ps.length + 1 :=
      Nat.lt_succ_of_le (List.length_filter_le _ _)
    rw [List.eraseDups_cons]
    cases hp : f p with
    | true =>
      rw [List.filter_cons_of_pos hp, List.filter_cons_of_pos hp, List.eraseDups_cons,
        ← eraseDups_filter hf, List.filter_filter, List.filter_filter]
      simp only [Bool.and_comm]
    | false =>
      -- What is the same as a path that is left out is left out with it.
      have hidle : (ps.filter fun q => !(q == p)).filter f = ps.filter f := by
        rw [List.filter_filter]
        refine List.filter_congr fun q _ => ?_
        cases hqp : q == p with
        | true => rw [hf q p hqp, hp, Bool.false_and]
        | false => rw [Bool.not_false, Bool.and_true]
      have hp : ¬ f p = true := Bool.not_eq_true _ ▸ hp
      rw [List.filter_cons_of_neg hp, List.filter_cons_of_neg hp, ← eraseDups_filter hf, hidle]
termination_by ps.length

/-- A path that is used moves to the front. -/
theorem lastFirst_concat (used : List Path) (p : Path) :
    lastFirst (used ++ [p]) = p :: (lastFirst used).filter fun q => !(q == p) := by
  rw [lastFirst, List.reverse_concat, List.eraseDups_cons, eraseDups_filter, lastFirst]
  intro q q' h
  rw [Path.beq_comm (p := q), Path.beq_comm (p := q'), Path.beq_congr h]

theorem lastUse_concat_of_beq (h : (p == q) = true) (used : List Path) :
    lastUse (used ++ [p]) q = used.length + 1 := by
  rw [lastUse, List.reverse_concat, List.idxOf_cons, h, List.length_append]
  rfl

theorem lastUse_concat_of_not_beq (h : (p == q) = false) (used : List Path) :
    lastUse (used ++ [p]) q = lastUse used q := by
  rw [lastUse, lastUse, List.reverse_concat, List.idxOf_cons, h, List.length_append,
    List.length_singleton, cond_false, Nat.add_sub_add_right]

theorem lastUse_le (used : List Path) (p : Path) : lastUse used p ≤ used.length := Nat.sub_le _ _

/-- **The order of last uses** is what its name says. -/
theorem pairwise_lastFirst (used : List Path) :
    (lastFirst used).Pairwise fun p q => lastUse used q < lastUse used p := by
  induction used using List.reverseRecOn with
  | nil => exact List.Pairwise.nil
  | append_singleton used p ih =>
    have hother : ∀ {q}, q ∈ (lastFirst used).filter (fun q => !(q == p)) →
        lastUse (used ++ [p]) q = lastUse used q := fun hq => by
      have hne := (List.mem_filter.1 hq).2
      rw [Bool.not_eq_true', Path.beq_comm] at hne
      exact lastUse_concat_of_not_beq hne used
    rw [lastFirst_concat, List.pairwise_cons]
    refine ⟨fun q hq => ?_, (ih.sublist List.filter_sublist).imp_of_mem fun hq hq' h => ?_⟩
    · rw [hother hq, lastUse_concat_of_beq (Path.beq_refl p)]
      exact Nat.lt_succ_of_le (lastUse_le used q)
    · rwa [hother hq, hother hq']

/-- The same path has one last use. -/
theorem lastUse_congr (h : (p == q) = true) (used : List Path) : lastUse used p = lastUse used q := by
  have hsame : (fun x : Path => x == p) = fun x => x == q := funext (Path.beq_congr h)
  rw [lastUse, lastUse, List.idxOf, List.idxOf, hsame]

/-- No path stands in the order twice. -/
theorem distinct_lastFirst (used : List Path) :
    (lastFirst used).Pairwise fun p q => (p == q) = false := by
  refine (pairwise_lastFirst used).imp fun h => ?_
  rw [← Bool.not_eq_true]
  intro hsame
  exact absurd (lastUse_congr hsame used) (Nat.ne_of_gt h)

/-! ## Using paths -/

/-- One place more is enough to make up for a path that is taken out. -/
theorem take_filter_take {ps : List Path} (h : ps.Pairwise fun p q => (p == q) = false) (p : Path)
    (n : Nat) : ((ps.take (n + 1)).filter fun q => !(q == p)).take n =
      (ps.filter fun q => !(q == p)).take n := by
  induction ps generalizing n with
  | nil => rfl
  | cons q ps ih =>
    obtain ⟨hq, hps⟩ := List.pairwise_cons.1 h
    rw [List.take_succ_cons]
    cases hqp : q == p with
    | true =>
      have hrest : ∀ ps' ⊆ ps, ps'.filter (fun q => !(q == p)) = ps' := by
        refine fun ps' hsub => List.filter_eq_self.2 fun q' hq' => ?_
        rw [← Path.beq_congr hqp, Path.beq_comm, hq q' (hsub hq')]
        rfl
      rw [List.filter_cons_of_neg (by simp [hqp]), List.filter_cons_of_neg (by simp [hqp]),
        hrest _ (List.take_subset n ps), hrest _ (List.Subset.refl ps), List.take_take,
        Nat.min_self]
    | false =>
      rw [List.filter_cons_of_pos (by simp [hqp]), List.filter_cons_of_pos (by simp [hqp])]
      cases n with
      | zero => rfl
      | succ n => rw [List.take_succ_cons, List.take_succ_cons, ih hps]

/-- **Dropping early loses nothing.** -/
theorem paths_foldl_add (max : Nat) (used : List Path) :
    (used.foldl add (withMax max)).paths = (lastFirst used).take max ∧
      (used.foldl add (withMax max)).max = max := by
  induction used using List.reverseRecOn with
  | nil => exact ⟨List.take_nil.symm, rfl⟩
  | append_singleton used p ih =>
    obtain ⟨hpaths, hmax⟩ := ih
    rw [List.foldl_append, List.foldl_cons, List.foldl_nil]
    refine ⟨?_, hmax⟩
    rw [add, others, hpaths, hmax, lastFirst_concat]
    cases max with
    | zero => rfl
    | succ n =>
      rw [List.take_succ_cons, List.take_succ_cons, take_filter_take (distinct_lastFirst used)]

/-! ## Taking paths away -/

/-- What is done with recent paths. -/
inductive Change where
  /-- A path is used. -/
  | add (p : Path)
  /-- A path is taken away. -/
  | remove (p : Path)
  /-- Another number is kept. -/
  | setMax (max : Nat)

/-- Recent paths after a change. -/
def apply (r : Recent) : Change → Recent
  | .add p => r.add p
  | .remove p => (r.remove p).2
  | .setMax max => r.setMax max

/-- The path that a change uses. -/
def Change.used? : Change → Option Path
  | .add p => some p
  | _ => none

/-- The paths that changes use, the last one last. -/
def usedBy (changes : List Change) : List Path := changes.filterMap Change.used?

/-- There are not too many paths, and they are in the order of last uses. -/
structure Ordered (used : List Path) (r : Recent) : Prop where
  /-- There are not more than are kept. -/
  length : r.paths.length ≤ r.max
  /-- They were used, and their order is that of the last uses. -/
  sublist : r.paths.Sublist (lastFirst used)

theorem Ordered.add (h : Ordered used r) (p : Path) : Ordered (used ++ [p]) (r.add p) := by
  refine ⟨List.length_take_le _ _, (List.take_sublist _ _).trans ?_⟩
  rw [lastFirst_concat]
  exact (h.sublist.filter _).cons_cons p

theorem Ordered.remove (h : Ordered used r) (p : Path) : Ordered used (r.remove p).2 :=
  ⟨Nat.le_trans (List.length_filter_le _ _) h.length, List.filter_sublist.trans h.sublist⟩

theorem Ordered.setMax (h : Ordered used r) (max : Nat) : Ordered used (r.setMax max) :=
  ⟨List.length_take_le _ _, (List.take_sublist _ _).trans h.sublist⟩

/-- **Whatever is done**, the paths stay in the order of their last uses. -/
theorem Ordered.run (max : Nat) (changes : List Change) :
    Ordered (usedBy changes) (changes.foldl apply (withMax max)) := by
  induction changes using List.reverseRecOn with
  | nil => exact ⟨Nat.zero_le max, List.nil_sublist _⟩
  | append_singleton changes change ih =>
    rw [List.foldl_append, List.foldl_cons, List.foldl_nil, usedBy, List.filterMap_append]
    cases change with
    | add p => exact ih.add p
    | remove p => exact (List.append_nil (usedBy changes)).symm ▸ ih.remove p
    | setMax max => exact (List.append_nil (usedBy changes)).symm ▸ ih.setMax max

/-- **Recent paths.** Those that were used are kept in the order of their last
uses, and dropping the oldest at every use comes to the same as dropping them
once in the end. When paths are taken away too and their number is changed,
there are no more than are kept, none is there twice, and one that was used
later stands before one that was used earlier. -/
theorem recentPaths_inOrder (max : Nat) :
    (∀ used : List Path, (used.foldl add (withMax max)).paths = (lastFirst used).take max) ∧
    ∀ changes : List Change,
      let r := changes.foldl apply (withMax max)
      r.paths.Pairwise (fun p q => (p == q) = false) ∧ r.paths.length ≤ r.max ∧
        r.paths.Sublist (lastFirst (usedBy changes)) ∧
        r.paths.Pairwise fun p q => lastUse (usedBy changes) q < lastUse (usedBy changes) p := by
  refine ⟨fun used => (paths_foldl_add max used).1, fun changes => ?_⟩
  have h := Ordered.run max changes
  exact ⟨(distinct_lastFirst _).sublist h.sublist, h.length, h.sublist,
    (pairwise_lastFirst _).sublist h.sublist⟩

end Recent
end Settings
end CodeDesk
