import CodeDesk.Files.Disk
import Mathlib.Data.List.Basic
/-!
# Walks — the files below a directory, in order

Two traversals of the disk look for files: a walk that stays out of
directories of some names, and the listing of a tree in which some
directories are open. Both visit the entries of each directory by name, so
each of them gives a part of one list: the walk that leaves nothing out
(`namesBelow`), in which a file is the names that lead to it. Which part it
is depends on nothing but the directories on the way to a file
(`pathsBelow_eq`), and the depth of the disk is enough to reach every file
(`mem_allNames`).
-/

namespace CodeDesk

namespace Path

/-- The entry that names lead to from `p`. -/
def descend (p : Path) (names : List String) : Path := names.foldl child p

/-- The directories between `p` and the entry that names lead to, by name
and path. -/
def wayTo (p : Path) : List String → List (String × Path)
  | n :: m :: rest => (n, p.child n) :: wayTo (p.child n) (m :: rest)
  | _ => []

theorem wayTo_cons (p : Path) (n : String) {rest : List String} (h : rest ≠ []) :
    p.wayTo (n :: rest) = (n, p.child n) :: (p.child n).wayTo rest := by
  obtain ⟨m, rest, rfl⟩ := List.exists_cons_of_ne_nil h
  rfl

/-- **What is on the way**: the directories that a proper part of the names
leads to. -/
theorem mem_wayTo {p : Path} {names : List String} {e : String × Path} :
    e ∈ p.wayTo names ↔ ∃ front back, names = front ++ e.1 :: back ∧ back ≠ [] ∧
      e.2 = p.descend (front ++ [e.1]) := by
  induction names generalizing p with
  | nil => simp [wayTo]
  | cons n rest ih =>
    by_cases hrest : rest = []
    · subst hrest
      refine iff_of_false List.not_mem_nil ?_
      rintro ⟨front, back, heq, hback, -⟩
      have hlength := congrArg List.length heq
      have hpos := List.length_pos_iff.2 hback
      simp only [List.length_append, List.length_cons, List.length_nil] at hlength
      omega
    · rw [wayTo_cons p n hrest, List.mem_cons, ih]
      constructor
      · rintro (rfl | ⟨front, back, rfl, hback, hpath⟩)
        · exact ⟨[], rest, rfl, hrest, rfl⟩
        · exact ⟨n :: front, back, rfl, hback, hpath⟩
      · rintro ⟨front, back, heq, hback, hpath⟩
        cases front with
        | nil =>
          cases heq
          exact .inl (Prod.ext rfl hpath)
        | cons m front =>
          cases heq
          exact .inr ⟨front, back, rfl, hback, hpath⟩

end Path

namespace Disk

variable (d : Disk)

/-! ## The walk that leaves nothing out -/

/-- The regular files below the directory at `at_`, each as the names that
lead to it, in the order of a walk that visits the entries of each directory
by name. Links are not followed. `fuel` bounds the depth. -/
def namesBelow : (fuel : Nat) → Location → List (List String)
  | 0, _ => []
  | fuel + 1, at_ =>
    (d.entriesIn at_).flatMap fun e =>
      match e.2 with
      | .file _ _ _ => [[e.1]]
      | .dir => (namesBelow fuel (at_ ++ [e.1])).map (e.1 :: ·)
      | .link _ => []

/-- All regular files below the directory at `at_`. -/
def allNames (at_ : Location) : List (List String) := d.namesBelow d.depth at_

/-- Names that lead from the directory at a location through directories to
a regular file. -/
inductive HoldsFile : Location → List String → Prop
  /-- The file lies in the directory. -/
  | here {at_ : Location} {n : String} {e : Entry} :
      (n, e) ∈ d.entriesIn at_ → e.isFile → HoldsFile at_ [n]
  /-- The file lies below a directory in the directory. -/
  | inside {at_ : Location} {n : String} {rest : List String} :
      (n, .dir) ∈ d.entriesIn at_ → HoldsFile (at_ ++ [n]) rest → HoldsFile at_ (n :: rest)

variable {d} {at_ : Location} {fuel : Nat} {names : List String}

theorem HoldsFile.ne_nil (h : d.HoldsFile at_ names) : names ≠ [] := by
  cases h <;> exact List.cons_ne_nil _ _

theorem nameIn?_eq_some {loc : Location} {n : String} :
    nameIn? at_ loc = some n ↔ loc = at_ ++ [n] := by
  rw [nameIn?]
  constructor
  · intro h
    split at h
    · next hprefix =>
      obtain ⟨rest, rfl⟩ := List.isPrefixOf_iff_prefix.1 hprefix
      rw [List.drop_left] at h
      split at h
      · cases h
        rfl
      · cases h
    · cases h
  · rintro rfl
    rw [if_pos (List.isPrefixOf_iff_prefix.2 (List.prefix_append _ _)), List.drop_left]

/-- The entries of a directory are those with one more name. -/
theorem mem_entriesIn {n : String} {e : Entry} :
    (n, e) ∈ d.entriesIn at_ ↔ (at_ ++ [n], e) ∈ d.entries := by
  rw [entriesIn, List.mem_mergeSort, List.mem_filterMap]
  constructor
  · rintro ⟨⟨loc, e'⟩, hmem, h⟩
    obtain ⟨m, hm, heq⟩ := Option.map_eq_some_iff.1 h
    cases heq
    rw [nameIn?_eq_some] at hm
    exact hm ▸ hmem
  · intro hmem
    exact ⟨_, hmem, Option.map_eq_some_iff.2 ⟨n, nameIn?_eq_some.2 rfl, rfl⟩⟩

/-- No entry lies deeper than the disk. -/
theorem length_lt_depth {loc : Location} {e : Entry} (h : (loc, e) ∈ d.entries) :
    loc.length < d.depth := by
  have hmax : ∀ (ns : List Nat) (m : Nat), m ≤ ns.foldl Nat.max m ∧
      ∀ n ∈ ns, n ≤ ns.foldl Nat.max m := by
    intro ns
    induction ns with
    | nil => exact fun m => ⟨Nat.le_refl m, nofun⟩
    | cons k ns ih =>
      intro m
      obtain ⟨hstart, hall⟩ := ih (Nat.max m k)
      refine ⟨Nat.le_trans (Nat.le_max_left m k) hstart, fun n hn => ?_⟩
      rcases List.mem_cons.1 hn with rfl | hn
      · exact Nat.le_trans (Nat.le_max_right m n) hstart
      · exact hall n hn
  exact Nat.lt_succ_of_le ((hmax _ 0).2 _ (List.mem_map.2 ⟨_, h, rfl⟩))

/-- Nor does a file. -/
theorem HoldsFile.length_le (h : d.HoldsFile at_ names) : at_.length + names.length < d.depth := by
  induction h with
  | here hmem _ =>
    have hdepth := length_lt_depth (mem_entriesIn.1 hmem)
    rwa [List.length_append] at hdepth
  | inside _ _ ih =>
    rw [List.length_append] at ih
    simp only [List.length_cons, List.length_nil] at ih ⊢
    omega

theorem mem_namesBelow :
    names ∈ d.namesBelow fuel at_ ↔ d.HoldsFile at_ names ∧ names.length ≤ fuel := by
  induction fuel generalizing at_ names with
  | zero =>
    refine iff_of_false List.not_mem_nil fun h => ?_
    exact h.1.ne_nil (List.length_eq_zero_iff.1 (Nat.le_zero.1 h.2))
  | succ fuel ih =>
    rw [namesBelow, List.mem_flatMap]
    constructor
    · rintro ⟨⟨n, e⟩, hmem, h⟩
      cases e with
      | file b t m =>
        rw [List.mem_singleton.1 h]
        exact ⟨.here hmem rfl, Nat.le_add_left _ _⟩
      | dir =>
        obtain ⟨rest, hrest, rfl⟩ := List.mem_map.1 h
        obtain ⟨hfile, hlength⟩ := ih.1 hrest
        exact ⟨.inside hmem hfile, Nat.succ_le_succ hlength⟩
      | link target => cases h
    · rintro ⟨hfile, hlength⟩
      cases hfile with
      | @here _ n e hmem hregular =>
        cases e with
        | file b t m => exact ⟨_, hmem, List.mem_singleton_self _⟩
        | dir => cases hregular
        | link target => cases hregular
      | @inside _ n rest hmem hrest =>
        exact ⟨_, hmem, List.mem_map.2 ⟨rest, ih.2 ⟨hrest, Nat.le_of_succ_le_succ hlength⟩, rfl⟩⟩

/-- **The walk reaches every file**, and nothing else. -/
theorem mem_allNames : names ∈ d.allNames at_ ↔ d.HoldsFile at_ names := by
  rw [allNames, mem_namesBelow, and_iff_left_iff_imp]
  intro h
  have hdepth := h.length_le
  omega

/-! ## Walks that leave something out -/

variable (d) in
/-- The paths of the regular files below a directory, in the order of a walk
that enters the directories that `keep` holds of. -/
def pathsBelow (keep : String × Path → Bool) : (fuel : Nat) → Location → Path → List Path
  | 0, _, _ => []
  | fuel + 1, at_, p =>
    (d.entriesIn at_).flatMap fun e =>
      match e.2 with
      | .file _ _ _ => [p.child e.1]
      | .dir =>
        if keep (e.1, p.child e.1) then pathsBelow keep fuel (at_ ++ [e.1]) (p.child e.1) else []
      | .link _ => []

/-- The files whose names go on from a directory are kept if it is entered
and they are kept below it. -/
theorem filter_map_cons (keep : String × Path → Bool) (p : Path) (n : String)
    (further : List String → Bool) (hfurther : ∀ ns ≠ [], further (n :: ns) = true)
    {nss : List (List String)} (hne : ∀ ns ∈ nss, ns ≠ []) :
    ((nss.map (n :: ·)).filter fun ns => further ns && (p.wayTo ns).all keep).map p.descend =
      if keep (n, p.child n) then
        (nss.filter fun ns => ((p.child n).wayTo ns).all keep).map (p.child n).descend
      else [] := by
  have hway : ∀ ns ∈ nss, (further (n :: ns) && (p.wayTo (n :: ns)).all keep) =
      (keep (n, p.child n) && ((p.child n).wayTo ns).all keep) := by
    intro ns hns
    rw [hfurther ns (hne ns hns), Bool.true_and, Path.wayTo_cons p n (hne ns hns), List.all_cons]
  have hfilter : (nss.map (n :: ·)).filter (fun ns => further ns && (p.wayTo ns).all keep) =
      (nss.filter fun ns => keep (n, p.child n) && ((p.child n).wayTo ns).all keep).map
        (n :: ·) := by
    rw [List.filter_map]
    exact congrArg _ (List.filter_congr hway)
  rw [hfilter, List.map_map]
  by_cases hkeep : keep (n, p.child n) = true
  · rw [if_pos hkeep]
    simp only [hkeep, Bool.true_and]
    rfl
  · rw [if_neg hkeep]
    simp only [hkeep, Bool.false_and, List.filter_false, List.map_nil]

/-- **A walk that leaves something out** gives the files for which every
directory on the way is entered, in the order of the walk that leaves
nothing out. -/
theorem pathsBelow_eq (keep : String × Path → Bool) (fuel : Nat) (at_ : Location) (p : Path) :
    d.pathsBelow keep fuel at_ p =
      ((d.namesBelow fuel at_).filter fun ns => (p.wayTo ns).all keep).map p.descend := by
  induction fuel generalizing at_ p with
  | zero => rfl
  | succ fuel ih =>
    rw [pathsBelow, namesBelow, List.filter_flatMap, List.map_flatMap]
    refine List.flatMap_congr fun e _ => ?_
    obtain ⟨n, e⟩ := e
    cases e with
    | file b t m => rfl
    | dir =>
      have hbelow : ∀ ns ∈ d.namesBelow fuel (at_ ++ [n]), ns ≠ [] := fun ns hns =>
        (mem_namesBelow.1 hns).1.ne_nil
      have hmap := filter_map_cons keep p n (fun _ => true) (fun _ _ => rfl) hbelow
      simp only [Bool.true_and] at hmap
      rw [ih]
      exact hmap.symm
    | link target => rfl

/-- The same walk, started in the directories of a directory. -/
theorem pathsBelow_dirs_eq (keep : String × Path → Bool) (fuel : Nat) (at_ : Location)
    (p : Path) :
    ((d.entriesIn at_).flatMap fun e =>
      match e.2 with
      | .dir =>
        if keep (e.1, p.child e.1) then d.pathsBelow keep fuel (at_ ++ [e.1]) (p.child e.1)
        else []
      | _ => []) =
      ((d.namesBelow (fuel + 1) at_).filter fun ns =>
        decide (1 < ns.length) && (p.wayTo ns).all keep).map p.descend := by
  rw [namesBelow, List.filter_flatMap, List.map_flatMap]
  refine List.flatMap_congr fun e _ => ?_
  obtain ⟨n, e⟩ := e
  cases e with
  | file b t m => rfl
  | dir =>
    have hbelow : ∀ ns ∈ d.namesBelow fuel (at_ ++ [n]), ns ≠ [] := fun ns hns =>
      (mem_namesBelow.1 hns).1.ne_nil
    have hmap := filter_map_cons keep p n (fun ns => decide (1 < ns.length))
      (fun ns hns => decide_eq_true (Nat.succ_lt_succ (List.length_pos_iff.2 hns))) hbelow
    dsimp only
    rw [pathsBelow_eq]
    exact hmap.symm
  | link target => rfl

theorem map_fst_filesBelow (enter : String → Bool) (fuel : Nat) (at_ : Location) (p : Path) :
    (d.filesBelow enter fuel at_ p).map Prod.fst =
      d.pathsBelow (fun e => enter e.1) fuel at_ p := by
  induction fuel generalizing at_ p with
  | zero => rfl
  | succ fuel ih =>
    rw [filesBelow, pathsBelow, List.map_flatMap]
    refine List.flatMap_congr fun e _ => ?_
    obtain ⟨n, e⟩ := e
    cases e with
    | file b t m => rfl
    | dir =>
      dsimp only
      split
      · exact ih _ _
      · rfl
    | link target => rfl

end Disk
end CodeDesk
