import CodeDesk.Files.Path
/-!
# Paths — when two of them are the same

Paths are compared by their components, so the comparison is an
equivalence that is coarser than being written alike. The order of paths is
that of their components, and total on these. The name of an entry below a
path is the last component of the longer path.
-/

namespace CodeDesk

theorem splitChars_ne_nil (sep : Char) (cs : List Char) : splitChars sep cs ≠ [] := by
  cases cs with
  | nil => exact List.cons_ne_nil _ _
  | cons c cs =>
    unfold splitChars
    split
    · exact List.cons_ne_nil _ _
    · split <;> exact List.cons_ne_nil _ _

theorem splitChars_append_sep (sep : Char) (front back : List Char) :
    splitChars sep (front ++ sep :: back) = splitChars sep front ++ splitChars sep back := by
  induction front with
  | nil =>
    obtain ⟨part, parts, hparts⟩ := List.exists_cons_of_ne_nil (splitChars_ne_nil sep back)
    have hstep : splitChars sep (sep :: back) = [] :: splitChars sep back := by
      rw [splitChars, hparts]
      exact if_pos rfl
    rw [List.nil_append, hstep]
    rfl
  | cons c front ih =>
    obtain ⟨part, parts, hparts⟩ := List.exists_cons_of_ne_nil (splitChars_ne_nil sep front)
    rw [List.cons_append, splitChars, ih, splitChars, hparts, List.cons_append]
    dsimp only
    split <;> rfl

theorem splitChars_of_notMem {sep : Char} {cs : List Char} (h : sep ∉ cs) :
    splitChars sep cs = [cs] := by
  induction cs with
  | nil => rfl
  | cons c cs ih =>
    rw [List.mem_cons, not_or] at h
    rw [splitChars, ih h.2]
    exact if_neg (Ne.symm h.1)

theorem notMem_of_mem_splitChars {sep : Char} {cs seg : List Char} (h : seg ∈ splitChars sep cs) :
    sep ∉ seg := by
  induction cs generalizing seg with
  | nil => exact List.mem_singleton.1 h ▸ List.not_mem_nil
  | cons c cs ih =>
    obtain ⟨part, parts, hparts⟩ := List.exists_cons_of_ne_nil (splitChars_ne_nil sep cs)
    rw [hparts] at ih
    rw [splitChars, hparts] at h
    dsimp only at h
    split at h
    · rcases List.mem_cons.1 h with rfl | h
      · exact List.not_mem_nil
      · exact ih h
    · next hc =>
      rcases List.mem_cons.1 h with rfl | h
      · exact List.not_mem_cons_of_ne_of_not_mem (Ne.symm hc) (ih List.mem_cons_self)
      · exact ih (List.mem_cons_of_mem part h)

namespace Path

variable {p q r : Path}

/-- **Paths are the same when their components are.** -/
theorem beq_iff : (p == q) = true ↔ p.components = q.components :=
  beq_iff_eq (a := p.components)

theorem beq_refl (p : Path) : (p == p) = true := beq_iff.2 rfl

theorem beq_comm : (p == q) = (q == p) := by
  rw [Bool.eq_iff_iff, beq_iff, beq_iff]
  exact eq_comm

/-- The same paths compare alike with every other path. -/
theorem beq_congr (h : (p == q) = true) (r : Path) : (r == p) = (r == q) := by
  rw [Bool.eq_iff_iff, beq_iff, beq_iff, beq_iff.1 h]

/-- An absolute path begins with a root. -/
theorem components_of_isAbsolute (h : p.isAbsolute) : ∃ rest, p.components = .root :: rest := by
  have hhead : p.text.toList.head? = some '/' := beq_iff_eq.1 h
  obtain ⟨cs, hcs⟩ := List.head?_eq_some_iff.1 hhead
  obtain ⟨part, parts, hparts⟩ := List.exists_cons_of_ne_nil (splitChars_ne_nil '/' cs)
  have hsegments : p.segments = [] :: part :: parts := by
    rw [segments, hcs, splitChars, hparts]
    rfl
  refine ⟨(part :: parts).filterMap Component.ofSegment, ?_⟩
  rw [components, firstComponent, hsegments]
  rfl

end Path

namespace Component

/-- The kind of a part, which comes first in the order. -/
def rank : Component → Nat
  | root => 0
  | current => 1
  | parent => 2
  | name _ => 3

/-- The text of a part. -/
def text : Component → String
  | name t => t
  | _ => ""

theorem compare_eq_lex (a b : Component) :
    compare a b = (compare a.rank b.rank).then (compare a.text b.text) := by
  cases a with
  | name t =>
    cases b with
    | name u =>
      show (compare t u).then .eq = compare t u
      cases compare t u <;> rfl
    | _ => rfl
  | _ => cases b <;> rfl

instance : Std.TransOrd Component := by
  have hlex : (compare : Component → Component → Ordering) =
      compareLex (compareOn rank) (compareOn text) := by
    funext a b
    exact compare_eq_lex a b
  show Std.TransCmp (compare : Component → Component → Ordering)
  rw [hlex]
  infer_instance

instance : Std.LawfulEqOrd Component where
  compare_self := Std.ReflCmp.compare_self
  eq_of_compare := by
    intro a b h
    rw [compare_eq_lex, Ordering.then_eq_eq, Std.LawfulEqCmp.compare_eq_iff_eq,
      Std.LawfulEqCmp.compare_eq_iff_eq] at h
    obtain ⟨hrank, htext⟩ := h
    cases a with
    | name t =>
      cases b with
      | name u => exact congrArg name htext
      | _ => cases hrank
    | _ => cases b <;> first | rfl | cases hrank

end Component

/-! ## Names -/

namespace Component

/-- A name is the text of its segment. -/
theorem eq_of_ofSegment {seg : List Char} {n : String} (h : ofSegment seg = some (.name n)) :
    n = String.ofList seg := by
  unfold ofSegment at h
  split at h
  · cases h
  · split at h
    · cases h
    · cases h
      rfl

theorem ofSegment_of_head {c : Char} (h : c ≠ '.') (cs : List Char) :
    ofSegment (c :: cs) = some (.name (String.ofList (c :: cs))) := by
  have hne : ∀ rest, c :: cs ≠ '.' :: rest := fun rest heq => h (List.cons.inj heq).1
  rw [ofSegment, if_neg (by simp [hne]), if_neg (hne ['.'])]

end Component

namespace Path

variable {p : Path}

/-- A path whose last segment means something ends in that. -/
theorem lastComponent_of_segments {seg : List Char} {segs : List (List Char)} {c : Component}
    (hsegs : segs ≠ []) (h : p.segments = segs ++ [seg]) (hseg : Component.ofSegment seg = some c) :
    p.lastComponent = some c := by
  obtain ⟨first, rest, rfl⟩ := List.exists_cons_of_ne_nil hsegs
  rw [lastComponent, components, h, List.cons_append, List.tail_cons, List.filterMap_append,
    List.filterMap_cons_some hseg, List.filterMap_nil, ← List.append_assoc]
  exact List.getLast?_concat ..

/-- **An entry below a path** is what the longer path leads to. -/
theorem lastComponent_child {name : String} {c : Char} {cs : List Char}
    (hname : name.toList = c :: cs) (hdot : c ≠ '.') (hslash : '/' ∉ c :: cs) (q : Path) :
    (q.child name).lastComponent = some (.name name) := by
  have hseg : Component.ofSegment (c :: cs) = some (.name name) := by
    rw [Component.ofSegment_of_head hdot, ← hname, String.ofList_toList]
  have habsolute : ¬ (Path.mk name).isAbsolute := by
    rw [isAbsolute, hname, List.head?_cons, beq_iff_eq, Option.some.injEq]
    exact fun heq => hslash (heq ▸ List.mem_cons_self)
  rw [child, join, if_neg habsolute]
  split
  · next hopen =>
    rw [Bool.or_eq_true, String.isEmpty_iff, beq_iff_eq] at hopen
    rcases hopen with hempty | hlast
    · -- The name is the whole path.
      have hsegments : (Path.mk (q.text ++ name)).segments = [c :: cs] := by
        rw [segments, hempty, String.empty_append, hname, splitChars_of_notMem hslash]
      rw [lastComponent, components, firstComponent, hsegments]
      dsimp only
      rw [if_neg (List.cons_ne_nil c cs), if_neg fun heq => hdot (List.cons.inj heq).1, hseg]
      rfl
    · obtain ⟨front, hfront⟩ := List.getLast?_eq_some_iff.1 hlast
      refine lastComponent_of_segments (splitChars_ne_nil '/' front) ?_ hseg
      rw [segments, String.toList_append, hfront, hname, List.append_assoc,
        List.singleton_append, splitChars_append_sep, splitChars_of_notMem hslash]
  · refine lastComponent_of_segments (splitChars_ne_nil '/' q.text.toList) ?_ hseg
    have htext : (q.text ++ "/" ++ name).toList = q.text.toList ++ '/' :: c :: cs := by
      rw [String.toList_append, String.toList_append, hname, List.append_assoc]
      rfl
    rw [segments, htext, splitChars_append_sep, splitChars_of_notMem hslash]

/-- No slash is in the name of an entry. -/
theorem slash_notMem_fileName (p : Path) : '/' ∉ p.fileName.toList := by
  rw [fileName, fileName?]
  split
  · next n hlast =>
    have hmem : Component.name n ∈ p.components := List.mem_of_getLast? hlast
    have hseg : ∃ seg ∈ p.segments, Component.ofSegment seg = some (.name n) := by
      rw [components] at hmem
      rcases List.mem_append.1 hmem with hfirst | hrest
      · rw [firstComponent] at hfirst
        split at hfirst
        · cases hfirst
        · next first rest hsegments =>
          split at hfirst
          · split at hfirst <;> simp at hfirst
          · split at hfirst
            · simp at hfirst
            · exact ⟨first, hsegments ▸ List.mem_cons_self, Option.mem_toList.1 hfirst⟩
      · obtain ⟨seg, hmem, hseg⟩ := List.mem_filterMap.1 hrest
        exact ⟨seg, List.mem_of_mem_tail hmem, hseg⟩
    obtain ⟨seg, hmem, hseg⟩ := hseg
    rw [Option.getD_some, Component.eq_of_ofSegment hseg, String.toList_ofList]
    exact notMem_of_mem_splitChars hmem
  · exact List.not_mem_nil

end Path

end CodeDesk
