import CodeDesk.Command.Markup
import CodeDesk.Proofs.Regex.Groups
/-!
# References

What is known of the references within a line without looking at the line:
they follow each other, and the line and the column of each are digits. The
first is so for the matches of any program. The second is read off the
pattern, whose groups for the line and the column hold nothing but digits of
some script.
-/

namespace CodeDesk
namespace Command

open Regex Unicode

/-! ## The pattern -/

/-- Some digits of any script. -/
def digitsExpr : Expr := .rep 1 none true (.chars (perlSet (Flags.initial false) 'd'))

/-- What the pattern of references stands for: a path whose last part has an
ending, a line, and perhaps a column. What may stand in the path is of no
account here. -/
def referenceExpr (inPath inName dot inEnding colon : CharSet) : Expr :=
  .cat
    (.group 1 (.cat (.rep 0 none true (.chars inPath))
      (.cat (.chars inName) (.cat (.chars dot) (.rep 1 none true (.chars inEnding))))))
    (.cat (.chars colon)
      (.cat (.group 2 digitsExpr)
        (.rep 0 (some 1) true (.cat (.chars colon) (.group 3 digitsExpr)))))

/-- The pattern is read as such an expression. -/
theorem group_referencePattern :
    ∃ cs inPath inName dot inEnding colon, referencePattern = String.ofList cs ∧
      group (2 * cs.length + 2) (Flags.initial false) ⟨1, []⟩ [] [] cs =
        some (⟨referenceExpr inPath inName dot inEnding colon, 6, true⟩,
          ⟨4, [("path", 1), ("line", 2), ("col", 3)]⟩, []) :=
  ⟨_, _, _, _, _, _, rfl, rfl⟩

/-- The program of references is that of such an expression, unless the
pattern takes too much room; then there are none. -/
theorem references_cases :
    references = default ∨ ∃ inPath inName dot inEnding colon names,
      references = Program.ofExpr (referenceExpr inPath inName dot inEnding colon) 4 names := by
  obtain ⟨cs, inPath, inName, dot, inEnding, colon, hpattern, hgroup⟩ := group_referencePattern
  rw [references, compile?, parse?, hpattern, String.toList_ofList, hgroup]
  dsimp only
  split
  · exact .inr ⟨inPath, inName, dot, inEnding, colon, _, rfl⟩
  · exact .inl rfl

/-! ## Digits -/

/-- The characters that mean something in markup. -/
def special : List Char := ['<', '>', '&', '"']

/-- A member of a set is in one of its ranges. -/
theorem exists_range_of_search {rs : Array (Nat × Nat)} {c fuel lo hi : Nat}
    (h : CharSet.search rs c fuel lo hi = true) : ∃ r ∈ rs, r.1 ≤ c ∧ c ≤ r.2 := by
  induction fuel generalizing lo hi with
  | zero => cases h
  | succ fuel ih =>
    rw [CharSet.search] at h
    split at h
    · dsimp only at h
      split at h
      · cases h
      · next r hr =>
        split at h
        · exact ih h
        · split at h
          · exact ih h
          · next hlow hhigh =>
            exact ⟨r, Array.mem_of_getElem? hr, Nat.not_lt.1 hlow, Nat.not_lt.1 hhigh⟩
    · cases h

set_option maxRecDepth 4000 in
/-- The ranges of the digits, none of which has a character that means
something in markup. -/
theorem digit_ranges :
    ∃ rs : List (Nat × Nat), (categories ["nd"]).ranges = rs.toArray ∧
      (rs.all fun r => special.all fun c => Nat.blt c.toNat r.1 || Nat.blt r.2 c.toNat) = true := by
  obtain ⟨text, cs, hfind, rfl, hascending, hspecial⟩ :
      ∃ text cs, categoryTable.find? (fun e => e.1 == "nd") = some ("nd", text) ∧
        text = String.ofList cs ∧
        CharSet.isAscending (((words cs).map CharSet.rangeOfText).filter fun r => r.1 ≤ r.2) =
          true ∧
        ((((words cs).map CharSet.rangeOfText).filter fun r => r.1 ≤ r.2).all fun r =>
          special.all fun c => Nat.blt c.toNat r.1 || Nat.blt r.2 c.toNat) = true := by
    refine ⟨_, _, rfl, rfl, ?_, ?_⟩ <;> decide +kernel
  refine ⟨_, ?_, hspecial⟩
  have hranges : ["nd"].flatMap categoryRanges = (words cs).map CharSet.rangeOfText := by
    rw [List.flatMap_singleton, categoryRanges, hfind]
    dsimp only
    rw [CharSet.rangesOfText, String.toList_ofList]
  rw [categories, hranges, CharSet.ofRanges, if_pos hascending]

theorem perlSet_digit : perlSet (Flags.initial false) 'd' = categories ["nd"] := by
  rw [perlSet, if_pos rfl]
  exact if_pos rfl

/-- **A digit means nothing in markup.** -/
theorem not_mem_special_of_digit {c : Char}
    (h : (perlSet (Flags.initial false) 'd').contains c = true) : c ∉ special := by
  obtain ⟨rs, hranges, hspecial⟩ := digit_ranges
  obtain ⟨r, hr, hlow, hhigh⟩ := exists_range_of_search h
  rw [perlSet_digit, hranges, List.mem_toArray] at hr
  intro hc
  have hapart := List.all_eq_true.1 (List.all_eq_true.1 hspecial r hr) c hc
  rw [Bool.or_eq_true, Nat.blt_eq, Nat.blt_eq] at hapart
  omega

/-! ## The references of a line -/

section

variable {inPath inName dot inEnding colon : CharSet} {names : List (String × Nat)}
  {cs : List Char} {slots : Slots} {r : Reference} {k : Nat}

/-- Nothing is found by a program without instructions. -/
theorem searchFrom_default (cursor : Cursor) :
    (default : Program).searchFrom cursor = none := by
  rw [Option.eq_none_iff_forall_ne_some]
  intro slots hslots
  have hcarries : Carries default (fun _ _ => True) (fun _ => False) 0
      (cursor.index + cursor.rest.length) :=
    ⟨fun _ _ _ _ _ => trivial, fun _ _ _ _ => trivial, fun _ _ _ hdone => by cases hdone⟩
  exact walk_forall hcarries (Nat.zero_le _) (Nat.le_refl _)
    (fun t ht => absurd ht List.not_mem_nil) (fun _ _ _ => trivial)
    (fun _ hnone => absurd hnone (by simp)) hslots

theorem framed_referenceExpr :
    Framed (Program.ofExpr (referenceExpr inPath inName dot inEnding colon) 4 names) := by
  refine framed_ofExpr ?_ (by decide) names
  simp [referenceExpr, digitsExpr, Expr.Numbered]

/-- The groups of the line and of the column hold nothing but digits. -/
theorem groupIn_referenceExpr (hk : k = 2 ∨ k = 3) :
    (referenceExpr inPath inName dot inEnding colon).GroupIn k (· ∉ special) false := by
  have hdigits : digitsExpr.GroupIn k (· ∉ special) true := fun _ _ => not_mem_special_of_digit
  have hnone : digitsExpr.GroupIn k (· ∉ special) false := fun hfalse =>
    absurd hfalse Bool.false_ne_true
  rcases hk with rfl | rfl <;> simp [referenceExpr, Expr.GroupIn, hdigits, hnone]

/-- The range of a reference is that of its match. -/
theorem map_range_filterMap (cs : List Char) (found : List Slots) :
    (found.filterMap (Reference.ofSlots? cs)).map (fun r => (r.start, r.stop)) =
      found.filterMap (groupRange · 0) := by
  rw [List.map_filterMap]
  refine List.filterMap_congr fun slots _ => ?_
  rw [Reference.ofSlots?, Option.map_map]
  exact Option.map_id'

/-- **The references of a line follow each other**, and nothing in the line
and the column of any means anything in markup. -/
theorem referencesIn_sound (cs : List Char) :
    Ascending 0 ((referencesIn cs).map fun r => (r.start, r.stop)) ∧
      ∀ r ∈ referencesIn cs, ∀ c ∈ r.line ++ r.col.getD ['1'], c ∉ special := by
  rw [referencesIn, map_range_filterMap]
  rcases references_cases with hnone | ⟨inPath, inName, dot, inEnding, colon, names, hsome⟩
  · have hempty : references.searchAll cs = [] := by
      rw [hnone, Program.searchAll, searchAllFrom, searchFrom_default]
    rw [hempty]
    exact ⟨trivial, fun r hr => absurd hr List.not_mem_nil⟩
  · have hframed : Framed references := hsome ▸ framed_referenceExpr
    refine ⟨(searchAllFrom_sound hframed _ false (Cursor.start cs)).1, fun r hr c hc => ?_⟩
    have hgroup : ∀ slots ∈ references.searchAll cs, ∀ k, k = 2 ∨ k = 3 →
        ∀ c ∈ groupText cs slots k, c ∉ special := by
      intro slots hslots k hk
      have hin : (referenceExpr inPath inName dot inEnding colon).GroupIn k (· ∉ special) false :=
        groupIn_referenceExpr hk
      obtain ⟨inside, hmarked⟩ := exists_markedBy_ofExpr hin (by omega) 4 names
      rw [← hsome] at hmarked
      exact Program.groupText_forall hframed hmarked hslots
    obtain ⟨slots, hslots, hr⟩ := List.mem_filterMap.1 hr
    obtain ⟨range, -, rfl⟩ := Option.map_eq_some_iff.1 hr
    rcases List.mem_append.1 hc with hc | hc
    · exact hgroup slots hslots 2 (.inl rfl) c hc
    · -- A reference without a column is shown with the first one.
      cases hcol : groupRange slots 3 with
      | none =>
        rw [hcol, Option.map_none, Option.getD_none, List.mem_singleton] at hc
        rw [hc]
        decide
      | some range =>
        rw [hcol, Option.map_some, Option.getD_some] at hc
        exact hgroup slots hslots 3 (.inr rfl) c hc

end

end Command
end CodeDesk
