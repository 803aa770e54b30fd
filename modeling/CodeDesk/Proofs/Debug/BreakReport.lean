import CodeDesk.Proofs.Debug.BreakChoice
import CodeDesk.Proofs.Debug.BreakIdentity
/-!
# Reports on breakpoints — what the user's list takes from them

A debugger reports the breakpoints it knows. What the report says about a
breakpoint of the user is found by its number, or by its place while it has
no number, and `Follows` says what that makes of the breakpoint. It speaks
of the members of the report and not of their order, and a breakpoint that
has followed a report follows it once more by staying as it is: from then on
it is found by its number.

A report with distinct numbers and distinct places leaves no choice
(`Follows.unique`). So the list that is merged with it is the only one that
follows it, is the same in whichever order the report comes, and is not
changed by the same report again (`merge_settles`).
-/

namespace CodeDesk
namespace Debug
namespace Break

variable {home : Path} {own reported reported' : List Break} {b b' b'' : Break}

/-- What a report makes of a breakpoint. Places are compared with the home
directory written out, and taken over as the report spells them. -/
inductive Follows (home : Path) (reported : List Break) (b : Break) : Break → Prop
  /-- A breakpoint with a number takes the place of the report with that
  number. -/
  | numbered {r : Break} (hr : r ∈ reported) (hid : b.id ≠ 0) (hsame : r.id = b.id) :
      Follows home reported b { b with path := r.path, line := r.line }
  /-- One without takes the number and the place of the report at its
  place. -/
  | placed {r : Break} (hr : r ∈ reported) (hid : b.id = 0)
      (hsame : r.place home = b.place home) :
      Follows home reported b { b with id := r.id, path := r.path, line := r.line }
  /-- Nothing is reported about it. -/
  | unreported (hid : b.id ≠ 0 → ∀ r ∈ reported, r.id ≠ b.id)
      (hplace : b.id = 0 → ∀ r ∈ reported, r.place home ≠ b.place home) :
      Follows home reported b b

/-- A breakpoint that is merged with a report follows it. -/
theorem follows_merged (home : Path) (reported : List Break) (b : Break) :
    Follows home reported b (merged home reported b) := by
  unfold merged
  cases hfind : b.reportOf home reported with
  | some r =>
    have hr := mem_of_reportOf hfind
    by_cases hid : b.id = 0
    · rw [reportOf, if_pos hid] at hfind
      have hat : r.isAt home b.path b.line :=
        List.find?_some (p := fun r : Break => r.isAt home b.path b.line) hfind
      exact .placed hr hid (isAt_iff.1 hat)
    · have hsame := id_of_reportOf hid hfind
      have hresolve : b.resolve r = { b with path := r.path, line := r.line } := by
        rw [resolve, hsame]
      dsimp only
      rw [hresolve]
      exact .numbered hr hid hsame
  | none =>
    refine .unreported (fun hid r => ne_of_reportOf_none hid hfind) fun hid r hr hsame => ?_
    rw [reportOf, if_pos hid] at hfind
    exact List.find?_eq_none.1 hfind r hr (isAt_iff.2 hsame)

/-- **A report with distinct numbers and places** makes one thing only of a
breakpoint. -/
theorem Follows.unique (h : Distinct home reported) (h' : Follows home reported b b')
    (h'' : Follows home reported b b'') : b' = b'' := by
  cases h' with
  | numbered hr hid hsame =>
    cases h'' with
    | numbered hq _ hqsame =>
      rw [h.told.eq_of_id hr hq (hsame.trans hqsame.symm) (hsame ▸ hid)]
    | placed _ hzero _ => exact absurd hzero hid
    | unreported hnone _ => exact absurd hsame (hnone hid _ hr)
  | placed hr hid hsame =>
    cases h'' with
    | numbered _ hne _ => exact absurd hid hne
    | placed hq _ hqsame => rw [h.apart.eq_of_place hr hq (hsame.trans hqsame.symm)]
    | unreported _ hnone => exact absurd hsame (hnone hid _ hr)
  | unreported hnumber hplace =>
    cases h'' with
    | numbered hq hid hqsame => exact absurd hqsame (hnumber hid _ hq)
    | placed hq hid hqsame => exact absurd hqsame (hplace hid _ hq)
    | unreported _ _ => rfl

/-- **A breakpoint that has followed a report** follows it again by staying
as it is. -/
theorem Follows.again (hnumbered : ∀ r ∈ reported, r.id ≠ 0) (h : Follows home reported b b') :
    Follows home reported b' b' := by
  cases h with
  | numbered hr hid hsame =>
    exact .numbered (b := { b with path := _, line := _ }) hr hid hsame
  | @placed r hr _ _ =>
    -- It is found by its number now, wherever it is.
    have hid : r.id ≠ 0 := hnumbered r hr
    exact .numbered (b := { b with id := r.id, path := r.path, line := r.line }) hr hid rfl
  | unreported hnumber hplace => exact .unreported hnumber hplace

/-- The order of a report does not matter. -/
theorem Follows.congr (hmem : ∀ r, r ∈ reported ↔ r ∈ reported') (h : Follows home reported b b') :
    Follows home reported' b b' := by
  cases h with
  | numbered hr hid hsame => exact .numbered ((hmem _).1 hr) hid hsame
  | placed hr hid hsame => exact .placed ((hmem _).1 hr) hid hsame
  | unreported hnumber hplace =>
    exact .unreported (fun hid r hr => hnumber hid r ((hmem r).2 hr))
      fun hid r hr => hplace hid r ((hmem r).2 hr)

/-! ## Lists -/

theorem follows_merge (home : Path) (own reported : List Break) :
    List.Forall₂ (Follows home reported) own (merge home own reported) := by
  show List.Forall₂ (Follows home reported) own (own.map (merged home reported))
  rw [List.forall₂_map_right_iff, List.forall₂_same]
  exact fun b _ => follows_merged home reported b

/-- The merged list is the only one that follows a report with distinct
numbers and places. -/
theorem forall₂_follows_iff (h : Distinct home reported) (result : List Break) :
    List.Forall₂ (Follows home reported) own result ↔ result = merge home own reported := by
  have hunique : Relator.RightUnique (Follows home reported) := fun _ _ _ => Follows.unique h
  exact ⟨fun hresult => hunique.forall₂ hresult (follows_merge home own reported),
    fun heq => heq ▸ follows_merge home own reported⟩

/-- What has followed a report follows it again as it is. -/
theorem forall₂_follows_again (hnumbered : ∀ r ∈ reported, r.id ≠ 0) {result : List Break}
    (h : List.Forall₂ (Follows home reported) own result) :
    List.Forall₂ (Follows home reported) result result := by
  induction h with
  | nil => exact .nil
  | cons hb _ ih => exact .cons (hb.again hnumbered) ih

/-- **Merging a report settles the list**, if its numbers and its places are
distinct and every breakpoint in it has a number. The merged list is the one
that follows the report, breakpoint by breakpoint. It keeps the choices of the
user, the same report changes nothing when it is merged again, and so the order
of the report does not matter. -/
theorem merge_settles (hnumbered : ∀ r ∈ reported, r.id ≠ 0) (h : Distinct home reported) :
    (∀ result, List.Forall₂ (Follows home reported) own result ↔
      result = merge home own reported) ∧
    (merge home own reported).map choice = own.map choice ∧
    merge home (merge home own reported) reported = merge home own reported ∧
    ∀ reported', reported.Perm reported' →
      merge home own reported' = merge home own reported := by
  have hfollows := follows_merge home own reported
  refine ⟨forall₂_follows_iff h, choice_merge reported, ?_, fun reported' hperm => ?_⟩
  · exact ((forall₂_follows_iff h _).1 (forall₂_follows_again hnumbered hfollows)).symm
  · have hother := follows_merge home own reported'
    exact (forall₂_follows_iff h _).1
      (hother.imp fun b b' => Follows.congr fun r => hperm.mem_iff.symm)

/-- A breakpoint with a number is moved to the line of one without, which is
given that number too; a third is found in the home directory. -/
theorem merge_settles_moved :
    let own : List Break :=
      [⟨4, ⟨"/a.go"⟩, 3, true, ""⟩, ⟨0, ⟨"~/b.go"⟩, 9, false, "n > 2"⟩, ⟨0, ⟨"/a.go"⟩, 4, true, ""⟩]
    let reported : List Break :=
      [⟨5, ⟨"/home/u/b.go"⟩, 9, true, ""⟩, ⟨4, ⟨"/a.go"⟩, 4, false, ""⟩]
    let result : List Break :=
      [⟨4, ⟨"/a.go"⟩, 4, true, ""⟩, ⟨5, ⟨"/home/u/b.go"⟩, 9, false, "n > 2"⟩,
        ⟨4, ⟨"/a.go"⟩, 4, true, ""⟩]
    (∀ r ∈ reported, r.id ≠ 0) ∧ Distinct ⟨"/home/u"⟩ reported ∧
      merge ⟨"/home/u"⟩ own reported = result ∧ merge ⟨"/home/u"⟩ result reported = result ∧
      merge ⟨"/home/u"⟩ own reported.reverse = result := by
  intro own reported result
  have hnumbered : ∀ r ∈ reported, r.id ≠ 0 := by decide
  have hdistinct : Distinct ⟨"/home/u"⟩ reported := ⟨by decide +kernel, by decide +kernel⟩
  have hmerge : merge ⟨"/home/u"⟩ own reported = result := by decide +kernel
  obtain ⟨-, -, hagain, hperm⟩ := @merge_settles ⟨"/home/u"⟩ own reported hnumbered hdistinct
  rw [hmerge] at hagain hperm
  exact ⟨hnumbered, hdistinct, hmerge, hagain, hperm _ (List.reverse_perm reported).symm⟩

end Break
end Debug
end CodeDesk
