import CodeDesk.Proofs.Debug.Row
/-!
# Mirrors — marks that show what a view says

Marks mirror a view when the line the program is shown at is marked as
that, every other line with a breakpoint is marked as its breakpoint wants
it, and nothing else is marked (`Mirrors`). Row by row this is the question
whether a row is `Kept`; the only thing it adds is that the breakpoints of
a row agree (`mirrors_iff_kept`).

A view changes in three ways that marks have to follow. Reflecting a state
keeps them a mirror, wherever the breakpoints went, as long as these agree
(`Mirrors.follow`). Taking the line of the program away does so just when no
breakpoint is there (`Mirrors.cleared_iff`), and a change of the user just
when the program is not shown there (`Mirrors.edited_iff`).
-/

namespace CodeDesk
namespace Debug

namespace View

/-- The row at which the program is shown. -/
def shownRow? (v : View) : Option Row := v.shown.map SourceLine.row

/-- Two breakpoints of a row want different marks, and the program is not
shown there. -/
def Disputed (v : View) : Prop :=
  ∃ a ∈ v.breaks, ∃ b ∈ v.breaks,
    a.row = b.row ∧ a.mark ≠ b.mark ∧ v.shownRow? ≠ some a.row

instance (v : View) : Decidable v.Disputed :=
  inferInstanceAs (Decidable (∃ a ∈ v.breaks, ∃ b ∈ v.breaks, _))

/-- All lines of a view are known without more. -/
structure Located (v : View) : Prop where
  breaks : ∀ b ∈ v.breaks, b.Located
  shown : ∀ l ∈ v.shown, l.Located

end View

/-- The marked lines are the line that is shown, and the lines of the other
breakpoints. -/
structure Mirrors (v : View) (m : Marks) : Prop where
  /-- The line that is shown is marked as the one the program is at. -/
  shown : ∀ l ∈ v.shown, m.at? l.row = some .current ∨ m.at? l.row = some .counter
  /-- A breakpoint on another line has its mark. -/
  breaks : ∀ b ∈ v.breaks, v.shownRow? ≠ some b.row → m.at? b.row = some b.mark
  /-- No other line is marked. -/
  others : ∀ k, m.at? k ≠ none → v.shownRow? = some k ∨ ∃ b ∈ v.breaks, b.row = k

/-- A row is marked as the line that is shown, or as its breakpoints say. -/
def Kept (v : View) (m : Marks) (k : Row) : Prop :=
  if v.shownRow? = some k then m.at? k = some .current ∨ m.at? k = some .counter
  else m.at? k = rowMark v.breaks k

section Mirrors

variable {home : Path} {v v' : View} {m m' : Marks} {k : Row}

theorem shownRow?_eq_some : v.shownRow? = some k ↔ ∃ l ∈ v.shown, l.row = k :=
  Option.map_eq_some_iff

/-- Breakpoints that agree give their row their mark. -/
theorem rowMark_of_not_disputed (hv : ¬ v.Disputed) {b : Break} (hb : b ∈ v.breaks)
    (hnot : v.shownRow? ≠ some b.row) : rowMark v.breaks b.row = some b.mark := by
  refine Break.rowMark_of_mem hb fun a ha hrow => ?_
  by_contra hne
  exact hv ⟨a, ha, b, hb, hrow, hne, hrow ▸ hnot⟩

/-- **Marks mirror a view** just when its breakpoints agree and every row is
kept. -/
theorem mirrors_iff_kept : Mirrors v m ↔ ¬ v.Disputed ∧ ∀ k, Kept v m k := by
  constructor
  · intro h
    refine ⟨?_, fun k => ?_⟩
    · rintro ⟨a, ha, b, hb, hrow, hne, hnot⟩
      have hmark := h.breaks a ha hnot
      rw [hrow, h.breaks b hb (hrow ▸ hnot)] at hmark
      exact hne (Option.some.inj hmark).symm
    · unfold Kept
      split
      · next hshown =>
        obtain ⟨l, hl, rfl⟩ := shownRow?_eq_some.1 hshown
        exact h.shown l hl
      · next hnot =>
        rcases Break.rowMark_cases v.breaks k with hnone | ⟨b, hb, rfl, hsome⟩
        · rw [hnone]
          by_contra hmarked
          rcases h.others k hmarked with hshown | ⟨b, hb, hrow⟩
          · exact hnot hshown
          · exact Break.rowMark_eq_none_iff.1 hnone b hb hrow
        · rw [hsome]
          exact h.breaks b hb hnot
  · rintro ⟨hv, hkept⟩
    refine ⟨fun l hl => ?_, fun b hb hnot => ?_, fun k hmarked => ?_⟩
    · have hrow := hkept l.row
      rwa [Kept, if_pos (shownRow?_eq_some.2 ⟨l, hl, rfl⟩)] at hrow
    · have hrow := hkept b.row
      rw [Kept, if_neg hnot] at hrow
      rw [hrow, rowMark_of_not_disputed hv hb hnot]
    · by_contra hnot
      rw [not_or] at hnot
      have hrow := hkept k
      rw [Kept, if_neg hnot.1] at hrow
      rcases Break.rowMark_cases v.breaks k with hnone | ⟨b, hb, hbk, -⟩
      · exact hmarked (hrow.trans hnone)
      · exact hnot.2 ⟨b, hb, hbk⟩

/-- What marks show of a view decides whether they mirror it. -/
theorem Mirrors.congr (h : Mirrors v m) (hshown : v'.shown = v.shown)
    (hfaces : v'.breaks.map Break.face = v.breaks.map Break.face) : Mirrors v' m := by
  have hrow : v'.shownRow? = v.shownRow? := congrArg (Option.map SourceLine.row) hshown
  refine ⟨fun l hl => h.shown l (hshown ▸ hl), fun b hb hnot => ?_, fun k hmarked => ?_⟩
  · obtain ⟨a, ha, hface⟩ := List.mem_map.1 (hfaces ▸ List.mem_map_of_mem hb)
    have harow := Break.row_of_face hface
    rw [← harow, ← Break.mark_of_face hface]
    exact h.breaks a ha (by rw [harow, ← hrow]; exact hnot)
  · refine (h.others k hmarked).imp hrow.trans ?_
    rintro ⟨a, ha, rfl⟩
    obtain ⟨b, hb, hface⟩ := List.mem_map.1 (hfaces.symm ▸ List.mem_map_of_mem ha)
    exact ⟨b, hb, Break.row_of_face hface⟩

/-! ## A line that is no longer shown -/

/-- The line that was shown is shown no longer, and loses its mark. -/
structure Cleared (v : View) (m : Marks) (v' : View) (m' : Marks) : Prop where
  shown : v'.shown = none
  faces : v'.breaks.map Break.face = v.breaks.map Break.face
  marks : ∀ k, m'.at? k = if v.shownRow? = some k then none else m.at? k
  displayed : m'.Displayed

/-- **Taking the line of the program away** keeps a mirror just when no
breakpoint is there. -/
theorem Mirrors.cleared_iff (h : Mirrors v m) (hc : Cleared v m v' m') :
    Mirrors v' m' ↔ ∀ b ∈ v.breaks, v.shownRow? ≠ some b.row := by
  have hrow : v'.shownRow? = none := by rw [View.shownRow?, hc.shown]; rfl
  constructor
  · intro h' b hb hshown
    obtain ⟨a, ha, hface⟩ := List.mem_map.1 (hc.faces.symm ▸ List.mem_map_of_mem hb)
    have hmark := h'.breaks a ha (by rw [hrow]; exact (Option.some_ne_none _).symm)
    rw [Break.row_of_face hface, hc.marks, if_pos hshown] at hmark
    cases hmark
  · intro hnone
    refine ⟨fun l hl => ?_, fun b hb _ => ?_, fun k hmarked => ?_⟩
    · rw [hc.shown] at hl
      cases hl
    · obtain ⟨a, ha, hface⟩ := List.mem_map.1 (hc.faces ▸ List.mem_map_of_mem hb)
      rw [← Break.row_of_face hface, ← Break.mark_of_face hface, hc.marks, if_neg (hnone a ha)]
      exact h.breaks a ha (hnone a ha)
    · rw [hc.marks] at hmarked
      split at hmarked
      · exact absurd rfl hmarked
      · next hnot =>
        obtain ⟨a, ha, rfl⟩ := (h.others k hmarked).resolve_left hnot
        obtain ⟨b, hb, hface⟩ := List.mem_map.1 (hc.faces.symm ▸ List.mem_map_of_mem ha)
        exact Or.inr ⟨b, hb, Break.row_of_face hface⟩

/-! ## A change of the user -/

/-- The breakpoints of one row were changed, and the row was marked
accordingly. -/
structure Edited (k : Row) (v : View) (m : Marks) (v' : View) (m' : Marks) : Prop where
  shown : v'.shown = v.shown
  breaks : ∀ j, k ≠ j → rowMark v'.breaks j = rowMark v.breaks j
  here : m'.at? k = rowMark v'.breaks k
  marks : ∀ j, k ≠ j → m'.at? j = m.at? j
  displayed : m'.Displayed

/-- **A change of the user** keeps a mirror just when the program is not
shown there, if the breakpoints agree after it. -/
theorem Mirrors.edited_iff (h : Mirrors v m) (he : Edited k v m v' m') (hv' : ¬ v'.Disputed) :
    Mirrors v' m' ↔ v.shownRow? ≠ some k := by
  have hrow : v'.shownRow? = v.shownRow? := congrArg (Option.map SourceLine.row) he.shown
  constructor
  · intro h' hshown
    have hkept := (mirrors_iff_kept.1 h').2 k
    rw [Kept, if_pos (hrow.trans hshown), he.here] at hkept
    exact Break.rowMark_not_program _ k hkept
  · intro hnot
    refine mirrors_iff_kept.2 ⟨hv', fun j => ?_⟩
    by_cases hj : k = j
    · subst hj
      rw [Kept, if_neg (hrow ▸ hnot)]
      exact he.here
    · have hkept := (mirrors_iff_kept.1 h).2 j
      rwa [Kept, ← hrow, ← he.marks j hj, ← he.breaks j hj] at hkept

/-! ## A state that is reflected

Marks follow a view in three passes: the breakpoints that have moved, the
line that was shown, and the line that is shown. -/

namespace Marks

/-- The first pass. -/
def moves (m : Marks) (home : Path) (before after : View) : Marks :=
  (movedBreaks home before.breaks after.breaks).foldl (fun m p => m.move home after.breaks p) m

/-- The second pass. -/
def leave (m : Marks) (home : Path) (before after : View) : Marks :=
  match before.shown with
  | some l => m.setAt l.path l.line (markAt home after.breaks l.path l.line)
  | none => m

/-- The third pass. -/
def enter (m : Marks) (after : View) : Marks :=
  match after.shown with
  | some l =>
    m.setAt l.path l.line (some (if after.status = .breakpoint then .current else .counter))
  | none => m

theorem follow_eq : m.follow home v v' = ((m.moves home v v').leave home v v').enter v' := rfl

theorem Displayed.move (hm : m.Displayed) (breaks : List Break) (p : Break × Break) :
    (m.move home breaks p).Displayed := (hm.setAt _ _ _).setAt _ _ _

theorem Displayed.moves (hm : m.Displayed) (home : Path) (v v' : View) :
    (m.moves home v v').Displayed := by
  unfold Marks.moves
  induction movedBreaks home v.breaks v'.breaks generalizing m with
  | nil => exact hm
  | cons p ps ih => exact ih (hm.move v'.breaks p)

theorem Displayed.leave (hm : m.Displayed) (home : Path) (v v' : View) :
    (m.leave home v v').Displayed := by
  unfold Marks.leave
  split
  · exact hm.setAt _ _ _
  · exact hm

theorem Displayed.enter (hm : m.Displayed) (v : View) : (m.enter v).Displayed := by
  unfold Marks.enter
  split
  · exact hm.setAt _ _ _
  · exact hm

theorem Displayed.follow (hm : m.Displayed) (home : Path) (v v' : View) :
    (m.follow home v v').Displayed := ((hm.moves home v v').leave home v v').enter v'

/-- The line that was shown is left to its breakpoints. -/
theorem at?_leave (hm : m.Displayed) (hv : v.Located) (hbreaks : ∀ b ∈ v'.breaks, b.Located) :
    (m.leave home v v').at? k =
      if v.shownRow? = some k then rowMark v'.breaks k else m.at? k := by
  unfold leave
  split
  · next l hl =>
    have hiff : v.shownRow? = some k ↔ l.row = k := by
      rw [View.shownRow?, hl, Option.map_some, Option.some.injEq]
    rw [at?_setAt hm, Break.markAt_eq_rowMark hbreaks (hv.shown l hl)]
    show (if l.row = k then rowMark v'.breaks l.row else m.at? k) = _
    by_cases hrow : l.row = k
    · rw [if_pos hrow, if_pos (hiff.2 hrow), hrow]
    · rw [if_neg hrow, if_neg fun h => hrow (hiff.1 h)]
  · next hnone =>
    have hnot : v.shownRow? = none := congrArg (Option.map SourceLine.row) hnone
    rw [if_neg (by rw [hnot]; exact (Option.some_ne_none k).symm)]

theorem at?_enter_self (hm : m.Displayed) (h : v.shownRow? = some k) :
    (m.enter v).at? k = some .current ∨ (m.enter v).at? k = some .counter := by
  obtain ⟨l, hl, rfl⟩ := shownRow?_eq_some.1 h
  have hmark : (m.enter v).at? l.row =
      some (if v.status = .breakpoint then .current else .counter) := by
    unfold enter
    rw [Option.mem_def.1 hl]
    exact at?_setAt_self hm _
  rw [hmark]
  split
  · exact Or.inl rfl
  · exact Or.inr rfl

theorem at?_enter_of_ne (hm : m.Displayed) (h : v.shownRow? ≠ some k) :
    (m.enter v).at? k = m.at? k := by
  unfold enter
  split
  · next l hl => exact at?_setAt_of_ne hm _ fun hrow => h (shownRow?_eq_some.2 ⟨l, hl, hrow⟩)
  · rfl

/-- A move marks the rows it touches as the breakpoints there say. -/
theorem at?_move {breaks : List Break} {p : Break × Break} (hm : m.Displayed)
    (hbreaks : ∀ b ∈ breaks, b.Located) (hp : p.1.Located)
    (hmark : p.2.row = k → rowMark breaks k = some p.2.mark) :
    (m.move home breaks p).at? k =
      if p.1.row = k ∨ p.2.row = k then rowMark breaks k else m.at? k := by
  rw [move, at?_setAt (hm.setAt _ _ _), at?_setAt hm, Break.markAt_eq_rowMark hbreaks hp]
  show (if p.2.row = k then some p.2.mark else if p.1.row = k then rowMark breaks p.1.row
    else m.at? k) = _
  by_cases hto : p.2.row = k
  · rw [if_pos hto, if_pos (Or.inr hto), hmark hto]
  · by_cases hfrom : p.1.row = k
    · rw [if_neg hto, if_pos hfrom, if_pos (Or.inl hfrom), hfrom]
    · rw [if_neg hto, if_neg hfrom, if_neg (not_or.2 ⟨hfrom, hto⟩)]

/-- After the moves a row is marked as the breakpoints there say, if it was
before or some move touches it. -/
theorem at?_foldl_move {breaks : List Break} {ps : List (Break × Break)} (hm : m.Displayed)
    (hbreaks : ∀ b ∈ breaks, b.Located) (hps : ∀ p ∈ ps, p.1.Located)
    (hmark : ∀ p ∈ ps, p.2.row = k → rowMark breaks k = some p.2.mark)
    (h : m.at? k = rowMark breaks k ∨ ∃ p ∈ ps, p.1.row = k ∨ p.2.row = k) :
    (ps.foldl (fun m p => m.move home breaks p) m).at? k = rowMark breaks k := by
  induction ps generalizing m with
  | nil =>
    rcases h with hkept | ⟨p, hp, -⟩
    · exact hkept
    · exact absurd hp List.not_mem_nil
  | cons p ps ih =>
    have hmove : (m.move home breaks p).at? k =
        if p.1.row = k ∨ p.2.row = k then rowMark breaks k else m.at? k :=
      at?_move hm hbreaks (hps p List.mem_cons_self) (hmark p List.mem_cons_self)
    refine ih (hm.move breaks p) (fun q hq => hps q (List.mem_cons_of_mem _ hq))
      (fun q hq => hmark q (List.mem_cons_of_mem _ hq)) ?_
    by_cases htouch : p.1.row = k ∨ p.2.row = k
    · exact Or.inl (by rw [hmove, if_pos htouch])
    · rcases h with hkept | ⟨q, hq, hqk⟩
      · exact Or.inl (by rw [hmove, if_neg htouch, hkept])
      · rcases List.mem_cons.1 hq with rfl | hq
        · exact absurd hqk htouch
        · exact Or.inr ⟨q, hq, hqk⟩

/-- A row that no breakpoint has left or come to has the breakpoints it
had. -/
theorem rowMark_of_unmoved (home : Path) {before after : List Break}
    (hbefore : ∀ b ∈ before, b.Located) (hafter : ∀ b ∈ after, b.Located)
    (hsame : after.map Break.mark = before.map Break.mark)
    (hunmoved : ∀ p ∈ movedBreaks home before after, ¬ (p.1.row = k ∨ p.2.row = k)) :
    rowMark before k = rowMark after k := by
  induction before generalizing after with
  | nil => rw [List.map_eq_nil_iff.1 hsame]
  | cons b before ih =>
    cases after with
    | nil => cases hsame
    | cons a after =>
      obtain ⟨hmark, hrest⟩ := List.cons.inj hsame
      have hsub : ∀ p ∈ movedBreaks home before after, p ∈ movedBreaks home (b :: before)
          (a :: after) := fun p hp => by
        obtain ⟨hzip, hmoved⟩ := List.mem_filter.1 hp
        exact List.mem_filter.2 ⟨List.mem_cons_of_mem _ hzip, hmoved⟩
      have htail := ih (fun c hc => hbefore c (List.mem_cons_of_mem _ hc))
        (fun c hc => hafter c (List.mem_cons_of_mem _ hc)) hrest fun p hp => hunmoved p (hsub p hp)
      rw [Break.rowMark_cons, Break.rowMark_cons, htail, hmark]
      by_cases hat : a.isAt home b.path b.line
      · have hrow := (Break.isAt_iff_row (hafter a List.mem_cons_self)
          (hbefore b List.mem_cons_self)).1 hat
        rw [show a.row = b.row from hrow]
      · have hmem : (b, a) ∈ movedBreaks home (b :: before) (a :: after) :=
          List.mem_filter.2 ⟨List.mem_cons_self, Bool.not_eq_true' _ ▸ Bool.eq_false_iff.2 hat⟩
        have hnot := not_or.1 (hunmoved _ hmem)
        rw [if_neg hnot.1, if_neg hnot.2]

/-- The breakpoints as they are now decide about a row where the program was
not shown. -/
theorem at?_moves (hm : m.Displayed) (hv : v.Located) (hbreaks : ∀ b ∈ v'.breaks, b.Located)
    (hsame : v'.breaks.map Break.mark = v.breaks.map Break.mark)
    (hkept : m.at? k = rowMark v.breaks k) (hv' : ¬ v'.Disputed) (hnot : v'.shownRow? ≠ some k) :
    (m.moves home v v').at? k = rowMark v'.breaks k := by
  have hmem : ∀ p ∈ movedBreaks home v.breaks v'.breaks, p.1 ∈ v.breaks ∧ p.2 ∈ v'.breaks :=
    fun p hp => List.of_mem_zip (List.mem_of_mem_filter hp)
  refine at?_foldl_move hm hbreaks (fun p hp => hv.breaks _ (hmem p hp).1) ?_ ?_
  · rintro p hp rfl
    exact rowMark_of_not_disputed hv' (hmem p hp).2 hnot
  · by_cases htouch : ∃ p ∈ movedBreaks home v.breaks v'.breaks, p.1.row = k ∨ p.2.row = k
    · exact Or.inr htouch
    · refine Or.inl (hkept.trans (rowMark_of_unmoved home hv.breaks hbreaks hsame ?_))
      exact fun p hp hpk => htouch ⟨p, hp, hpk⟩

/-- **What reflecting a state does to a row** where the program is not
shown: the breakpoints as they are now decide. -/
theorem at?_follow (hm : m.Displayed) (hv : v.Located) (hbreaks : ∀ b ∈ v'.breaks, b.Located)
    (hsame : v'.breaks.map Break.mark = v.breaks.map Break.mark) (hkept : Kept v m k)
    (hv' : ¬ v'.Disputed) (hnot : v'.shownRow? ≠ some k) :
    (m.follow home v v').at? k = rowMark v'.breaks k := by
  have hmoves := hm.moves home v v'
  rw [follow_eq, at?_enter_of_ne (hmoves.leave home v v') hnot, at?_leave hmoves hv hbreaks]
  split
  · rfl
  · next hbefore =>
    rw [Kept, if_neg hbefore] at hkept
    exact at?_moves hm hv hbreaks hsame hkept hv' hnot

end Marks

/-- **Reflecting a state keeps a mirror**, if the breakpoints agree after
it. -/
theorem Mirrors.follow (h : Mirrors v m) (hm : m.Displayed) (hv : v.Located)
    (hbreaks : ∀ b ∈ v'.breaks, b.Located)
    (hsame : v'.breaks.map Break.mark = v.breaks.map Break.mark) (hv' : ¬ v'.Disputed) :
    Mirrors v' (m.follow home v v') := by
  refine mirrors_iff_kept.2 ⟨hv', fun k => ?_⟩
  unfold Kept
  split
  · next hshown =>
    rw [Marks.follow_eq]
    exact Marks.at?_enter_self ((hm.moves home v v').leave home v v') hshown
  · next hnot =>
    exact Marks.at?_follow hm hv hbreaks hsame ((mirrors_iff_kept.1 h).2 k) hv' hnot

end Mirrors

end Debug
end CodeDesk
