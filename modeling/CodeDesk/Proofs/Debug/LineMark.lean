import CodeDesk.Proofs.Debug.Repaint
/-!
# Line marks — whether they mirror the view

Reflecting a state looks at the whole view and keeps the marks right. What
else changes the marks looks at one line, and forgets that the program and a
breakpoint may share it (`Smudged`): when a session ends or begins anew, the
line of the program loses its mark though a breakpoint is there, and a
breakpoint that the user sets, takes away or switches on the line of the
program paints over it.

These are the only ways to get the marks wrong, as long as the breakpoints
of a line agree. `mirrored_iff` says so for whole histories, over paths and
lines that need no expansion.
-/

namespace CodeDesk
namespace Debug

variable {σ : Type}

namespace Scene

variable {S : Setup σ} {d : Scene σ} {op : Op σ} {ops : List (Op σ)}

/-! ## Lines stay plain -/

theorem located_edits (hop : op.Located) (hlog : ∀ x ∈ (d.after S op).log, x.Located) :
    ∀ e ∈ op.edits S d, e.Located := by
  intro e he
  rcases List.mem_append.1 he with he | he
  · exact hop.edit e (Option.mem_toList.1 he)
  · obtain ⟨x, hx, hxe⟩ := List.mem_filterMap.1 he
    exact (hlog x (List.mem_of_mem_drop hx)).edit e hxe

theorem Plain.after (hd : Plain d) (hop : op.Located)
    (hlog : ∀ x ∈ (d.after S op).log, x.Located) : Plain (d.after S op) := by
  have hbreaks : ∀ b ∈ (d.after S op).breaks, b.Located := by
    rw [breaks_after]
    exact BreakEdit.located_foldl (located_edits hop hlog) hd.located.breaks
  cases repaint_after S hd hop with
  | alike halike _ =>
    refine ⟨⟨hbreaks, fun l hl => ?_⟩, by rw [halike.marks]; exact hd.displayed⟩
    exact hd.located.shown l (halike.shown ▸ hl)
  | cleared _ hcleared =>
    refine ⟨⟨hbreaks, fun l hl => ?_⟩, hcleared.displayed⟩
    rw [hcleared.shown] at hl
    cases hl
  | edited k _ hedited _ =>
    refine ⟨⟨hbreaks, fun l hl => ?_⟩, hedited.displayed⟩
    exact hd.located.shown l (hedited.shown ▸ hl)
  | reflected c₁ st _ _ hreflected =>
    refine ⟨⟨hbreaks, fun l hl => ?_⟩, ?_⟩
    · have hst : st.Located := by
        rcases hreflected.said with hsaid | ⟨x, hx, hsaid⟩
        · exact hop.state st hsaid
        · exact (hlog x hx).state st hsaid
      rw [hreflected.shown, View.lineOf] at hl
      split at hl
      · exact hst l hl
      · cases hl
    · rw [hreflected.marks, hreflected.alike.marks]
      exact hd.displayed.follow S.home c₁.view _

theorem plain_run {d : Scene σ} (hd : Plain d) (hops : ∀ op ∈ ops, op.Located)
    (hlog : ∀ x ∈ (run S d ops).log, x.Located) : Plain (run S d ops) := by
  induction ops generalizing d with
  | nil => exact hd
  | cons op ops ih =>
    have hafter : Plain (d.after S op) := hd.after (hops op List.mem_cons_self)
      fun x hx => hlog x ((log_run S (d.after S op) ops).subset hx)
    exact ih hafter (fun op' hop' => hops op' (List.mem_cons_of_mem _ hop')) hlog

/-! ## Whole histories -/

/-- An operation marks the line of the program as if nothing else were
there: it takes the line away though a breakpoint is there, or the user
changes the breakpoints there. -/
def Smudged (S : Setup σ) (d : Scene σ) (op : Op σ) : Prop :=
  (op.isAboutSession ∧ (d.after S op).controller.view.shown = none ∧
    ∃ b ∈ d.breaks, d.controller.view.shownRow? = some b.row) ∨
  (op.row? ≠ none ∧ op.row? = d.controller.view.shownRow? ∧ (d.after S op).breaks ≠ d.breaks)

instance (S : Setup σ) (d : Scene σ) (op : Op σ) : Decidable (Smudged S d op) :=
  inferInstanceAs (Decidable ((_ ∧ _ ∧ ∃ b ∈ d.breaks, _) ∨ _))

/-- The marks mirror the view, and no line is marked twice. -/
structure Mirrored (d : Scene σ) : Prop where
  mirrors : Mirrors d.controller.view d.controller.marks
  once : (d.controller.marks.toList.map fun e => e.1.row).Nodup

theorem row?_of_isAboutSession (h : op.isAboutSession) : op.row? = none := by
  cases op with
  | start l latestChange now => rfl
  | detach => rfl
  | _ => cases h

/-- **One operation** keeps a mirror just when it does not smudge the marks
and leaves no line in dispute. -/
theorem mirrors_after_iff (hd : Plain d) (hop : op.Located)
    (hlog : ∀ x ∈ (d.after S op).log, x.Located)
    (h : Mirrors d.controller.view d.controller.marks) :
    Mirrors (d.after S op).controller.view (d.after S op).controller.marks ↔
      ¬ Smudged S d op ∧ ¬ (d.after S op).controller.view.Disputed := by
  have hagree : Mirrors (d.after S op).controller.view (d.after S op).controller.marks →
      ¬ (d.after S op).controller.view.Disputed := fun h' => (mirrors_iff_kept.1 h').1
  cases repaint_after S hd hop with
  | alike halike hidle =>
    have hmirror : Mirrors (d.after S op).controller.view (d.after S op).controller.marks := by
      rw [halike.marks]
      exact h.congr halike.shown halike.faces
    refine iff_of_true hmirror ⟨?_, hagree hmirror⟩
    rintro (⟨-, hnone, b, -, hshown⟩ | ⟨hrow, -, hchanged⟩)
    · rw [halike.shown] at hnone
      rw [View.shownRow?, hnone] at hshown
      cases hshown
    · exact hidle.elim hrow hchanged
  | cleared habout hcleared =>
    have hiff : (¬ Smudged S d op) ↔ ∀ b ∈ d.breaks, d.controller.view.shownRow? ≠ some b.row := by
      constructor
      · exact fun hnot b hb hshown => hnot (Or.inl ⟨habout, hcleared.shown, b, hb, hshown⟩)
      · rintro hnone (⟨-, -, b, hb, hshown⟩ | ⟨hrow, -⟩)
        · exact hnone b hb hshown
        · exact hrow (row?_of_isAboutSession habout)
    have hclear := (h.cleared_iff hcleared).trans hiff.symm
    exact ⟨fun h' => ⟨hclear.1 h', hagree h'⟩, fun h' => hclear.2 h'.1⟩
  | edited k hrow hedited hchanged =>
    have hiff : (¬ Smudged S d op) ↔ d.controller.view.shownRow? ≠ some k := by
      constructor
      · intro hnot hshown
        have hsome : op.row? ≠ none := by
          rw [hrow]
          exact Option.some_ne_none k
        exact hnot (Or.inr ⟨hsome, hrow.trans hshown.symm, hchanged⟩)
      · rintro hother (⟨habout, -⟩ | ⟨-, hshown, -⟩)
        · rw [row?_of_isAboutSession habout] at hrow
          cases hrow
        · exact hother (hshown.symm.trans hrow)
    constructor
    · exact fun h' => ⟨hiff.2 ((h.edited_iff hedited (hagree h')).1 h'), hagree h'⟩
    · rintro ⟨hnot, hv'⟩
      exact (h.edited_iff hedited hv').2 (hiff.1 hnot)
  | reflected c₁ st habout hrow hreflected =>
    have hclean : ¬ Smudged S d op := by
      rintro (⟨habout', -⟩ | ⟨hrow', -⟩)
      · rw [habout] at habout'
        cases habout'
      · exact hrow' hrow
    refine ⟨fun h' => ⟨hclean, hagree h'⟩, fun h' => ?_⟩
    have halike := hreflected.alike
    have hlocated : c₁.view.Located :=
      ⟨BreakEdit.located_of_faces halike.faces hd.located.breaks,
        fun l hl => hd.located.shown l (halike.shown ▸ hl)⟩
    have hm : c₁.marks.Displayed := by rw [halike.marks]; exact hd.displayed
    have hbefore : Mirrors c₁.view c₁.marks := by
      rw [halike.marks]
      exact h.congr halike.shown halike.faces
    rw [hreflected.marks]
    exact hbefore.follow hm hlocated (hd.after hop hlog).located.breaks hreflected.same h'.2

/-- **When marks mirror the view.** As long as all paths are absolute and
lines count from one: whatever is done with a controller, in all states the
marked lines are the line that is shown and the lines of the other
breakpoints, each with its mark, exactly if no operation marked the line of
the program as if no breakpoint were there, or a breakpoint as if the
program were not, and no two breakpoints of a line wanted different
marks. -/
theorem mirrored_iff {world : σ} {sinks : Command.Sinks} (hops : ∀ op ∈ ops, op.Located)
    (hlog : ∀ x ∈ (run S (initial world .blank sinks) ops).log, x.Located) :
    (∀ ops₁ ops₂, ops = ops₁ ++ ops₂ → Mirrored (run S (initial world .blank sinks) ops₁)) ↔
    ∀ ops₁ op ops₂, ops = ops₁ ++ op :: ops₂ →
      ¬ Smudged S (run S (initial world .blank sinks) ops₁) op ∧
      ¬ ((run S (initial world .blank sinks) ops₁).after S op).controller.view.Disputed := by
  have hinitial : Plain (initial world .blank sinks) :=
    ⟨⟨fun _ hb => absurd hb List.not_mem_nil, nofun⟩, Marks.displayed_blank⟩
  have hstart : Mirrored (initial world .blank sinks) :=
    ⟨⟨nofun, fun _ hb => absurd hb List.not_mem_nil, fun _ hmarked => absurd rfl hmarked⟩,
      List.nodup_nil⟩
  -- What was asked up to some point is in the record at the end.
  have hpast : ∀ ops₁ ops₂, ops = ops₁ ++ ops₂ →
      ∀ x ∈ (run S (initial world .blank sinks) ops₁).log, x.Located := by
    rintro ops₁ ops₂ rfl x hx
    rw [run_append] at hlog
    exact hlog x ((log_run S _ ops₂).subset hx)
  refine run_keeps_iff (q := fun d op => ¬ Smudged S d op ∧
    ¬ (d.after S op).controller.view.Disputed) hstart fun ops₁ op ops₂ heq hmirrored => ?_
  have hplain : Plain (run S (initial world .blank sinks) ops₁) := by
    refine plain_run hinitial (fun op' hop' => hops op' ?_) (hpast ops₁ _ heq)
    rw [heq]
    exact List.mem_append_left _ hop'
  have hop : op.Located := hops op (heq ▸ List.mem_append_right _ List.mem_cons_self)
  have hasked : ∀ x ∈ ((run S (initial world .blank sinks) ops₁).after S op).log, x.Located := by
    rw [← run_concat]
    exact hpast (ops₁ ++ [op]) ops₂ (by rw [heq, List.append_assoc]; rfl)
  have hstep := mirrors_after_iff hplain hop hasked hmirrored.mirrors
  exact ⟨fun h => hstep.1 h.mirrors,
    fun h => ⟨hstep.2 h, (hplain.after hop hasked).displayed.nodup⟩⟩

/-! A program that stops on line 20, where a breakpoint is, and then on line
21. -/

/-- The state of a program that has stopped. -/
def stoppedAt (line : Nat) : State :=
  { State.initial with location := some ⟨⟨"/work/main"⟩, line, "main"⟩ }

/-- A controller in use with a debugger that steps there, and a display. -/
def stepping (ops : List (Op Script)) : Scene Script :=
  run played (initial { Script.blank with steps := [.ok (stoppedAt 20), .ok (stoppedAt 21)] }
    .blank Command.Sinks.empty) ops

/-- The program is let go on the second line. -/
def passing : List (Op Script) :=
  [.addBreak ⟨"/work/main"⟩ 20, .start debugged 0 1, .step .line, .step .line, .detach]

/-- The breakpoint has its mark back when the program has gone on. -/
theorem mirrored_passing :
    ((∀ op ∈ passing, op.Located) ∧ ∀ x ∈ (stepping passing).log, x.Located) ∧
      ∀ ops₁ ops₂, passing = ops₁ ++ ops₂ → Mirrored (stepping ops₁) := by
  have hops : ∀ op ∈ passing, op.Located := by decide +kernel
  have hlog : ∀ x ∈ (stepping passing).log, x.Located := by decide +kernel
  have hclean : ∀ n (hn : n < passing.length),
      ¬ Smudged played (stepping (passing.take n)) passing[n] ∧
      ¬ ((stepping (passing.take n)).after played passing[n]).controller.view.Disputed := by
    decide +kernel
  exact ⟨⟨hops, hlog⟩, (mirrored_iff hops hlog).2 (forall_split hclean)⟩

/-- The program is let go on the first line. -/
def leaving : List (Op Script) :=
  [.addBreak ⟨"/work/main"⟩ 20, .start debugged 0 1, .step .line, .detach]

/-- **A breakpoint loses its mark** when the session ends on its line. -/
theorem not_mirrored_leaving :
    ((∀ op ∈ leaving, op.Located) ∧ ∀ x ∈ (stepping leaving).log, x.Located) ∧
      ¬ Mirrored (stepping leaving) := by
  refine ⟨⟨by decide +kernel, by decide +kernel⟩, fun h => ?_⟩
  have hbreak : ⟨1, ⟨"/work/main"⟩, 20, true, ""⟩ ∈ (stepping leaving).breaks := by decide +kernel
  have hmark := h.mirrors.breaks _ hbreak (by decide +kernel)
  exact absurd hmark (by decide +kernel)

end Scene

end Debug
end CodeDesk
