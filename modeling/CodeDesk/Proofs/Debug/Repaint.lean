import CodeDesk.Proofs.Debug.Mirror
import CodeDesk.Proofs.Debug.Request
/-!
# Repaints — what an operation does to the marks

Marks see little of an operation: where the breakpoints are and whether
they count, and at which line the program is shown. An operation leaves all
that and the marks as they are (`Alike`), or it takes the line of the
program away, or it is a change of the user, which is about one row
(`Edits`), or it reflects a state (`Reflected`), which the operation brought
along or a debugger reported. `repaint_after` says that there is nothing
else.

All this is about paths and lines that need no expansion (`Located`).
-/

namespace CodeDesk
namespace Debug

variable {σ : Type}

/-! ## Lines in requests and answers -/

/-- The state that an answer of a debugger reports. -/
def Exchange.state? : Exchange → Option State
  | ⟨_, .step _, .ok st⟩ => some st
  | ⟨_, .stop, .ok st⟩ => some st
  | ⟨_, .state, .ok st⟩ => some st
  | _ => none

/-- The state that an operation brings along. -/
def Op.state? : Op σ → Option State
  | .finish _ last => last
  | _ => none

/-- The row that a change of the user is about. -/
def Op.row? : Op σ → Option Row
  | .addBreak path line => some (Row.of path line)
  | .deleteBreak path line => some (Row.of path line)
  | .toggleBreak path line => some (Row.of path line)
  | _ => none

/-- The line of a state needs no expansion. -/
def State.Located (st : State) : Prop := ∀ l ∈ st.location, l.Located

/-- The lines of a change need no expansion. -/
def BreakEdit.Located : BreakEdit → Prop
  | add path line => Debug.Located path line
  | delete path line => Debug.Located path line
  | toggle path line => Debug.Located path line
  | push _ => True
  | merge reported => ∀ r ∈ reported, r.Located

/-- The lines of an answer need no expansion. -/
structure Exchange.Located (x : Exchange) : Prop where
  edit : ∀ e ∈ x.edit?, e.Located
  state : ∀ st ∈ x.state?, st.Located

/-- The lines of an operation need no expansion. -/
structure Op.Located (op : Op σ) : Prop where
  edit : ∀ e ∈ op.edit?, e.Located
  state : ∀ st ∈ op.state?, st.Located

instance (st : State) : Decidable st.Located :=
  inferInstanceAs (Decidable (∀ l ∈ st.location, l.Located))

instance : (e : BreakEdit) → Decidable e.Located
  | .add _ _ => inferInstanceAs (Decidable (Debug.Located _ _))
  | .delete _ _ => inferInstanceAs (Decidable (Debug.Located _ _))
  | .toggle _ _ => inferInstanceAs (Decidable (Debug.Located _ _))
  | .push _ => isTrue trivial
  | .merge reported => inferInstanceAs (Decidable (∀ r ∈ reported, r.Located))

instance (x : Exchange) : Decidable x.Located :=
  decidable_of_iff ((∀ e ∈ x.edit?, e.Located) ∧ ∀ st ∈ x.state?, st.Located)
    ⟨fun h => ⟨h.1, h.2⟩, fun h => ⟨h.edit, h.state⟩⟩

instance (op : Op σ) : Decidable op.Located :=
  decidable_of_iff ((∀ e ∈ op.edit?, e.Located) ∧ ∀ st ∈ op.state?, st.Located)
    ⟨fun h => ⟨h.1, h.2⟩, fun h => ⟨h.edit, h.state⟩⟩

namespace BreakEdit

variable {home : Path} {bs bs' : List Break} {e : BreakEdit} {es : List BreakEdit}

theorem located_of_map
    (h : bs'.map (fun b : Break => (b.path, b.line)) = bs.map fun b : Break => (b.path, b.line))
    (hbs : ∀ b ∈ bs, b.Located) : ∀ b ∈ bs', b.Located := by
  intro b hb
  obtain ⟨a, ha, heq⟩ := List.mem_map.1 (h ▸ List.mem_map_of_mem hb)
  obtain ⟨hpath, hline⟩ := Prod.mk.inj heq
  show Debug.Located b.path b.line
  rw [← hpath, ← hline]
  exact hbs a ha

theorem located_of_faces (h : bs'.map Break.face = bs.map Break.face)
    (hbs : ∀ b ∈ bs, b.Located) : ∀ b ∈ bs', b.Located := by
  have hlines : ∀ bs : List Break, bs.map (fun b : Break => (b.path, b.line)) =
      (bs.map Break.face).map fun f => (f.1, f.2.1) := fun bs => by
    rw [List.map_map]
    rfl
  exact located_of_map (by rw [hlines, hlines, h]) hbs

theorem located_apply (he : e.Located) (hbs : ∀ b ∈ bs, b.Located) :
    ∀ b ∈ e.apply home bs, b.Located := by
  cases e with
  | add path line =>
    intro b hb
    unfold apply at hb
    dsimp only at hb
    split at hb
    · exact hbs b hb
    · rcases List.mem_append.1 hb with hb | hb
      · exact hbs b hb
      · cases List.mem_singleton.1 hb
        exact he
  | delete path line => exact fun b hb => hbs b (List.mem_of_mem_filter hb)
  | toggle path line => exact located_of_map (Break.map_toggleIn fun _ => rfl) hbs
  | push pushed => exact located_of_map (Break.map_assignAll (fun _ _ => rfl) pushed) hbs
  | merge reported =>
    intro b hb
    obtain ⟨a, ha, rfl⟩ :=
      List.mem_map.1 (show b ∈ bs.map (Break.merged home reported) from hb)
    rcases Break.merged_cases home reported a with ⟨r, hr, heq⟩ | ⟨heq, -⟩
    · rw [heq]
      exact he r hr
    · rw [heq]
      exact hbs a ha

theorem located_foldl (hes : ∀ e ∈ es, e.Located) (hbs : ∀ b ∈ bs, b.Located) :
    ∀ b ∈ es.foldl (apply home) bs, b.Located := by
  induction es generalizing bs with
  | nil => exact hbs
  | cons e es ih =>
    exact ih (fun e' he' => hes e' (List.mem_cons_of_mem _ he'))
      (located_apply (hes e List.mem_cons_self) hbs)

end BreakEdit

/-! ## What marks see of an operation -/

namespace Controller

variable {S : Setup σ} {c c' c₁ c₂ : Controller (σ × List Exchange)} {s : Session}

/-- The marks of two controllers and what they show are the same. -/
structure Alike {τ : Type} (c c' : Controller τ) : Prop where
  shown : c'.view.shown = c.view.shown
  faces : c'.view.breaks.map Break.face = c.view.breaks.map Break.face
  marks : c'.marks = c.marks

theorem Alike.of_eq {τ : Type} {c c' : Controller τ} (hshown : c'.view.shown = c.view.shown)
    (hbreaks : c'.view.breaks = c.view.breaks) (hmarks : c'.marks = c.marks) : Alike c c' :=
  ⟨hshown, by rw [hbreaks], hmarks⟩

theorem Alike.refl {τ : Type} (c : Controller τ) : Alike c c := ⟨rfl, rfl, rfl⟩

theorem Alike.trans {τ : Type} {c c' c'' : Controller τ} (h : Alike c c') (h' : Alike c' c'') :
    Alike c c'' :=
  ⟨h'.shown.trans h.shown, h'.faces.trans h.faces, h'.marks.trans h.marks⟩

theorem alike_ask {call : Call} {r : Except AdapterError call.Reply}
    (h : c.ask S.logged s call = (r, c')) : Alike c c' := by
  obtain ⟨w, rfl⟩ := eq_of_ask h
  exact .of_eq rfl rfl rfl

theorem alike_askIf (wanted : Bool) (call : Call) :
    Alike c (c.askIf S.logged wanted s call).2 := by
  cases wanted with
  | false => exact .refl c
  | true => exact alike_ask rfl

theorem alike_dismiss (S : Setup σ) (c : Controller (σ × List Exchange)) (s : Session) :
    Alike c (c.dismiss S.logged s) := alike_ask (Prod.eta _).symm

theorem alike_pushBreaks {r : Except AdapterError Unit} (h : c.pushBreaks S.logged s = (r, c')) :
    Alike c c' := by
  unfold pushBreaks at h
  split at h
  · next heq =>
    cases h
    exact alike_ask heq
  · next pushed c₁ heq =>
    cases h
    exact (alike_ask heq).trans
      ⟨rfl, Break.map_assignAll (f := Break.face) (fun _ _ => rfl) pushed, rfl⟩

theorem alike_askStopped (call : Call) : Alike c (c.askStopped S.logged call).2 := by
  unfold askStopped
  split
  · exact .refl c
  · exact alike_askIf _ _

theorem Alike.clearShown {τ : Type} {c c' : Controller τ} (h : Alike c c') :
    Alike c.clearShown c'.clearShown := by
  unfold Controller.clearShown
  rw [h.shown]
  split
  · exact h
  · exact ⟨rfl, h.faces, by rw [h.marks]⟩

theorem shown_clearShown {τ : Type} (c : Controller τ) : c.clearShown.view.shown = none := by
  unfold Controller.clearShown
  split
  · next hnone => exact hnone
  · rfl

/-- Taking the line of the program away is no more than that. -/
theorem cleared_clearShown (hm : c.marks.Displayed) :
    Cleared c.view c.marks c.clearShown.view c.clearShown.marks := by
  refine ⟨shown_clearShown c, ?_, fun k => ?_, ?_⟩
  · unfold clearShown
    split <;> rfl
  · unfold clearShown
    split
    · next hnone =>
      have hrow : c.view.shownRow? = none := congrArg (Option.map SourceLine.row) hnone
      rw [hrow, if_neg (Option.some_ne_none k).symm]
    · next l hl =>
      have hiff : c.view.shownRow? = some k ↔ Row.of l.path l.line = k := by
        rw [View.shownRow?, hl, Option.map_some, Option.some.injEq, SourceLine.row]
      dsimp only
      rw [Marks.at?_setAt hm]
      by_cases hrow : Row.of l.path l.line = k
      · rw [if_pos hrow, if_pos (hiff.2 hrow)]
      · rw [if_neg hrow, if_neg fun h => hrow (hiff.1 h)]
  · unfold clearShown
    split
    · exact hm
    · exact hm.setAt _ _ _

/-! ## Sessions -/

theorem alike_restart (mode : Mode) :
    Alike c (c.restart S.logged s mode).2 ∨ Alike c.clearShown (c.restart S.logged s mode).2 := by
  have hidle : Alike c { c with session := none } := .of_eq rfl rfl rfl
  unfold restart
  split
  · next heq => exact Or.inl ((hidle.trans (alike_ask heq)).trans (.of_eq rfl rfl rfl))
  · next c' heq =>
    have hthere : Alike c { c' with session := some s } :=
      (hidle.trans (alike_ask heq)).trans (.of_eq rfl rfl rfl)
    exact Or.inr (hthere.clearShown.trans (.of_eq (shown_clearShown _).symm rfl rfl))

theorem alike_readied : Alike c.clearShown (c.readied S.logged) := by
  unfold readied
  split
  · have hidle : Alike c { c with session := none } := .of_eq rfl rfl rfl
    exact (hidle.trans (alike_dismiss S _ _)).clearShown.trans (.of_eq rfl rfl rfl)
  · exact .of_eq rfl rfl rfl

theorem alike_build (sinks : Command.Sinks) (l : Launch) (now : Stamp) :
    Alike c.clearShown (c.build S.logged sinks l now).2.1 := by
  have hshown : (c.readied S.logged).view.shown = none :=
    alike_readied.shown.trans (shown_clearShown c)
  rw [build_eq]
  dsimp only
  split
  · next heq => exact (alike_readied.trans (alike_ask heq)).trans (.of_eq rfl rfl rfl)
  · next c' heq =>
    have hasked := alike_ask heq
    exact (alike_readied.trans hasked).trans (.of_eq (hasked.shown.trans hshown).symm rfl rfl)

theorem alike_start (sinks : Command.Sinks) (l : Launch) (latestChange now : Stamp) :
    Alike c (c.start S.logged sinks l latestChange now).2.1 ∨
      Alike c.clearShown (c.start S.logged sinks l latestChange now).2.1 := by
  rcases c.start_cases S.logged sinks l latestChange now with ⟨s, -, -, hstart⟩ | ⟨-, hstart⟩
  · rw [hstart]
    exact alike_restart l.params.mode
  · rw [hstart]
    exact Or.inr (alike_build sinks l now)

theorem alike_detach :
    Alike c (c.detach S.logged) ∨ Alike c.clearShown (c.detach S.logged) := by
  unfold detach
  split
  · exact Or.inl (.refl c)
  · next s _ =>
    have hidle : Alike c { c with session := none } := .of_eq rfl rfl rfl
    have hstop : Alike c
        (if c.view.status == .running then ({ c with session := none }.ask S.logged s .stop).2
        else { c with session := none }) := by
      split
      · exact hidle.trans (alike_ask (Prod.eta _).symm)
      · exact hidle
    have hdismissed := (hstop.trans (alike_dismiss S _ s)).clearShown
    exact Or.inr (hdismissed.trans (.of_eq (shown_clearShown _).symm rfl rfl))

/-! ## States that are reflected -/

/-- A state was reflected, after a part of the operation that marks see
nothing of. The operation brought it along, or a debugger reported it. -/
structure Reflected (S : Setup σ) (op : Op σ) (c c' : Controller (σ × List Exchange))
    (c₁ : Controller (σ × List Exchange)) (st : State) : Prop where
  alike : Alike c c₁
  shown : c'.view.shown = View.lineOf st
  marks : c'.marks = c₁.marks.follow S.home c₁.view c'.view
  same : c'.view.breaks.map Break.mark = c₁.view.breaks.map Break.mark
  said : st ∈ op.state? ∨ ∃ x ∈ c'.world.2, st ∈ x.state?

/-- An operation that marks see nothing of, or that reflects a state. -/
def Pictures (S : Setup σ) (op : Op σ) (c c' : Controller (σ × List Exchange)) : Prop :=
  Alike c c' ∨ ∃ c₁ st, Reflected S op c c' c₁ st

theorem view_askIf {τ : Type} (S : Setup τ) (c : Controller τ) (s : Session) (wanted : Bool)
    (call : Call) : (c.askIf S wanted s call).2.view = c.view := by cases wanted <;> rfl

theorem marks_askIf {τ : Type} (S : Setup τ) (c : Controller τ) (s : Session) (wanted : Bool)
    (call : Call) : (c.askIf S wanted s call).2.marks = c.marks := by cases wanted <;> rfl

theorem View.shown_withState (v : View) (home : Path) (hasTasks : Bool) (st : State)
    (details : Option Details) (reported : Option (List Break)) :
    (v.withState home hasTasks st details reported).shown = View.lineOf st := by
  cases details <;> cases reported <;> rfl

theorem View.marks_withState (v : View) (home : Path) (hasTasks : Bool) (st : State)
    (details : Option Details) (reported : Option (List Break)) :
    (v.withState home hasTasks st details reported).breaks.map Break.mark =
      v.breaks.map Break.mark := by
  rw [View.breaks_withState]
  cases reported with
  | none => rfl
  | some reported =>
    have hmark : Break.mark = (fun c : Bool × String => if c.1 then Mark.active else .inactive) ∘
        Break.choice := rfl
    rw [hmark, ← List.map_map, ← List.map_map, Break.choice_merge]

/-- What reflecting a state does. -/
theorem reflected_applyState {op : Op σ} {st : State} (halike : Alike c c₁)
    (hsaid : st ∈ op.state? ∨ ∃ x ∈ c₁.world.2, st ∈ x.state?) :
    Reflected S op c (c₁.applyState S.logged s st) c₁ st := by
  have hview : ∃ hasTasks details reported, (c₁.applyState S.logged s st).view =
      c₁.view.withState S.home hasTasks st details reported := by
    unfold applyState
    dsimp only
    rw [view_askIf, view_askIf]
    exact ⟨_, _, _, rfl⟩
  obtain ⟨hasTasks, details, reported, hview⟩ := hview
  refine ⟨halike, by rw [hview, View.shown_withState], ?_, by rw [hview, View.marks_withState], ?_⟩
  · unfold applyState
    dsimp only
    rw [view_askIf, view_askIf, marks_askIf, marks_askIf]
    rfl
  · have hgrow : Asked (fun _ => True) c₁ (c₁.applyState S.logged s st) :=
      asked_applyState st fun _ _ _ => trivial
    obtain ⟨new, hlog, -⟩ := hgrow
    rw [hlog]
    rcases hsaid with hsaid | ⟨x, hx, hst⟩
    · exact Or.inl hsaid
    · exact Or.inr ⟨x, List.mem_append_left _ hx, hst⟩

/-- A state that a debugger has just reported is in its record. -/
theorem said_of_ask {call : Call} {reply : call.Reply} {st : State}
    (h : c.ask S.logged s call = (.ok reply, c'))
    (hst : st ∈ Exchange.state? ⟨s.number, call, .ok reply⟩) :
    ∃ x ∈ c'.world.2, st ∈ x.state? := by
  obtain ⟨w, rfl⟩ := eq_of_ask h
  exact ⟨_, List.mem_append_right _ List.mem_cons_self, hst⟩

variable {op : Op σ}

theorem alike_resume : Alike c (c.resume S.logged).2 := by
  unfold resume
  split
  · exact .refl c
  · split
    · exact .refl c
    · split
      · next heq => exact alike_pushBreaks heq
      · next heq =>
        have hpushed := alike_pushBreaks heq
        split
        · next heq => exact hpushed.trans (alike_ask heq)
        · next heq => exact (hpushed.trans (alike_ask heq)).trans (.of_eq rfl rfl rfl)

theorem pictures_step (k : StepKind) : Pictures S op c (c.step S.logged k).2 := by
  unfold step
  split
  · exact Or.inl (.refl c)
  · split
    · exact Or.inl (.refl c)
    · split
      · next heq => exact Or.inl (alike_pushBreaks heq)
      · next heq =>
        have hpushed := alike_pushBreaks heq
        split
        · next heq => exact Or.inl (hpushed.trans (alike_ask heq))
        · next heq =>
          refine Or.inr ⟨_, _, reflected_applyState (hpushed.trans (alike_ask heq)) (Or.inr ?_)⟩
          exact said_of_ask heq rfl

theorem pictures_stop : Pictures S op c (c.stop S.logged).2 := by
  unfold stop
  split
  · exact Or.inl (.refl c)
  · split
    · next heq => exact Or.inl (alike_ask heq)
    · next heq =>
      exact Or.inr ⟨_, _, reflected_applyState (alike_ask heq) (Or.inr (said_of_ask heq rfl))⟩

theorem pictures_finish (w : Worker) (last : Option State) :
    Pictures S (.finish w last) c (c.finish S.logged w last) := by
  unfold finish
  split
  · exact Or.inl (.refl c)
  · split
    · exact Or.inl (.refl c)
    · split
      · exact Or.inr ⟨_, _, reflected_applyState (.refl c) (Or.inl rfl)⟩
      · split
        · next heq =>
          exact Or.inr ⟨_, _, reflected_applyState (alike_ask heq) (Or.inr (said_of_ask heq rfl))⟩
        · next heq => exact Or.inl (alike_ask heq)

/-! Looking around is nothing that marks see. -/

theorem alike_select (selector : Selector) (frame : Nat) :
    Alike c (c.select S.logged selector frame).2 := by
  have hask : Alike c (c.askStopped S.logged (.detailsAt c.view.state selector frame)).2 :=
    alike_askStopped _
  unfold select
  split
  · next heq =>
    rw [heq] at hask
    exact hask
  · next heq =>
    rw [heq] at hask
    exact hask.trans (.of_eq rfl rfl rfl)

theorem alike_setThread (id : Nat) : Alike c (c.setThread S.logged id).2 := by
  unfold setThread
  split
  · exact .refl c
  · exact alike_select _ _

theorem alike_lookUp (name : String) : Alike c (c.lookUp S.logged name).2 := by
  unfold lookUp
  split
  · exact .refl c
  · exact alike_askStopped _

theorem alike_showVar (name : String) : Alike c (c.showVar S.logged name).2 := by
  have hlook : Alike c (c.lookUp S.logged name).2 := alike_lookUp name
  unfold showVar
  split
  · next heq =>
    rw [heq] at hlook
    exact hlook
  · next heq =>
    rw [heq] at hlook
    exact hlook.trans (.of_eq rfl rfl rfl)

/-! ## Changes of the user -/

variable {path : Path} {line : Nat}

/-- A change of the user that changes nothing, or that changes a row and
marks it. -/
def Edits (k : Row) (c c' : Controller (σ × List Exchange)) : Prop :=
  (Alike c c' ∧ c'.view.breaks = c.view.breaks) ∨
    (Edited k c.view c.marks c'.view c'.marks ∧ c'.view.breaks ≠ c.view.breaks)

theorem edits_addBreak (hm : c.marks.Displayed) (hc : ∀ b ∈ c.view.breaks, b.Located)
    (h : Debug.Located path line) :
    Edits (Row.of path line) c (c.addBreak S.logged path line) := by
  unfold addBreak
  split
  · exact Or.inl ⟨.refl c, rfl⟩
  · next hany =>
    have hfree : rowMark c.view.breaks (Row.of path line) = none := by
      refine Break.rowMark_eq_none_iff.2 fun b hb hrow => hany ?_
      exact List.any_eq_true.2 ⟨b, hb, (Break.isAt_iff_row (hc b hb) h).2 hrow⟩
    refine Or.inr ⟨⟨rfl, fun j hj => Break.rowMark_add_of_ne hj, ?_, fun j hj => ?_,
      hm.setAt _ _ _⟩, ?_⟩
    · exact (Marks.at?_setAt_self hm _).trans (Break.rowMark_add_self hfree).symm
    · exact Marks.at?_setAt_of_ne hm _ hj
    · exact fun heq => List.cons_ne_nil _ _ (List.append_right_eq_self.1 heq)

theorem edits_deleteBreak (hm : c.marks.Displayed) (hc : ∀ b ∈ c.view.breaks, b.Located)
    (h : Debug.Located path line) :
    Edits (Row.of path line) c (c.deleteBreak S.logged path line).2 := by
  rcases c.deleteBreak_cases S.logged path line with ⟨-, hsame⟩ | ⟨b, hb, hdelete⟩
  · rw [hsame]
    exact Or.inl ⟨.refl c, rfl⟩
  · obtain ⟨-, hview, hmarks⟩ := c.forget_frame S.logged b
    rw [hdelete, hview, hmarks]
    refine Or.inr ⟨⟨rfl, fun j hj => Break.rowMark_delete_of_ne hc h hj, ?_, fun j hj => ?_,
      hm.setAt _ _ _⟩, ?_⟩
    · exact (Marks.at?_setAt_self hm _).trans (Break.rowMark_delete_self hc h).symm
    · exact Marks.at?_setAt_of_ne hm _ hj
    · intro heq
      have hkept : c.view.breaks.filter (fun e => !e.isAt S.home path line) = c.view.breaks := heq
      have hmem : b ∈ c.view.breaks := List.mem_of_find?_eq_some hb
      have hat := List.find?_some hb
      have hat : b.isAt S.home path line = true := hat
      rw [← hkept, List.mem_filter, hat] at hmem
      cases hmem.2

theorem edits_toggleBreak (hm : c.marks.Displayed) (hc : ∀ b ∈ c.view.breaks, b.Located)
    (h : Debug.Located path line) :
    Edits (Row.of path line) c (c.toggleBreak S.logged path line).2 := by
  unfold toggleBreak
  split
  · exact Or.inl ⟨.refl c, rfl⟩
  · next b hb =>
    have hself := Break.rowMark_toggle_self hc h hb
    refine Or.inr ⟨⟨rfl, fun j hj => Break.rowMark_toggle_of_ne hc h hj, ?_, fun j hj => ?_,
      hm.setAt _ _ _⟩, ?_⟩
    · exact (Marks.at?_setAt_self hm _).trans hself.symm
    · exact Marks.at?_setAt_of_ne hm _ hj
    · intro heq
      have hbefore : rowMark c.view.breaks (Row.of path line) = some b.mark := by
        rw [rowMark, ← Break.find?_isAt hc h, hb]
        rfl
      have hsame : some (if !b.enabled then Mark.active else .inactive) = some b.mark :=
        (hself.symm.trans (congrArg (rowMark · (Row.of path line)) heq)).trans hbefore
      unfold Break.mark at hsame
      cases hb : b.enabled <;> rw [hb] at hsame <;> cases hsame

end Controller

/-! ## What an operation does to the marks -/

namespace Scene

variable {S : Setup σ} {d : Scene σ} {op : Op σ} {ops : List (Op σ)}

/-- What an operation can do to the marks. -/
inductive Repaint (S : Setup σ) (d : Scene σ) (op : Op σ) : Prop where
  /-- Marks see nothing of it. -/
  | alike (alike : d.controller.Alike (d.after S op).controller)
    (idle : op.row? = none ∨ (d.after S op).breaks = d.breaks)
  /-- A session ends or begins anew, and the line of the program is taken
  away. -/
  | cleared (about : op.isAboutSession) (cleared : Cleared d.controller.view d.controller.marks
      (d.after S op).controller.view (d.after S op).controller.marks)
  /-- The user changes a row. -/
  | edited (k : Row) (row : op.row? = some k) (edited : Edited k d.controller.view
      d.controller.marks (d.after S op).controller.view (d.after S op).controller.marks)
    (changed : (d.after S op).breaks ≠ d.breaks)
  /-- A state is reflected. -/
  | reflected (c₁ : Controller (σ × List Exchange)) (st : State)
    (about : op.isAboutSession = false) (row : op.row? = none)
    (reflected : Controller.Reflected S op d.controller (d.after S op).controller c₁ st)

/-- Marks are displayed, and every line of the view needs no expansion. -/
structure Plain (d : Scene σ) : Prop where
  located : d.controller.view.Located
  displayed : d.controller.marks.Displayed

theorem Repaint.of_alike (h : d.controller.Alike (d.after S op).controller)
    (hrow : op.row? = none) : Repaint S d op := .alike h (Or.inl hrow)

theorem Repaint.of_edits {k : Row} (hrow : op.row? = some k)
    (h : d.controller.Edits k (d.after S op).controller) : Repaint S d op := by
  rcases h with ⟨halike, hsame⟩ | ⟨hedited, hchanged⟩
  · exact .alike halike (Or.inr hsame)
  · exact .edited k hrow hedited hchanged

theorem Repaint.of_pictures (habout : op.isAboutSession = false) (hrow : op.row? = none)
    (h : Controller.Pictures S op d.controller (d.after S op).controller) : Repaint S d op := by
  rcases h with halike | ⟨c₁, st, hreflected⟩
  · exact .of_alike halike hrow
  · exact .reflected c₁ st habout hrow hreflected

theorem Repaint.of_clears (hm : d.controller.marks.Displayed) (habout : op.isAboutSession)
    (hrow : op.row? = none) (h : d.controller.Alike (d.after S op).controller ∨
      d.controller.clearShown.Alike (d.after S op).controller) : Repaint S d op := by
  rcases h with halike | hcleared
  · exact .of_alike halike hrow
  · have hclear := Controller.cleared_clearShown hm
    refine .cleared habout ⟨hcleared.shown.trans hclear.shown,
      hcleared.faces.trans hclear.faces, fun k => ?_, ?_⟩
    · rw [hcleared.marks]
      exact hclear.marks k
    · rw [hcleared.marks]
      exact hclear.displayed

/-- **An operation does one of four things to the marks.** -/
theorem repaint_after (S : Setup σ) (hd : Plain d) (hop : op.Located) : Repaint S d op := by
  cases op with
  | start l latestChange now =>
    exact .of_clears hd.displayed rfl rfl (Controller.alike_start d.sinks l latestChange now)
  | detach => exact .of_clears hd.displayed rfl rfl Controller.alike_detach
  | resume => exact .of_alike Controller.alike_resume rfl
  | step k => exact .of_pictures rfl rfl (Controller.pictures_step k)
  | stop => exact .of_pictures rfl rfl Controller.pictures_stop
  | addBreak path line =>
    exact .of_edits rfl (Controller.edits_addBreak hd.displayed hd.located.breaks (hop.edit _ rfl))
  | deleteBreak path line =>
    exact .of_edits rfl
      (Controller.edits_deleteBreak hd.displayed hd.located.breaks (hop.edit _ rfl))
  | toggleBreak path line =>
    exact .of_edits rfl
      (Controller.edits_toggleBreak hd.displayed hd.located.breaks (hop.edit _ rfl))
  | setFrame depth => exact .of_alike (Controller.alike_select _ depth) rfl
  | setThread id => exact .of_alike (Controller.alike_setThread id) rfl
  | findFrames path line =>
    exact .of_alike ((Controller.alike_askStopped _).trans (.of_eq rfl rfl rfl)) rfl
  | listGlobals filter =>
    exact .of_alike ((Controller.alike_askStopped _).trans (.of_eq rfl rfl rfl)) rfl
  | showVar name => exact .of_alike (Controller.alike_showVar name) rfl
  | varValue name => exact .of_alike (Controller.alike_lookUp name) rfl
  | report status message => exact .of_alike (.of_eq rfl rfl rfl) rfl
  | turn world => exact .of_alike (.of_eq rfl rfl rfl) rfl
  | close w =>
    refine .of_alike ?_ rfl
    simp only [after]
    split
    · split
      · exact .of_eq rfl rfl rfl
      · exact .refl _
    · exact .refl _
  | finish w last =>
    refine .of_pictures rfl rfl ?_
    simp only [after]
    split
    · exact Controller.pictures_finish w last
    · exact Or.inl (.refl _)

end Scene

end Debug
end CodeDesk
