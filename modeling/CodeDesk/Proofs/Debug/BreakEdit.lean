import CodeDesk.Proofs.Debug.Operation
/-!
# Edits of breakpoints — what changes the list

The list of breakpoints that is shown is changed by the user and by two
answers of a debugger: the breakpoints with their numbers that it gives
back when it is sent them, and the breakpoints that it lists after a stop.
Both answers are in its record, so the list after an operation is the list
before it with the edits of the operation, read off the operation and the
record (`breaks_after`).

`Heard` is that fact for a part of an operation, and composes; `Shape` says
which edits can make up one operation.
-/

namespace CodeDesk
namespace Debug

/-- A change of the list of breakpoints. -/
inductive BreakEdit where
  /-- The user sets a breakpoint. -/
  | add (path : Path) (line : Nat)
  /-- The user takes a breakpoint away. -/
  | delete (path : Path) (line : Nat)
  /-- The user switches a breakpoint on or off. -/
  | toggle (path : Path) (line : Nat)
  /-- The debugger gives back what it was sent. -/
  | push (pushed : List Break)
  /-- The debugger lists its breakpoints. -/
  | merge (reported : List Break)

namespace BreakEdit

/-- The list after a change. -/
def apply (home : Path) (bs : List Break) : BreakEdit → List Break
  | add path line =>
    if bs.any fun b => b.isAt home path line then bs else bs ++ [Break.onLine path line]
  | delete path line => bs.filter fun b => !b.isAt home path line
  | toggle path line => Controller.toggleIn home path line bs
  | push pushed => Break.assignAll home bs pushed
  | merge reported => Break.merge home bs reported

/-- Whether a change comes from the user. -/
def isOwn : BreakEdit → Bool
  | add _ _ => true
  | delete _ _ => true
  | toggle _ _ => true
  | push _ => false
  | merge _ => false

end BreakEdit

/-- The change that an answer of a debugger brings. -/
def Exchange.edit? : Exchange → Option BreakEdit
  | ⟨_, .updateBreaks _, .ok pushed⟩ => some (.push pushed)
  | ⟨_, .listBreaks, .ok reported⟩ => some (.merge reported)
  | _ => none

/-- The change that an operation itself makes. -/
def Op.edit? {σ : Type} : Op σ → Option BreakEdit
  | .addBreak path line => some (.add path line)
  | .deleteBreak path line => some (.delete path line)
  | .toggleBreak path line => some (.toggle path line)
  | _ => none

/-- The changes of an operation: its own, and those that the answers of the
debuggers bring. -/
def Op.edits {σ : Type} (S : Setup σ) (d : Scene σ) (op : Op σ) : List BreakEdit :=
  op.edit?.toList ++ ((d.after S op).log.drop d.log.length).filterMap Exchange.edit?

/-- Which changes make up an operation. -/
inductive BreakEdit.Shape : List BreakEdit → Prop where
  | none : Shape []
  | own (e : BreakEdit) (user : e.isOwn) : Shape [e]
  | push (pushed : List Break) : Shape [.push pushed]
  | merge (reported : List Break) : Shape [.merge reported]
  | both (pushed reported : List Break) : Shape [.push pushed, .merge reported]

theorem View.breaks_withState (v : View) (home : Path) (hasTasks : Bool) (st : State)
    (details : Option Details) (reported : Option (List Break)) :
    (v.withState home hasTasks st details reported).breaks =
      match reported with
      | some bs => Break.merge home v.breaks bs
      | none => v.breaks := by
  cases details <;> cases reported <;> rfl

namespace Controller

open BreakEdit

variable {σ : Type} {S : Setup σ} {home : Path} {c c' c'' : Controller (σ × List Exchange)}
  {s : Session} {es fs : List BreakEdit}

/-- A part of an operation in which the debuggers answered with these
changes, and they were made. -/
def Heard (home : Path) (c c' : Controller (σ × List Exchange)) (es : List BreakEdit) : Prop :=
  ∃ new, c'.world.2 = c.world.2 ++ new ∧ new.filterMap Exchange.edit? = es ∧
    c'.view.breaks = es.foldl (BreakEdit.apply home) c.view.breaks

theorem Heard.of_eq (hlog : c'.world.2 = c.world.2) (hbreaks : c'.view.breaks = c.view.breaks) :
    Heard home c c' [] :=
  ⟨[], by rw [hlog, List.append_nil], rfl, hbreaks⟩

theorem Heard.refl (home : Path) (c : Controller (σ × List Exchange)) : Heard home c c [] :=
  .of_eq rfl rfl

theorem Heard.trans (h : Heard home c c' es) (h' : Heard home c' c'' fs) :
    Heard home c c'' (es ++ fs) := by
  obtain ⟨new, hlog, rfl, hbreaks⟩ := h
  obtain ⟨new', hlog', rfl, hbreaks'⟩ := h'
  refine ⟨new ++ new', ?_, List.filterMap_append, ?_⟩
  · rw [hlog', hlog, List.append_assoc]
  · rw [hbreaks', hbreaks, List.foldl_append]

/-- A question leaves everything but the debuggers as it is, and is in
their record. -/
theorem eq_of_ask {call : Call} {r : Except AdapterError call.Reply}
    (h : c.ask S.logged s call = (r, c')) :
    ∃ w, c' = { c with world := (w, c.world.2 ++ [⟨s.number, call, r⟩]) } := by
  cases h
  exact ⟨_, rfl⟩

/-- A question brings no change by itself. -/
theorem heard_ask {call : Call} {r : Except AdapterError call.Reply}
    (h : c.ask S.logged s call = (r, c')) (hnone : Exchange.edit? ⟨s.number, call, r⟩ = none) :
    Heard home c c' [] := by
  obtain ⟨w, rfl⟩ := eq_of_ask h
  exact ⟨[⟨s.number, call, r⟩], rfl, by rw [List.filterMap_cons, hnone]; rfl, rfl⟩

theorem heard_askIf {wanted : Bool} {call : Call}
    (hnone : ∀ r, Exchange.edit? ⟨s.number, call, r⟩ = none) :
    Heard home c (c.askIf S.logged wanted s call).2 [] := by
  cases wanted with
  | false => exact .refl home c
  | true => exact heard_ask rfl (hnone _)

/-- Sending the breakpoints brings back their numbers. -/
theorem heard_pushBreaks_ok (h : c.pushBreaks S.logged s = (.ok (), c')) :
    ∃ pushed, Heard S.home c c' [.push pushed] := by
  unfold pushBreaks at h
  split at h
  · cases h
  · next pushed c₁ heq =>
    cases h
    obtain ⟨w, rfl⟩ := eq_of_ask heq
    exact ⟨pushed, [⟨s.number, .updateBreaks c.view.breaks, .ok pushed⟩], rfl, rfl, rfl⟩

theorem heard_pushBreaks_error {e : AdapterError}
    (h : c.pushBreaks S.logged s = (.error e, c')) : Heard home c c' [] := by
  unfold pushBreaks at h
  split at h
  · next heq =>
    cases h
    exact heard_ask heq rfl
  · cases h

/-- Asking for the list of breakpoints may bring one. -/
theorem askIf_listBreaks (wanted : Bool) :
    ((c.askIf S.logged wanted s .listBreaks).1 = none ∧
      Heard S.home c (c.askIf S.logged wanted s .listBreaks).2 []) ∨
    ∃ reported w, c.askIf S.logged wanted s .listBreaks = (some reported,
      { c with world := (w, c.world.2 ++ [⟨s.number, .listBreaks, .ok reported⟩]) }) := by
  cases wanted with
  | false => exact Or.inl ⟨rfl, .refl _ c⟩
  | true =>
    cases hreply : c.ask S.logged s .listBreaks with
    | mk r c' =>
      have hask : c.askIf S.logged true s .listBreaks = (r.toOption, c') := by
        simp only [askIf, hreply, if_true]
      rw [hask]
      cases r with
      | error e => exact Or.inl ⟨rfl, heard_ask hreply rfl⟩
      | ok reported =>
        obtain ⟨w, rfl⟩ := eq_of_ask hreply
        exact Or.inr ⟨reported, w, rfl⟩

/-- Reflecting a state may bring the breakpoints that the debugger
lists. -/
theorem heard_applyState (st : State) :
    Heard S.home c (c.applyState S.logged s st) [] ∨
      ∃ reported, Heard S.home c (c.applyState S.logged s st) [.merge reported] := by
  have hdetails : Heard S.home c (c.askIf S.logged st.isStopped s (.details st)).2 [] :=
    heard_askIf fun _ => rfl
  cases hask : c.askIf S.logged st.isStopped s (.details st) with
  | mk details c₁ =>
    rw [hask] at hdetails
    -- The list is asked for last, so nothing in the record comes behind it.
    have happlied : ∀ r c₂, c₁.askIf S.logged st.isStopped s .listBreaks = (r, c₂) →
        (c.applyState S.logged s st).world.2 = c₂.world.2 ∧
        (c.applyState S.logged s st).view.breaks = match r with
          | some bs => Break.merge S.home c₂.view.breaks bs
          | none => c₂.view.breaks := by
      intro r c₂ hlist
      unfold applyState
      rw [hask]
      dsimp only
      rw [hlist]
      exact ⟨rfl, View.breaks_withState _ _ _ _ _ _⟩
    rcases c₁.askIf_listBreaks (S := S) (s := s) st.isStopped with ⟨hnone, hheard⟩ | ⟨bs, w, hlist⟩
    · obtain ⟨hlog, hbreaks⟩ := happlied none _ (Prod.ext hnone rfl)
      exact Or.inl ((hdetails.trans hheard).trans (.of_eq hlog hbreaks))
    · obtain ⟨hlog, hbreaks⟩ := happlied _ _ hlist
      exact Or.inr ⟨bs, hdetails.trans ⟨_, hlog, rfl, hbreaks⟩⟩

/-- Changes that none is made of, one after the other. -/
theorem Heard.then (h : Heard home c c' es) (h' : Heard home c' c'' []) : Heard home c c'' es :=
  List.append_nil es ▸ h.trans h'

/-- Reflecting a state after questions that brought nothing. -/
theorem Heard.reflect (h : Heard S.home c c' []) (st : State) :
    ∃ es, Shape es ∧ Heard S.home c (c'.applyState S.logged s st) es := by
  rcases heard_applyState (S := S) (c := c') (s := s) st with hstate | ⟨reported, hstate⟩
  · exact ⟨[], .none, h.then hstate⟩
  · exact ⟨_, .merge reported, h.trans hstate⟩

theorem heard_clearShown : Heard home c c.clearShown [] := by
  unfold clearShown
  split <;> exact .of_eq rfl rfl

theorem heard_restart (mode : Mode) : Heard home c (c.restart S.logged s mode).2 [] := by
  have hidle : Heard home c { c with session := none } [] := .of_eq rfl rfl
  unfold restart
  split
  · next heq => exact (hidle.then (heard_ask heq rfl)).then (.of_eq rfl rfl)
  · next c' heq =>
    have hthere : Heard home c { c' with session := some s } [] :=
      (hidle.then (heard_ask heq rfl)).then (.of_eq rfl rfl)
    exact (hthere.then heard_clearShown).then (.of_eq rfl rfl)

theorem heard_build (sinks : Command.Sinks) (l : Launch) (now : Stamp) :
    Heard home c (c.build S.logged sinks l now).2.1 [] := by
  have hready : Heard home c (c.readied S.logged) [] := by
    unfold readied
    split
    · have hidle : Heard home c { c with session := none } [] := .of_eq rfl rfl
      exact ((hidle.then (heard_ask rfl rfl)).then heard_clearShown).then (.of_eq rfl rfl)
    · exact heard_clearShown.then (.of_eq rfl rfl)
  rw [build_eq]
  dsimp only
  split
  · next heq => exact (hready.then (heard_ask heq rfl)).then (.of_eq rfl rfl)
  · next heq => exact (hready.then (heard_ask heq rfl)).then (.of_eq rfl rfl)

theorem heard_start (sinks : Command.Sinks) (l : Launch) (latestChange now : Stamp) :
    Heard home c (c.start S.logged sinks l latestChange now).2.1 [] := by
  rcases c.start_cases S.logged sinks l latestChange now with ⟨s, -, -, hstart⟩ | ⟨-, hstart⟩
  · rw [hstart]
    exact heard_restart l.params.mode
  · rw [hstart]
    exact heard_build sinks l now

theorem heard_detach : Heard home c (c.detach S.logged) [] := by
  unfold detach
  split
  · exact .refl home c
  · next s _ =>
    have hidle : Heard home c { c with session := none } [] := .of_eq rfl rfl
    have hstop : Heard home c
        (if c.view.status == .running then ({ c with session := none }.ask S.logged s .stop).2
        else { c with session := none }) [] := by
      split
      · exact hidle.then (heard_ask rfl rfl)
      · exact hidle
    have hdismiss : ∀ c₁ : Controller (σ × List Exchange),
        Heard home c₁ (c₁.dismiss S.logged s) [] := fun c₁ => heard_ask rfl rfl
    exact ((hstop.then (hdismiss _)).then heard_clearShown).then (.of_eq rfl rfl)

theorem heard_resume :
    Heard S.home c (c.resume S.logged).2 [] ∨
      ∃ pushed, Heard S.home c (c.resume S.logged).2 [.push pushed] := by
  unfold resume
  split
  · exact Or.inl (.refl _ c)
  · split
    · exact Or.inl (.refl _ c)
    · split
      · next heq => exact Or.inl (heard_pushBreaks_error heq)
      · next heq =>
        obtain ⟨pushed, hpush⟩ := heard_pushBreaks_ok heq
        refine Or.inr ⟨pushed, ?_⟩
        split
        · next heq => exact hpush.then (heard_ask heq rfl)
        · next heq => exact (hpush.then (heard_ask heq rfl)).then (.of_eq rfl rfl)

/-- What a step brings: the numbers of the breakpoints it sends, and then
what the debugger lists. -/
theorem heard_step (k : StepKind) :
    ∃ es, Shape es ∧ Heard S.home c (c.step S.logged k).2 es := by
  unfold step
  split
  · exact ⟨[], .none, .refl _ c⟩
  · split
    · exact ⟨[], .none, .refl _ c⟩
    · split
      · next heq => exact ⟨[], .none, heard_pushBreaks_error heq⟩
      · next heq =>
        obtain ⟨pushed, hpush⟩ := heard_pushBreaks_ok heq
        split
        · next heq => exact ⟨_, .push pushed, hpush.then (heard_ask heq rfl)⟩
        · next heq =>
          have hask := hpush.then (heard_ask heq rfl)
          rcases heard_applyState (S := S) _ with hstate | ⟨reported, hstate⟩
          · exact ⟨_, .push pushed, hask.then hstate⟩
          · exact ⟨_, .both pushed reported, hask.trans hstate⟩

theorem heard_stop : ∃ es, Shape es ∧ Heard S.home c (c.stop S.logged).2 es := by
  unfold stop
  split
  · exact ⟨[], .none, .refl _ c⟩
  · split
    · next heq => exact ⟨[], .none, heard_ask heq rfl⟩
    · next heq => exact (heard_ask heq rfl).reflect _

theorem heard_finish (w : Worker) (last : Option State) :
    ∃ es, Shape es ∧ Heard S.home c (c.finish S.logged w last) es := by
  unfold finish
  split
  · exact ⟨[], .none, .refl _ c⟩
  · split
    · exact ⟨[], .none, .refl _ c⟩
    · split
      · exact (Heard.refl _ c).reflect _
      · split
        · next heq => exact (heard_ask heq rfl).reflect _
        · next heq => exact ⟨[], .none, heard_ask heq rfl⟩

/-! Looking around brings nothing. -/

theorem heard_askStopped {call : Call}
    (hnone : ∀ n r, Exchange.edit? ⟨n, call, r⟩ = none) :
    Heard home c (c.askStopped S.logged call).2 [] := by
  unfold askStopped
  split
  · exact .refl home c
  · exact heard_askIf fun _ => hnone _ _

theorem heard_select (selector : Selector) (frame : Nat) :
    Heard home c (c.select S.logged selector frame).2 [] := by
  have hask : Heard home c (c.askStopped S.logged (.detailsAt c.view.state selector frame)).2 [] :=
    heard_askStopped fun _ _ => rfl
  unfold select
  split
  · next heq =>
    rw [heq] at hask
    exact hask
  · next heq =>
    rw [heq] at hask
    exact hask.then (.of_eq rfl rfl)

theorem heard_setThread (id : Nat) : Heard home c (c.setThread S.logged id).2 [] := by
  unfold setThread
  split
  · exact .refl home c
  · exact heard_select _ _

theorem heard_findFrames (path : Path) (line : Nat) :
    Heard home c (c.findFrames S.logged path line).2 [] :=
  (heard_askStopped fun _ _ => rfl).then (.of_eq rfl rfl)

theorem heard_listGlobals (filter : String) :
    Heard home c (c.listGlobals S.logged filter).2 [] :=
  (heard_askStopped fun _ _ => rfl).then (.of_eq rfl rfl)

theorem heard_lookUp (name : String) : Heard home c (c.lookUp S.logged name).2 [] := by
  unfold lookUp
  split
  · exact .refl home c
  · exact heard_askStopped fun _ _ => rfl

theorem heard_showVar (name : String) : Heard home c (c.showVar S.logged name).2 [] := by
  have hlook : Heard home c (c.lookUp S.logged name).2 [] := heard_lookUp name
  unfold showVar
  split
  · next heq =>
    rw [heq] at hlook
    exact hlook
  · next heq =>
    rw [heq] at hlook
    exact hlook.then (.of_eq rfl rfl)

/-! The user changes the list. -/

/-- The controller with a change of its breakpoints. -/
def edited (home : Path) (c : Controller (σ × List Exchange)) (e : BreakEdit) :
    Controller (σ × List Exchange) :=
  { c with view := { c.view with breaks := e.apply home c.view.breaks } }

theorem heard_addBreak (path : Path) (line : Nat) :
    Heard home (c.edited S.home (.add path line)) (c.addBreak S.logged path line) [] := by
  unfold addBreak
  split
  · next hany => exact .of_eq rfl (if_pos hany).symm
  · next hany => exact .of_eq rfl (if_neg hany).symm

theorem heard_deleteBreak (path : Path) (line : Nat) :
    Heard home (c.edited S.home (.delete path line)) (c.deleteBreak S.logged path line).2 [] := by
  rcases c.deleteBreak_cases S.logged path line with ⟨hnone, hsame⟩ | ⟨b, -, hdelete⟩
  · rw [hsame]
    refine .of_eq rfl (List.filter_eq_self.2 fun b hb => ?_).symm
    rw [Bool.not_eq_true']
    exact Bool.eq_false_iff.2 (List.find?_eq_none.1 hnone b hb)
  · rw [hdelete]
    -- The debugger is told before the list is changed, and takes no notice of it.
    have htell : Heard home (c.edited S.home (.delete path line))
        ((c.forget S.logged b).edited S.home (.delete path line)) [] := by
      unfold forget
      split
      · split
        · next s _ _ => exact ⟨[⟨s.number, .clearBreak b.id, _⟩], rfl, rfl, rfl⟩
        · exact .refl home _
      · exact .refl home _
    exact htell.then (.of_eq rfl rfl)

theorem toggleIn_of_find? {path : Path} {line : Nat} {bs : List Break}
    (h : (bs.find? fun b => b.isAt home path line) = none) : toggleIn home path line bs = bs := by
  induction bs with
  | nil => rfl
  | cons b bs ih =>
    rw [List.find?_cons] at h
    split at h
    · cases h
    · next hb => rw [toggleIn, if_neg (Bool.eq_false_iff.1 hb), ih h]

theorem heard_toggleBreak (path : Path) (line : Nat) :
    Heard home (c.edited S.home (.toggle path line)) (c.toggleBreak S.logged path line).2 [] := by
  unfold toggleBreak
  split
  · next hnone =>
    exact .of_eq rfl (toggleIn_of_find? hnone).symm
  · exact .of_eq rfl rfl

end Controller

namespace Scene

variable {σ : Type} {S : Setup σ} {d : Scene σ}

/-- An operation that is not a change of the user brings what the debuggers
answer. -/
theorem heard_after (S : Setup σ) (d : Scene σ) (op : Op σ) (hop : op.edit? = none) :
    ∃ es, BreakEdit.Shape es ∧ d.controller.Heard S.home (d.after S op).controller es := by
  cases op with
  | start l latestChange now => exact ⟨[], .none, Controller.heard_start d.sinks l latestChange now⟩
  | detach => exact ⟨[], .none, Controller.heard_detach⟩
  | resume =>
    rcases Controller.heard_resume (S := S) (c := d.controller) with hnone | ⟨pushed, hpush⟩
    · exact ⟨[], .none, hnone⟩
    · exact ⟨_, .push pushed, hpush⟩
  | step k => exact Controller.heard_step k
  | stop => exact Controller.heard_stop
  | addBreak path line => cases hop
  | deleteBreak path line => cases hop
  | toggleBreak path line => cases hop
  | setFrame depth => exact ⟨[], .none, Controller.heard_select _ depth⟩
  | setThread id => exact ⟨[], .none, Controller.heard_setThread id⟩
  | findFrames path line => exact ⟨[], .none, Controller.heard_findFrames path line⟩
  | listGlobals filter => exact ⟨[], .none, Controller.heard_listGlobals filter⟩
  | showVar name => exact ⟨[], .none, Controller.heard_showVar name⟩
  | varValue name => exact ⟨[], .none, Controller.heard_lookUp name⟩
  | report status message => exact ⟨[], .none, .of_eq rfl rfl⟩
  | turn world => exact ⟨[], .none, .of_eq rfl rfl⟩
  | close w =>
    refine ⟨[], .none, ?_⟩
    simp only [after]
    split
    · split
      · exact .of_eq rfl rfl
      · exact .refl _ _
    · exact .refl _ _
  | finish w last =>
    simp only [after]
    split
    · exact Controller.heard_finish w last
    · exact ⟨[], .none, .refl _ _⟩

/-- The changes of an operation in which the debuggers answered with
these. -/
theorem edits_of_heard {op : Op σ} {e? : Option BreakEdit} {es : List BreakEdit}
    {c : Controller (σ × List Exchange)} (hop : op.edit? = e?)
    (h : c.Heard S.home (d.after S op).controller es) (hlog : c.world.2 = d.log) :
    op.edits S d = e?.toList ++ es := by
  obtain ⟨new, hnew, rfl, -⟩ := h
  have hdrop : (d.after S op).log.drop d.log.length = new := by
    show (d.after S op).controller.world.2.drop d.log.length = new
    rw [hnew, hlog, List.drop_left]
  rw [Op.edits, hop, hdrop]

/-- An operation that is a change of the user brings nothing else. -/
theorem heard_own (S : Setup σ) (d : Scene σ) {op : Op σ} {e : BreakEdit}
    (hop : op.edit? = some e) :
    e.isOwn ∧ (d.controller.edited S.home e).Heard S.home (d.after S op).controller [] := by
  cases op with
  | addBreak path line =>
    cases hop
    exact ⟨rfl, Controller.heard_addBreak path line⟩
  | deleteBreak path line =>
    cases hop
    exact ⟨rfl, Controller.heard_deleteBreak path line⟩
  | toggleBreak path line =>
    cases hop
    exact ⟨rfl, Controller.heard_toggleBreak path line⟩
  | _ => cases hop

/-- **The changes of an operation have one of a few shapes.** -/
theorem shape_edits (S : Setup σ) (d : Scene σ) (op : Op σ) : BreakEdit.Shape (op.edits S d) := by
  cases hop : op.edit? with
  | none =>
    obtain ⟨es, hshape, hheard⟩ := heard_after S d op hop
    rw [edits_of_heard hop hheard rfl]
    exact hshape
  | some e =>
    obtain ⟨hown, hheard⟩ := heard_own S d hop
    rw [edits_of_heard hop hheard rfl]
    exact .own e hown

/-- **The breakpoints after an operation** are those before it with the
changes of the operation. -/
theorem breaks_after (S : Setup σ) (d : Scene σ) (op : Op σ) :
    (d.after S op).breaks = (op.edits S d).foldl (BreakEdit.apply S.home) d.breaks := by
  cases hop : op.edit? with
  | none =>
    obtain ⟨es, -, hheard⟩ := heard_after S d op hop
    rw [edits_of_heard hop hheard rfl]
    obtain ⟨new, -, -, hbreaks⟩ := hheard
    exact hbreaks
  | some e =>
    obtain ⟨-, hheard⟩ := heard_own S d hop
    rw [edits_of_heard hop hheard rfl]
    obtain ⟨new, -, -, hbreaks⟩ := hheard
    exact hbreaks

/-- The record only grows. -/
theorem log_after (S : Setup σ) (d : Scene σ) (op : Op σ) : d.log <+: (d.after S op).log := by
  cases hop : op.edit? with
  | none =>
    obtain ⟨es, -, new, hlog, -⟩ := heard_after S d op hop
    exact ⟨new, hlog.symm⟩
  | some e =>
    obtain ⟨-, new, hlog, -⟩ := heard_own S d hop
    exact ⟨new, hlog.symm⟩

theorem log_run (S : Setup σ) (d : Scene σ) (ops : List (Op σ)) : d.log <+: (run S d ops).log :=
  run_keeps (p := fun d' => d.log <+: d'.log) (fun d' op h => h.trans (log_after S d' op))
    List.prefix_rfl ops

end Scene

end Debug
end CodeDesk
