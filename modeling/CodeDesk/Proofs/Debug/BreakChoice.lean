import CodeDesk.Proofs.Debug.Request
/-!
# The choice of the user — who decides which breakpoints there are

Debuggers number breakpoints and move them to other lines. Which
breakpoints there are, in which order, whether they count and under which
condition is the choice of the user: `Op.choices` says what it is after an
operation, and only setting, taking away and switching a breakpoint change
it (`choices_after`), whatever the debuggers answer.

A debugger that sets the program going knows that choice. A request to run
on or to take a step comes right behind the breakpoints, sent as they are
shown (`Led`); an operation whose breakpoints are refused makes no such
request. `breaks_are_chosen` says both of whole histories.
-/

namespace CodeDesk
namespace Debug

/-- Whether a request sets the program going. -/
def Call.runs : Call → Bool
  | resume => true
  | step _ => true
  | _ => false

theorem Call.needsStopped_of_runs {r : Call} (h : r.runs) : r.needsStopped := by
  cases r with
  | resume => rfl
  | step k => rfl
  | _ => cases h

theorem Call.runs_of_isReading {r : Call} (h : r.isReading) : r.runs = false := by
  cases r with
  | details st => rfl
  | listBreaks => rfl
  | _ => cases h

namespace Break

variable {home path : Path} {line : Nat} {bs : List Break}

/-- What the user decides about a breakpoint: whether it counts, and under
which condition. -/
def choice (b : Break) : Bool × String := (b.enabled, b.cond)

/-- Giving numbers leaves what does not depend on them. -/
theorem map_assign {β : Type} {f : Break → β} (hf : ∀ b n, f { b with id := n } = f b)
    (p : Break) : (assign home p bs).map f = bs.map f := by
  induction bs with
  | nil => rfl
  | cons b bs ih =>
    unfold assign
    split
    · rw [List.map_cons, List.map_cons, hf]
    · rw [List.map_cons, ih, List.map_cons]

theorem map_assignAll {β : Type} {f : Break → β} (hf : ∀ b n, f { b with id := n } = f b)
    (pushed : List Break) : (assignAll home bs pushed).map f = bs.map f := by
  induction pushed generalizing bs with
  | nil => rfl
  | cons p ps ih => exact ih.trans (map_assign hf p)

theorem choice_merge (reported : List Break) :
    (merge home bs reported).map choice = bs.map choice := by
  unfold merge
  rw [List.map_map]
  refine List.map_congr_left fun b _ => ?_
  rw [Function.comp_apply]
  split <;> rfl

/-- Switching a breakpoint switches the first choice at its place. -/
theorem choice_toggleIn :
    (Controller.toggleIn home path line bs).map choice =
      (bs.map choice).modify (bs.findIdx fun b => b.isAt home path line) fun c => (!c.1, c.2) := by
  induction bs with
  | nil => rfl
  | cons b bs ih =>
    unfold Controller.toggleIn
    split
    · next hat => rw [List.findIdx_cons, hat]; rfl
    · next hat =>
      rw [Bool.not_eq_true] at hat
      rw [List.findIdx_cons, hat, List.map_cons, ih, List.map_cons]
      rfl

end Break

namespace BreakEdit

variable {home : Path} {bs : List Break} {es : List BreakEdit}

/-- What a debugger answers is no choice of the user. -/
theorem not_isOwn_of_exchange {x : Exchange} {e : BreakEdit} (h : x.edit? = some e) :
    e.isOwn = false := by
  unfold Exchange.edit? at h
  split at h
  · cases h; rfl
  · cases h; rfl
  · cases h

theorem choice_foldl (h : ∀ e ∈ es, e.isOwn = false) :
    (es.foldl (apply home) bs).map Break.choice = bs.map Break.choice := by
  induction es generalizing bs with
  | nil => rfl
  | cons e es ih =>
    rw [List.foldl_cons, ih fun e he => h e (List.mem_cons_of_mem _ he)]
    cases e with
    | push pushed => exact Break.map_assignAll (fun _ _ => rfl) pushed
    | merge reported => exact Break.choice_merge reported
    | _ => cases h _ List.mem_cons_self

end BreakEdit

variable {σ : Type}

/-- The choice of the user after an operation, read off the breakpoints
before it. -/
def Op.choices (home : Path) (bs : List Break) : Op σ → List (Bool × String)
  | .addBreak path line =>
    if bs.any fun b => b.isAt home path line then bs.map Break.choice
    else bs.map Break.choice ++ [(true, "")]
  | .deleteBreak path line => (bs.filter fun b => !b.isAt home path line).map Break.choice
  | .toggleBreak path line =>
    (bs.map Break.choice).modify (bs.findIdx fun b => b.isAt home path line) fun c => (!c.1, c.2)
  | _ => bs.map Break.choice

/-- Every request that sets the program going comes first after the
breakpoints, which were sent as they are in the list and accepted. -/
def Led (bs : List Break) (new : List Exchange) : Prop :=
  ∀ before x behind, new = before ++ x :: behind → x.call.runs →
    ∃ pushed, before = [⟨x.session, .updateBreaks bs, .ok pushed⟩]

section Led

variable {bs : List Break} {new : List Exchange}

theorem led_of_none (h : ∀ x ∈ new, x.call.runs = false) : Led bs new := by
  rintro before x behind rfl hruns
  rw [h x (List.mem_append_right _ List.mem_cons_self)] at hruns
  cases hruns

theorem led_cons_cons {pushed : List Break} {x : Exchange}
    (h : ∀ y ∈ new, y.call.runs = false) :
    Led bs (⟨x.session, .updateBreaks bs, .ok pushed⟩ :: x :: new) := by
  intro before y behind heq hruns
  cases before with
  | nil =>
    cases heq
    cases hruns
  | cons z rest =>
    obtain ⟨rfl, hx⟩ := List.cons.inj heq
    cases rest with
    | nil =>
      cases hx
      exact ⟨pushed, rfl⟩
    | cons z' rest =>
      obtain ⟨-, rfl⟩ := List.cons.inj hx
      rw [h y (List.mem_append_right _ List.mem_cons_self)] at hruns
      cases hruns

end Led

namespace Controller

variable {S : Setup σ} {c c₁ c₂ c' : Controller (σ × List Exchange)} {s : Session}

/-- A part of an operation in which every request that sets the program
going comes behind the breakpoints. -/
def Leads (c c' : Controller (σ × List Exchange)) : Prop :=
  ∃ new, c'.world.2 = c.world.2 ++ new ∧ Led c.view.breaks new

theorem leads_of_asked (h : Asked (fun x => x.call.runs = false) c c') : Leads c c' := by
  obtain ⟨new, hlog, hnone⟩ := h
  exact ⟨new, hlog, led_of_none hnone⟩

theorem log_pushBreaks (h : c.pushBreaks S.logged s = (.ok (), c')) :
    ∃ pushed, c'.world.2 = c.world.2 ++ [⟨s.number, .updateBreaks c.view.breaks, .ok pushed⟩] := by
  unfold pushBreaks at h
  split at h
  · cases h
  · next pushed c₁ heq =>
    cases h
    obtain ⟨w, rfl⟩ := eq_of_ask heq
    exact ⟨pushed, rfl⟩

/-- Breakpoints that are accepted, one request behind them, and none that
sets the program going after that. -/
theorem leads_of_pushed {call : Call} {r : Except AdapterError call.Reply}
    (hpush : c.pushBreaks S.logged s = (.ok (), c₁)) (hask : c₁.ask S.logged s call = (r, c₂))
    (hrest : Asked (fun x => x.call.runs = false) c₂ c') : Leads c c' := by
  obtain ⟨pushed, hpushed⟩ := log_pushBreaks hpush
  obtain ⟨w, rfl⟩ := eq_of_ask hask
  obtain ⟨new, hlog, hnone⟩ := hrest
  refine ⟨⟨s.number, .updateBreaks c.view.breaks, .ok pushed⟩ :: ⟨s.number, call, r⟩ :: new, ?_,
    led_cons_cons (x := ⟨s.number, call, r⟩) hnone⟩
  rw [hlog]
  dsimp only
  rw [hpushed, List.append_assoc, List.append_assoc]
  rfl

theorem leads_resume : Leads c (c.resume S.logged).2 := by
  unfold resume
  split
  · exact leads_of_asked (.refl _ c)
  · split
    · exact leads_of_asked (.refl _ c)
    · split
      · next heq => exact leads_of_asked (asked_pushBreaks heq fun _ => rfl)
      · next hpush =>
        split
        · next hask => exact leads_of_pushed hpush hask (.refl _ _)
        · next hask => exact leads_of_pushed hpush hask (.of_eq rfl)

theorem leads_step (k : StepKind) : Leads c (c.step S.logged k).2 := by
  unfold step
  split
  · exact leads_of_asked (.refl _ c)
  · split
    · exact leads_of_asked (.refl _ c)
    · split
      · next heq => exact leads_of_asked (asked_pushBreaks heq fun _ => rfl)
      · next hpush =>
        split
        · next hask => exact leads_of_pushed hpush hask (.refl _ _)
        · next hask =>
          refine leads_of_pushed hpush hask (asked_applyState _ ?_)
          exact fun _ hread _ => Call.runs_of_isReading hread

end Controller

namespace Scene

variable {S : Setup σ} {d : Scene σ} {op : Op σ}

/-- **What the user has chosen** changes by what the user does. -/
theorem choices_after (S : Setup σ) (d : Scene σ) (op : Op σ) :
    (d.after S op).breaks.map Break.choice = op.choices S.home d.breaks := by
  rw [breaks_after]
  cases hop : op.edit? with
  | none =>
    rw [BreakEdit.choice_foldl]
    · cases op with
      | addBreak path line => cases hop
      | deleteBreak path line => cases hop
      | toggleBreak path line => cases hop
      | _ => rfl
    · intro e he
      rw [Op.edits, hop, Option.toList_none, List.nil_append] at he
      obtain ⟨x, -, hx⟩ := List.mem_filterMap.1 he
      exact BreakEdit.not_isOwn_of_exchange hx
  | some e =>
    obtain ⟨-, hheard⟩ := heard_own S d hop
    rw [edits_of_heard hop hheard rfl]
    cases op with
    | addBreak path line =>
      cases hop
      show List.map Break.choice (if _ then _ else _) = if _ then _ else _
      split
      · rfl
      · exact List.map_append
    | deleteBreak path line => cases hop; rfl
    | toggleBreak path line => cases hop; exact Break.choice_toggleIn
    | _ => cases hop

/-- No operation but running on and taking a step sets the program
going. -/
theorem runs_of_asks {x : Exchange} (hx : op.Asks d.controller x) (h : x.call.runs) :
    op = .resume ∨ ∃ k, op = .step k := by
  have hgrounds := (grounds_of_asks hx (Call.needsStopped_of_runs h)).2
  generalize x.call = call at h hgrounds
  cases hgrounds with
  | resume goes => exact Or.inl goes
  | step k goes can => exact Or.inr ⟨k, goes⟩
  | _ => cases h

/-- **In one operation** a request that sets the program going comes right
behind the breakpoints that are shown. -/
theorem led_exchanges (S : Setup σ) (d : Scene σ) (op : Op σ) :
    Led d.breaks (op.exchanges S d) := by
  have hof : d.controller.Leads (d.after S op).controller → Led d.breaks (op.exchanges S d) := by
    rintro ⟨new, hlog, hled⟩
    have hafter : (d.after S op).log = d.log ++ new := hlog
    rw [Op.exchanges, hafter, List.drop_left]
    exact hled
  by_cases hruns : ∃ x ∈ op.exchanges S d, x.call.runs
  · obtain ⟨x, hx, hruns⟩ := hruns
    rcases runs_of_asks (asks_after S d op x hx) hruns with rfl | ⟨k, rfl⟩
    · exact hof Controller.leads_resume
    · exact hof (Controller.leads_step k)
  · exact led_of_none fun x hx => Bool.eq_false_iff.2 fun h => hruns ⟨x, hx, h⟩

/-- **The breakpoints are the choice of the user**, whatever the debuggers
answer. In every history each operation changes which breakpoints there are
as the user has said, and no other way; and every request in the record that
sets the program going stands right behind the breakpoints, as they were
shown when nothing else had been asked since. -/
theorem breaks_are_chosen {world : σ} {marks : Marks} {sinks : Command.Sinks}
    {ops : List (Op σ)} :
    (∀ ops₁ op ops₂, ops = ops₁ ++ op :: ops₂ →
      (run S (initial world marks sinks) (ops₁ ++ [op])).breaks.map Break.choice =
        op.choices S.home (run S (initial world marks sinks) ops₁).breaks) ∧
    ∀ log₁ x log₂, (run S (initial world marks sinks) ops).log = log₁ ++ x :: log₂ →
      x.call.runs → ∃ ops₁ op ops₂ pushed, ops = ops₁ ++ op :: ops₂ ∧
        log₁ = (run S (initial world marks sinks) ops₁).log ++
          [⟨x.session, .updateBreaks (run S (initial world marks sinks) ops₁).breaks,
            .ok pushed⟩] := by
  constructor
  · rintro ops₁ op ops₂ -
    rw [run_concat]
    exact choices_after S _ op
  · intro log₁ x log₂ hlog hruns
    obtain ⟨ops₁, op, ops₂, before, behind, hops, hasked, rfl⟩ := exists_op_of_log hlog
    obtain ⟨pushed, rfl⟩ := led_exchanges S _ op before x behind hasked hruns
    exact ⟨ops₁, op, ops₂, pushed, hops, rfl⟩

/-- A program with one breakpoint, which is switched off before the program
takes a step. -/
def switching : List (Op Script) :=
  [.addBreak ⟨"/work/main"⟩ 10, .start debugged 0 1, .toggleBreak ⟨"/work/main"⟩ 10, .step .line]

/-- The third request is the step, and the breakpoint is off when it is
made and after it. -/
theorem breaks_are_chosen_switching :
    ((unscripted switching).log = (unscripted switching).log.take 2 ++
        ⟨1, .step .line, .ok State.initial⟩ :: (unscripted switching).log.drop 3 ∧
      (Call.step .line).runs) ∧
    (unscripted switching).breaks.map Break.choice = [(false, "")] ∧
    ∃ ops₁ op ops₂ pushed, switching = ops₁ ++ op :: ops₂ ∧
      (unscripted switching).log.take 2 = (unscripted ops₁).log ++
        [⟨1, .updateBreaks (unscripted ops₁).breaks, .ok pushed⟩] := by
  have hlog : (unscripted switching).log = (unscripted switching).log.take 2 ++
      ⟨1, .step .line, .ok State.initial⟩ :: (unscripted switching).log.drop 3 := rfl
  have hchoice : (unscripted (switching.take 3 ++ [.step .line])).breaks.map Break.choice =
      Op.choices played.home (unscripted (switching.take 3)).breaks (.step .line : Op Script) :=
    breaks_are_chosen.1 (switching.take 3) (.step .line) [] rfl
  exact ⟨⟨hlog, rfl⟩, hchoice.trans rfl, breaks_are_chosen.2 _ _ _ hlog rfl⟩

end Scene

end Debug
end CodeDesk
