import CodeDesk.Proofs.Debug.Request
import Mathlib.Data.List.Forall2
/-!
# Refusals — what an operation that fails leaves of the view

Eight kinds of operations set the program going, stop it or look around in
it. The state of the controller may refuse each of them, and the debugger
may answer with an error. `Op.Fails` is the one or the other, and for the
operations that say whether they succeeded it is just that they say no
(`fails_iff`).

A failure should leave the view there was, but for one thing: the debugger
may have numbered the breakpoints before it refused what came next, and the
numbers it gave stay (`Op.given`, `Spared`). Six of the operations keep to
that. The two that search, for frames or for global variables, empty the
list they were to fill when they fail (`Op.lapsed`, `view_after_failure`),
so the view is spared exactly if that list was empty already
(`spared_iff`).
-/

namespace CodeDesk
namespace Debug

namespace Break

variable {home : Path} {own pushed : List Break}

/-- What giving numbers may do to a breakpoint: nothing, or it has a number
now and had none. -/
def GainsNumber (b b' : Break) : Prop := b' = b ∨ b.id = 0 ∧ ∃ n, b' = { b with id := n }

theorem GainsNumber.trans {a b c : Break} (h : GainsNumber a b) (h' : GainsNumber b c) :
    GainsNumber a c := by
  rcases h with rfl | ⟨hid, n, rfl⟩
  · exact h'
  · rcases h' with rfl | ⟨-, m, rfl⟩
    · exact Or.inr ⟨hid, n, rfl⟩
    · exact Or.inr ⟨hid, m, rfl⟩

theorem gainsNumber_assign (p : Break) : List.Forall₂ GainsNumber own (assign home p own) := by
  induction own with
  | nil => exact .nil
  | cons b bs ih =>
    unfold assign
    split
    · next hb =>
      rw [Bool.and_eq_true, beq_iff_eq] at hb
      exact .cons (Or.inr ⟨hb.1, p.id, rfl⟩) (List.forall₂_same.2 fun _ _ => Or.inl rfl)
    · exact .cons (Or.inl rfl) ih

theorem forall₂_gainsNumber_trans {as bs cs : List Break} (h : List.Forall₂ GainsNumber as bs)
    (h' : List.Forall₂ GainsNumber bs cs) : List.Forall₂ GainsNumber as cs := by
  induction h generalizing cs with
  | nil => exact h'
  | cons hab _ ih =>
    cases h' with
    | cons hbc hrest => exact .cons (hab.trans hbc) (ih hrest)

/-- Numbers are given to breakpoints that have none, and nothing else
changes. -/
theorem gainsNumber_assignAll : List.Forall₂ GainsNumber own (assignAll home own pushed) := by
  induction pushed generalizing own with
  | nil => exact List.forall₂_same.2 fun _ _ => Or.inl rfl
  | cons p ps ih => exact forall₂_gainsNumber_trans (gainsNumber_assign p) ih

end Break

variable {σ : Type}

/-- Whether the answer of a debugger is an error. -/
def Exchange.failed (x : Exchange) : Bool :=
  match x.reply with
  | .error _ => true
  | .ok _ => false

/-- The breakpoints that a debugger gives back when it is sent those that are
shown. -/
def Exchange.given : Exchange → List Break
  | ⟨_, .updateBreaks _, .ok pushed⟩ => pushed
  | _ => []

theorem Exchange.given_of_failed {x : Exchange} (h : x.failed) : x.given = [] := by
  unfold given
  split
  · cases h
  · rfl

/-- The breakpoints that the debuggers gave back in an operation. -/
def Op.given (S : Setup σ) (d : Scene σ) (op : Op σ) : List Break :=
  (op.exchanges S d).flatMap Exchange.given

/-- Whether an operation sets the program going, stops it or looks around in
it. -/
def Op.isAboutProgram : Op σ → Bool
  | .resume => true
  | .step _ => true
  | .stop => true
  | .setFrame _ => true
  | .setThread _ => true
  | .findFrames _ _ => true
  | .listGlobals _ => true
  | .showVar _ => true
  | _ => false

/-- Whether the state of a controller refuses an operation about its
program. A variable of the frame that is looked at is shown without the
debugger. -/
def Op.Refused {τ : Type} (c : Controller τ) : Op σ → Prop
  | .step _ => c.canStep = false
  | .stop => c.isActive = false
  | .showVar name => Variable.find? c.view.vars name = none ∧ c.isAvailable = false
  | _ => c.isAvailable = false

/-- An operation about the program fails if it is refused, or if the debugger
answers the breakpoints it sends, or what it asks for then, with an error. -/
def Op.Fails (S : Setup σ) (d : Scene σ) (op : Op σ) : Prop :=
  op.Refused d.controller ∨ ∃ x ∈ op.exchanges S d, x.failed ∧ x.call.isReading = false

/-- What an operation about the program says of its success, if it says
anything. -/
def Op.success? (S : Setup σ) (d : Scene σ) : Op σ → Option Bool
  | .resume => some (d.controller.resume S.logged).1.isSome
  | .step k => some (d.controller.step S.logged k).1
  | .stop => some (d.controller.stop S.logged).1
  | .setFrame depth => some (d.controller.setFrame S.logged depth).1
  | .setThread id => some (d.controller.setThread S.logged id).1
  | .showVar name => some (d.controller.showVar S.logged name).1.isSome
  | _ => none

/-- Whether the list that an operation is to fill has results of an earlier
search. -/
def Op.HasResults : Op σ → View → Prop
  | .findFrames _ _, v => v.foundFrames ≠ []
  | .listGlobals _, v => v.globals ≠ []
  | _, _ => False

/-- A view in which the list that an operation is to fill is empty. -/
def Op.lapsed : Op σ → View → View
  | .findFrames _ _, v => { v with foundFrames := [] }
  | .listGlobals _, v => { v with globals := [] }
  | _, v => v

/-- A view with the numbers that a debugger gives to its breakpoints. -/
def View.withNumbers (v : View) (home : Path) (pushed : List Break) : View :=
  { v with breaks := Break.assignAll home v.breaks pushed }

/-! ## Questions and their answers -/

namespace Controller

variable (S : Setup σ) (c : Controller (σ × List Exchange)) (s : Session)

/-- A question is answered with an error, or with what was asked for. -/
theorem ask_cases (call : Call) :
    (∃ e w, c.ask S.logged s call =
      (.error e, { c with world := (w, c.world.2 ++ [⟨s.number, call, .error e⟩]) })) ∨
    ∃ r w, c.ask S.logged s call =
      (.ok r, { c with world := (w, c.world.2 ++ [⟨s.number, call, .ok r⟩]) }) := by
  cases h : c.ask S.logged s call with
  | mk r c' =>
    obtain ⟨w, rfl⟩ := eq_of_ask h
    cases r with
    | error e => exact Or.inl ⟨e, w, rfl⟩
    | ok r => exact Or.inr ⟨r, w, rfl⟩

/-- A question to a program that does not run is not asked, or it is answered
with an error, or with what was asked for. -/
theorem askStopped_cases (call : Call) :
    (c.isAvailable = false ∧ c.askStopped S.logged call = (none, c)) ∨
    (c.isAvailable ∧ ∃ n e w, c.askStopped S.logged call =
      (none, { c with world := (w, c.world.2 ++ [⟨n, call, .error e⟩]) })) ∨
    (c.isAvailable ∧ ∃ n r w, c.askStopped S.logged call =
      (some r, { c with world := (w, c.world.2 ++ [⟨n, call, .ok r⟩]) })) := by
  unfold askStopped
  split
  · next hnone =>
    refine Or.inl ⟨?_, rfl⟩
    rw [isAvailable, isActive, hnone]
    rfl
  · next s hs =>
    cases havail : c.isAvailable with
    | false => exact Or.inl ⟨rfl, rfl⟩
    | true =>
      rcases c.ask_cases S s call with ⟨e, w, hask⟩ | ⟨r, w, hask⟩
      · refine Or.inr (Or.inl ⟨rfl, s.number, e, w, ?_⟩)
        rw [askIf, if_pos rfl, hask]
        rfl
      · refine Or.inr (Or.inr ⟨rfl, s.number, r, w, ?_⟩)
        rw [askIf, if_pos rfl, hask]
        rfl

/-- Sending the breakpoints is answered with an error, or with their
numbers. -/
theorem pushBreaks_cases :
    (∃ e c₁, c.pushBreaks S.logged s = (.error e, c₁) ∧
      c₁.world.2 = c.world.2 ++ [⟨s.number, .updateBreaks c.view.breaks, .error e⟩] ∧
      c₁.view = c.view) ∨
    ∃ pushed c₁, c.pushBreaks S.logged s = (.ok (), c₁) ∧
      c₁.world.2 = c.world.2 ++ [⟨s.number, .updateBreaks c.view.breaks, .ok pushed⟩] ∧
      c₁.view = c.view.withNumbers S.home pushed := by
  rcases c.ask_cases S s (.updateBreaks c.view.breaks) with ⟨e, w, hask⟩ | ⟨pushed, w, hask⟩
  · refine Or.inl ⟨e, { c with
      world := (w, c.world.2 ++ [⟨s.number, .updateBreaks c.view.breaks, .error e⟩]) }, ?_, rfl, rfl⟩
    rw [pushBreaks, hask]
  · refine Or.inr ⟨pushed, { c with
      world := (w, c.world.2 ++ [⟨s.number, .updateBreaks c.view.breaks, .ok pushed⟩])
      view := c.view.withNumbers S.home pushed }, ?_, rfl, rfl⟩
    rw [pushBreaks, hask]
    rfl

/-- A question that is asked only if it is wanted. -/
theorem askIf_cases (wanted : Bool) (call : Call) :
    ∃ o new w, c.askIf S.logged wanted s call = (o, { c with world := (w, c.world.2 ++ new) }) ∧
      ∀ x ∈ new, x.call = call := by
  cases wanted with
  | false =>
    refine ⟨none, [], c.world.1, ?_, fun x hx => absurd hx List.not_mem_nil⟩
    rw [List.append_nil]
    rfl
  | true =>
    cases h : c.ask S.logged s call with
    | mk r c' =>
      obtain ⟨w, rfl⟩ := eq_of_ask h
      refine ⟨r.toOption, [⟨s.number, call, r⟩], w, ?_, fun x hx => ?_⟩
      · rw [askIf, if_pos rfl, h]
      · rw [List.mem_singleton.1 hx]

/-- The questions that follow the report of a state only read. -/
theorem reading_applyState (st : State) :
    ∃ reads, (c.applyState S.logged s st).world.2 = c.world.2 ++ reads ∧
      ∀ x ∈ reads, x.call.isReading := by
  obtain ⟨details, new₁, w₁, hdetails, h₁⟩ := c.askIf_cases S s st.isStopped (.details st)
  obtain ⟨reported, new₂, w₂, hlist, h₂⟩ := Controller.askIf_cases S
    { c with world := (w₁, c.world.2 ++ new₁) } s st.isStopped .listBreaks
  refine ⟨new₁ ++ new₂, ?_, fun x hx => ?_⟩
  · unfold applyState
    rw [hdetails]
    dsimp only
    rw [hlist]
    exact List.append_assoc ..
  · rcases List.mem_append.1 hx with hx | hx
    · rw [h₁ x hx]
      rfl
    · rw [h₂ x hx]
      rfl

/-- How an operation about the program ends: it is refused under some
condition, and otherwise depends on the debugger. `said` is what it says of
its success. -/
inductive Ending (S : Setup σ) (lapse : View → View) (refused : Prop) (said : Option Bool)
    (c c' : Controller (σ × List Exchange)) : Prop where
  /-- It is refused, and asks for nothing. -/
  | refused (guard : refused) (silent : said ≠ some true) (log : c'.world.2 = c.world.2)
    (view : c'.view = lapse c.view)
  /-- The last of its questions is answered with an error. -/
  | error (before : List Exchange) (x : Exchange) (failed : x.failed)
    (asked : x.call.isReading = false) (silent : said ≠ some true)
    (log : c'.world.2 = c.world.2 ++ (before ++ [x]))
    (view : c'.view = (lapse c.view).withNumbers S.home (before.flatMap Exchange.given))
  /-- All its questions are answered. -/
  | answered (granted : ¬ refused) (silent : said ≠ some false) (new : List Exchange)
    (log : c'.world.2 = c.world.2 ++ new) (answers : ∀ x ∈ new, x.failed = false)
  /-- It brings a state, and the debugger is asked about it. -/
  | state (granted : ¬ refused) (silent : said ≠ some false) (before reads : List Exchange)
    (log : c'.world.2 = c.world.2 ++ (before ++ reads))
    (answers : ∀ x ∈ before, x.failed = false) (reading : ∀ x ∈ reads, x.call.isReading)

/-- A session that is missing refuses all that needs one. -/
theorem isAvailable_of_none {τ : Type} {c : Controller τ} (h : c.session = none) :
    c.isAvailable = false := by
  rw [isAvailable, isActive, h]
  rfl

/-- What the record has of the breakpoints that were sent, and of the question
behind them. -/
theorem log_pushed {n : Nat} {bs pushed : List Break} {log log₁ log₂ : List Exchange} {x : Exchange}
    (h : log₁ = log ++ [⟨n, .updateBreaks bs, .ok pushed⟩]) (h' : log₂ = log₁ ++ [x]) :
    log₂ = log ++ ([⟨n, .updateBreaks bs, .ok pushed⟩] ++ [x]) := by
  rw [h', h, List.append_assoc]

theorem ending_resume :
    Ending S id (c.isAvailable = false) (some (c.resume S.logged).1.isSome) c
      (c.resume S.logged).2 := by
  unfold resume
  split
  · next hs => exact .refused (isAvailable_of_none hs) nofun rfl rfl
  · next s hs =>
    split
    · next hrefused => exact .refused (by rwa [Bool.not_eq_true'] at hrefused) nofun rfl rfl
    · next hgrant =>
      rw [Bool.not_eq_true'] at hgrant
      rcases c.pushBreaks_cases S s with ⟨e, c₁, hpush, hlog, hview⟩ | ⟨pushed, c₁, hpush, hlog, hview⟩
      · rw [hpush]
        exact .error [] _ rfl rfl nofun hlog hview
      · rw [hpush]
        dsimp only
        rcases c₁.ask_cases S s .resume with ⟨e, w, hask⟩ | ⟨stream, w, hask⟩
        · rw [hask]
          exact .error _ ⟨s.number, .resume, .error e⟩ rfl rfl nofun (log_pushed hlog rfl)
            (by rw [List.flatMap_singleton]; exact hview)
        · rw [hask]
          refine .answered hgrant nofun _ (log_pushed hlog rfl) fun x hx => ?_
          rcases List.mem_pair.1 hx with rfl | rfl <;> rfl

theorem ending_step (k : StepKind) :
    Ending S id (c.canStep = false) (some (c.step S.logged k).1) c (c.step S.logged k).2 := by
  have hno : (some false : Option Bool) ≠ some true := by decide
  have hyes : (some true : Option Bool) ≠ some false := by decide
  unfold step
  split
  · next hs =>
    refine .refused ?_ hno rfl rfl
    rw [canStep, isAvailable_of_none hs]
    rfl
  · next s hs =>
    split
    · next hrefused => exact .refused (by rwa [Bool.not_eq_true'] at hrefused) hno rfl rfl
    · next hgrant =>
      rw [Bool.not_eq_true'] at hgrant
      rcases c.pushBreaks_cases S s with ⟨e, c₁, hpush, hlog, hview⟩ | ⟨pushed, c₁, hpush, hlog, hview⟩
      · rw [hpush]
        exact .error [] _ rfl rfl hno hlog hview
      · rw [hpush]
        dsimp only
        rcases c₁.ask_cases S s (.step k) with ⟨e, w, hask⟩ | ⟨st, w, hask⟩
        · rw [hask]
          exact .error _ ⟨s.number, .step k, .error e⟩ rfl rfl hno (log_pushed hlog rfl)
            (by rw [List.flatMap_singleton]; exact hview)
        · rw [hask]
          obtain ⟨reads, hreads, hreading⟩ := Controller.reading_applyState S
            { c₁ with world := (w, c₁.world.2 ++ [⟨s.number, .step k, .ok st⟩]) } s st
          have hbefore := log_pushed (x := ⟨s.number, .step k, .ok st⟩) hlog rfl
          have hall := hreads.trans (congrArg (· ++ reads) hbefore)
          rw [List.append_assoc] at hall
          refine .state hgrant hyes _ reads hall ?_ hreading
          intro x hx
          rcases List.mem_pair.1 hx with rfl | rfl <;> rfl

theorem ending_stop :
    Ending S id (c.isActive = false) (some (c.stop S.logged).1) c (c.stop S.logged).2 := by
  unfold stop
  split
  · next hs =>
    refine .refused ?_ nofun rfl rfl
    rw [isActive, hs]
    rfl
  · next s hs =>
    have hgrant : ¬ c.isActive = false := by
      rw [isActive, hs]
      exact nofun
    rcases c.ask_cases S s .stop with ⟨e, w, hask⟩ | ⟨st, w, hask⟩
    · rw [hask]
      exact .error [] ⟨s.number, .stop, .error e⟩ rfl rfl nofun rfl rfl
    · rw [hask]
      obtain ⟨reads, hreads, hreading⟩ := Controller.reading_applyState S
        { c with world := (w, c.world.2 ++ [⟨s.number, .stop, .ok st⟩]) } s st
      refine .state hgrant nofun [⟨s.number, .stop, .ok st⟩] reads ?_ (fun x hx => ?_) hreading
      · rw [← List.append_assoc]
        exact hreads
      · rw [List.mem_singleton.1 hx]
        rfl

/-! Looking around -/

/-- An operation that asks one question of a program that does not run. -/
theorem ending_of_askStopped {lapse : View → View} {refused : Prop} {said : Option Bool}
    {c' : Controller (σ × List Exchange)} (call : Call) (hread : call.isReading = false)
    (hguard : c.isAvailable = false ↔ refused)
    (hnone : ∀ c₁, c.askStopped S.logged call = (none, c₁) →
      said ≠ some true ∧ c'.world.2 = c₁.world.2 ∧ c'.view = lapse c₁.view)
    (hsome : ∀ r c₁, c.askStopped S.logged call = (some r, c₁) →
      said ≠ some false ∧ c'.world.2 = c₁.world.2) : Ending S lapse refused said c c' := by
  rcases c.askStopped_cases S call with
    ⟨hrefused, hask⟩ | ⟨hgrant, n, e, w, hask⟩ | ⟨hgrant, n, r, w, hask⟩
  · obtain ⟨hsilent, hlog, hview⟩ := hnone _ hask
    exact .refused (hguard.1 hrefused) hsilent hlog hview
  · obtain ⟨hsilent, hlog, hview⟩ := hnone _ hask
    exact .error [] ⟨n, call, .error e⟩ rfl hread hsilent hlog hview
  · obtain ⟨hsilent, hlog⟩ := hsome r _ hask
    refine .answered ?_ hsilent [⟨n, call, .ok r⟩] hlog fun x hx => ?_
    · rw [← hguard, hgrant]
      exact nofun
    · rw [List.mem_singleton.1 hx]
      rfl

theorem ending_select (selector : Selector) (frame : Nat) :
    Ending S id (c.isAvailable = false) (some (c.select S.logged selector frame).1) c
      (c.select S.logged selector frame).2 := by
  refine c.ending_of_askStopped S (.detailsAt c.view.state selector frame) rfl Iff.rfl
    (fun c₁ hask => ?_) (fun r c₁ hask => ?_)
  · rw [select, hask]
    exact ⟨nofun, rfl, rfl⟩
  · rw [select, hask]
    exact ⟨nofun, rfl⟩

theorem ending_setThread (n : Nat) :
    Ending S id (c.isAvailable = false) (some (c.setThread S.logged n).1) c
      (c.setThread S.logged n).2 := by
  unfold setThread
  split
  · next hs => exact .refused (isAvailable_of_none hs) nofun rfl rfl
  · exact c.ending_select S _ 0

theorem ending_findFrames (path : Path) (line : Nat) :
    Ending S (fun v => { v with foundFrames := [] }) (c.isAvailable = false) none c
      (c.findFrames S.logged path line).2 := by
  refine c.ending_of_askStopped S (.findFrames c.view.state path line) rfl Iff.rfl
    (fun c₁ hask => ?_) (fun r c₁ hask => ?_)
  · rw [findFrames, hask]
    exact ⟨nofun, rfl, rfl⟩
  · rw [findFrames, hask]
    exact ⟨nofun, rfl⟩

theorem ending_listGlobals (filter : String) :
    Ending S (fun v => { v with globals := [] }) (c.isAvailable = false) none c
      (c.listGlobals S.logged filter).2 := by
  refine c.ending_of_askStopped S (.listGlobals filter) rfl Iff.rfl
    (fun c₁ hask => ?_) (fun r c₁ hask => ?_)
  · rw [listGlobals, hask]
    exact ⟨nofun, rfl, rfl⟩
  · rw [listGlobals, hask]
    exact ⟨nofun, rfl⟩

theorem ending_showVar (name : String) :
    Ending S id (Variable.find? c.view.vars name = none ∧ c.isAvailable = false)
      (some (c.showVar S.logged name).1.isSome) c (c.showVar S.logged name).2 := by
  unfold showVar lookUp
  cases hfind : Variable.find? c.view.vars name with
  | some v =>
    -- It is shown without the debugger, so no question is asked.
    have hgranted : ¬ (some v = none ∧ c.isAvailable = false) := fun h => absurd h.1 nofun
    exact .answered hgranted nofun [] (List.append_nil _).symm
      fun _ hx => absurd hx List.not_mem_nil
  | none =>
    refine c.ending_of_askStopped S (.getVar name c.view.selector c.view.frame) rfl
      (and_iff_right rfl).symm (fun c₁ hask => ?_) (fun r c₁ hask => ?_)
    · dsimp only
      rw [hask]
      exact ⟨nofun, rfl, rfl⟩
    · dsimp only
      rw [hask]
      exact ⟨nofun, rfl⟩

end Controller

namespace Scene

variable {S : Setup σ} {d : Scene σ} {op : Op σ}

/-- **How an operation about the program ends.** -/
theorem ending_after (S : Setup σ) (d : Scene σ) (hop : op.isAboutProgram) :
    Controller.Ending S op.lapsed (op.Refused d.controller) (op.success? S d) d.controller
      (d.after S op).controller := by
  cases op with
  | resume => exact d.controller.ending_resume S
  | step k => exact d.controller.ending_step S k
  | stop => exact d.controller.ending_stop S
  | setFrame depth => exact d.controller.ending_select S _ depth
  | setThread n => exact d.controller.ending_setThread S n
  | findFrames path line => exact d.controller.ending_findFrames S path line
  | listGlobals filter => exact d.controller.ending_listGlobals S filter
  | showVar name => exact d.controller.ending_showVar S name
  | _ => cases hop

/-- A failed operation leaves the view alone, but for numbers that were given
before it failed. -/
structure Spared (S : Setup σ) (d : Scene σ) (op : Op σ) : Prop where
  /-- All else is what it was. -/
  view : (d.after S op).controller.view = d.controller.view.withNumbers S.home (op.given S d)
  /-- A number is given to a breakpoint that has none. -/
  numbers : List.Forall₂ Break.GainsNumber d.breaks (d.after S op).breaks

theorem Spared.of_view
    (h : (d.after S op).controller.view = d.controller.view.withNumbers S.home (op.given S d)) :
    Spared S d op := by
  have hbreaks : (d.after S op).breaks = Break.assignAll S.home d.breaks (op.given S d) :=
    congrArg View.breaks h
  exact ⟨h, hbreaks ▸ Break.gainsNumber_assignAll⟩

/-- An operation about the program fails, does not claim otherwise and leaves
the view with its list empty, or it succeeds and does not claim
otherwise. -/
theorem verdict_after (hop : op.isAboutProgram) :
    (op.Fails S d ∧ op.success? S d ≠ some true ∧
      (d.after S op).controller.view =
        (op.lapsed d.controller.view).withNumbers S.home (op.given S d)) ∨
      (¬ op.Fails S d ∧ op.success? S d ≠ some false) := by
  cases ending_after S d hop with
  | refused guard silent log view =>
    have hasked : op.exchanges S d = [] := exchanges_eq (log.trans (List.append_nil _).symm)
    have hgiven : op.given S d = [] := by rw [Op.given, hasked, List.flatMap_nil]
    refine Or.inl ⟨Or.inl guard, silent, ?_⟩
    rw [view, hgiven]
    rfl
  | error before x failed asked silent log view =>
    have hasked : op.exchanges S d = before ++ [x] := exchanges_eq log
    have hgiven : op.given S d = before.flatMap Exchange.given := by
      rw [Op.given, hasked, List.flatMap_append, List.flatMap_singleton,
        Exchange.given_of_failed failed, List.append_nil]
    have hx : x ∈ op.exchanges S d := by
      rw [hasked]
      exact List.mem_append_right _ (List.mem_singleton.2 rfl)
    exact Or.inl ⟨Or.inr ⟨x, hx, failed, asked⟩, silent, hgiven ▸ view⟩
  | answered granted silent new log answers =>
    have hasked : op.exchanges S d = new := exchanges_eq log
    refine Or.inr ⟨?_, silent⟩
    rintro (hrefused | ⟨x, hx, hfailed, -⟩)
    · exact granted hrefused
    · exact absurd hfailed (Bool.eq_false_iff.1 (answers x (hasked ▸ hx)))
  | state granted silent before reads log answers reading =>
    have hasked : op.exchanges S d = before ++ reads := exchanges_eq log
    refine Or.inr ⟨?_, silent⟩
    rintro (hrefused | ⟨x, hx, hfailed, hread⟩)
    · exact granted hrefused
    · rw [hasked] at hx
      -- A question that failed is one of those that follow the state.
      rcases List.mem_append.1 hx with hx | hx
      · exact absurd hfailed (Bool.eq_false_iff.1 (answers x hx))
      · exact absurd (reading x hx) (Bool.eq_false_iff.1 hread)

/-- **Operations that fail are those that say so**, if they say anything. -/
theorem fails_iff (hop : op.isAboutProgram) {said : Bool} (hsaid : op.success? S d = some said) :
    op.Fails S d ↔ said = false := by
  rcases verdict_after (S := S) (d := d) hop with ⟨hfails, hsilent, -⟩ | ⟨hholds, hsilent⟩
  · rw [hsaid] at hsilent
    cases said with
    | true => exact absurd rfl hsilent
    | false => exact iff_of_true hfails rfl
  · rw [hsaid] at hsilent
    cases said with
    | true => exact iff_of_false hholds nofun
    | false => exact absurd rfl hsilent

/-- **What a failure leaves of the view.** The numbers that were given before
are in it, and the list of a search is empty. -/
theorem view_after_failure (hop : op.isAboutProgram) (hfails : op.Fails S d) :
    (d.after S op).controller.view =
      (op.lapsed d.controller.view).withNumbers S.home (op.given S d) := by
  rcases verdict_after (S := S) (d := d) hop with ⟨-, -, hview⟩ | ⟨hholds, -⟩
  · exact hview
  · exact absurd hfails hholds

/-- Emptying the list of a search shows, numbers or not, exactly if there is
something in it. -/
theorem lapsed_withNumbers_eq_iff (op : Op σ) (v : View) (home : Path) (pushed : List Break) :
    (op.lapsed v).withNumbers home pushed = v.withNumbers home pushed ↔ ¬ op.HasResults v := by
  cases op with
  | findFrames path line =>
    constructor
    · intro h hresults
      exact hresults (congrArg View.foundFrames h).symm
    · intro hempty
      have hnil : v.foundFrames = [] := not_not.1 hempty
      show View.withNumbers { v with foundFrames := [] } home pushed = v.withNumbers home pushed
      rw [← hnil]
  | listGlobals filter =>
    constructor
    · intro h hresults
      exact hresults (congrArg View.globals h).symm
    · intro hempty
      have hnil : v.globals = [] := not_not.1 hempty
      show View.withNumbers { v with globals := [] } home pushed = v.withNumbers home pushed
      rw [← hnil]
  | _ => exact iff_of_true rfl id

/-- **When a failure spares the view.** Whatever the debuggers answer, and
whatever the state of the controller: an operation about the program that is
refused, or that gets an error for an answer, leaves the view but for the
numbers that were given before, exactly if it is not a search whose list has
results of an earlier one. -/
theorem spared_iff (hop : op.isAboutProgram) (hfails : op.Fails S d) :
    Spared S d op ↔ ¬ op.HasResults d.controller.view := by
  have hview := view_after_failure hop hfails
  rw [← lapsed_withNumbers_eq_iff op d.controller.view S.home (op.given S d)]
  constructor
  · intro hspared
    exact hview.symm.trans hspared.view
  · intro hsame
    exact .of_view (hview.trans hsame)

/-- A session with a breakpoint, whose debugger takes the breakpoints and
refuses the step. -/
def tripped : Scene Script :=
  run played (initial { Script.blank with steps := [.error (.other "no connection")] } .hidden
    Command.Sinks.empty) [.addBreak ⟨"/work/main.go"⟩ 10, .start debugged 0 1]

/-- The breakpoint has a number after the step that failed. -/
theorem spared_iff_tripped :
    (Op.step .line).Fails played tripped ∧ tripped.breaks.map Break.id = [0] ∧
    (tripped.after played (.step .line)).breaks.map Break.id = [1] ∧
    Spared played tripped (.step .line) := by
  have hfails : (Op.step .line).Fails played tripped :=
    Or.inr ⟨⟨1, .step .line, .error (.other "no connection")⟩,
      List.mem_cons_of_mem _ List.mem_cons_self, rfl, rfl⟩
  exact ⟨hfails, by decide, by decide, (spared_iff rfl hfails).2 id⟩

/-- A session in which a global variable was found, and a debugger that does
not answer the next search. -/
def searched : Scene Script :=
  run played (initial { Script.blank with globals := [.mk "version" "string" "1.0" []] } .hidden
    Command.Sinks.empty)
    [.start debugged 0 1, .listGlobals "",
      .turn { Script.blank with faults := [("list_globals", .other "no connection")] }]

/-- **A search that fails does not leave what was found before.** -/
theorem not_spared_searched :
    (Op.listGlobals "").Fails played searched ∧
    searched.controller.view.globals.map Variable.name = ["version"] ∧
    (searched.after played (.listGlobals "")).controller.view.globals = [] ∧
    ¬ Spared played searched (.listGlobals "") := by
  have hfails : (Op.listGlobals "").Fails played searched :=
    Or.inr ⟨⟨1, .listGlobals "", .error (.other "no connection")⟩, List.mem_cons_self, rfl, rfl⟩
  have hname : searched.controller.view.globals.map Variable.name = ["version"] := by rfl
  refine ⟨hfails, hname, rfl, ?_⟩
  intro hspared
  have hglobals := congrArg (fun v => v.globals.map Variable.name) hspared.view
  cases hglobals.trans hname

end Scene

end Debug
end CodeDesk
