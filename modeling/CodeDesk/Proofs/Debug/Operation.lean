import CodeDesk.Debug.Controller
import CodeDesk.Debug.Script
import Mathlib.Data.List.Induction
/-!
# Operations — a controller in use

A `Scene` is a controller together with what its operations read and write
beside it: the sinks, the workers whose stream has ended and who have not
reported yet, and a record of what the debuggers were asked and what they
answered. The debuggers keep that record themselves (`Adapters.logged`), so
a run over arbitrary debuggers is a run over recorded ones.

A history is a list of `Op`, and each is one atomic step: a call of the
user, a status that a debugger reports by itself, a program that moves on,
or one of the two steps in which a worker is done, the end of its stream
and its report. The two steps may lie as far apart as they like.

`roster_after` says what an operation can do to the session and to the
numbers that sessions and workers have.
-/

namespace CodeDesk
namespace Debug

/-- What a debugger was asked and what it answered. -/
structure Exchange where
  /-- The number of the session. -/
  session : Nat
  /-- The request. -/
  call : Call
  /-- The answer. -/
  reply : Except AdapterError call.Reply

/-- Debuggers that keep a record. -/
def Adapters.logged {σ : Type} (A : Adapters σ) : Adapters (σ × List Exchange) where
  answer n call w :=
    ((A.answer n call w.1).1,
      ((A.answer n call w.1).2, w.2 ++ [⟨n, call, (A.answer n call w.1).1⟩]))
  hasTasks n w := A.hasTasks n w.1
  ended? n w := A.ended? n w.1

/-- The same setup with debuggers that keep a record. -/
def Setup.logged {σ : Type} (S : Setup σ) : Setup (σ × List Exchange) :=
  ⟨S.adapters.logged, S.home⟩

/-- A controller in use. -/
structure Scene (σ : Type) where
  /-- The controller, with the record of its debuggers. -/
  controller : Controller (σ × List Exchange)
  /-- The sinks. -/
  sinks : Command.Sinks
  /-- The workers whose stream has ended, with its last state. -/
  done : List (Worker × Option State)

/-- One thing that happens to a controller in use. -/
inductive Op (σ : Type) where
  /-- Debugging is started. -/
  | start (l : Launch) (latestChange now : Stamp)
  /-- The session is ended. -/
  | detach
  /-- The program runs on. -/
  | resume
  /-- The program takes a step. -/
  | step (k : StepKind)
  /-- The program is stopped. -/
  | stop
  /-- A breakpoint is set. -/
  | addBreak (path : Path) (line : Nat)
  /-- A breakpoint is taken away. -/
  | deleteBreak (path : Path) (line : Nat)
  /-- A breakpoint is switched on or off. -/
  | toggleBreak (path : Path) (line : Nat)
  /-- Another frame is looked at. -/
  | setFrame (depth : Nat)
  /-- Another thread or task is looked at. -/
  | setThread (id : Nat)
  /-- Frames are looked for. -/
  | findFrames (path : Path) (line : Nat)
  /-- Global variables are looked for. -/
  | listGlobals (filter : String)
  /-- A variable is shown. -/
  | showVar (name : String)
  /-- The value of a variable is asked for. -/
  | varValue (name : String)
  /-- A debugger reports a status by itself. -/
  | report (status : Status) (message : String)
  /-- The programs under the debuggers move on. -/
  | turn (world : σ)
  /-- The stream that a worker follows ends. -/
  | close (w : Worker)
  /-- A worker whose stream has ended reports its last state. -/
  | finish (w : Worker) (last : Option State)

/-- Whether an operation is about the session itself. -/
def Op.isAboutSession {σ : Type} : Op σ → Bool
  | .start _ _ _ => true
  | .detach => true
  | _ => false

namespace Scene

variable {σ : Type}

/-- A controller that was not used yet. -/
def initial (world : σ) (marks : Marks) (sinks : Command.Sinks) : Scene σ :=
  ⟨.idle (world, []) marks, sinks, []⟩

/-- The record of the debuggers. -/
def log (d : Scene σ) : List Exchange := d.controller.world.2

/-- The breakpoints that are shown. -/
def breaks (d : Scene σ) : List Break := d.controller.view.breaks

/-- The workers that have not reported, whether their stream has ended or
not. -/
def pending (d : Scene σ) : List Worker := d.controller.workers ++ d.done.map Prod.fst

/-- What is there after one operation. -/
def after (S : Setup σ) (d : Scene σ) : Op σ → Scene σ
  | .start l latestChange now =>
    let r := d.controller.start S.logged d.sinks l latestChange now
    ⟨r.2.1, r.2.2, d.done⟩
  | .detach => { d with controller := d.controller.detach S.logged }
  | .resume => { d with controller := (d.controller.resume S.logged).2 }
  | .step k => { d with controller := (d.controller.step S.logged k).2 }
  | .stop => { d with controller := (d.controller.stop S.logged).2 }
  | .addBreak path line => { d with controller := d.controller.addBreak S.logged path line }
  | .deleteBreak path line =>
    { d with controller := (d.controller.deleteBreak S.logged path line).2 }
  | .toggleBreak path line =>
    { d with controller := (d.controller.toggleBreak S.logged path line).2 }
  | .setFrame depth => { d with controller := (d.controller.setFrame S.logged depth).2 }
  | .setThread id => { d with controller := (d.controller.setThread S.logged id).2 }
  | .findFrames path line =>
    { d with controller := (d.controller.findFrames S.logged path line).2 }
  | .listGlobals filter => { d with controller := (d.controller.listGlobals S.logged filter).2 }
  | .showVar name => { d with controller := (d.controller.showVar S.logged name).2 }
  | .varValue name => { d with controller := (d.controller.varValue S.logged name).2 }
  | .report status message => { d with controller := d.controller.report status message }
  | .turn world => { d with controller := { d.controller with world := (world, d.log) } }
  | .close w =>
    -- The worker has its last state in hand, and nobody knows of it yet.
    match S.logged.adapters.ended? w.stream d.controller.world with
    | some last =>
      if w ∈ d.controller.workers then
        { d with
          controller := { d.controller with workers := d.controller.workers.erase w }
          done := d.done ++ [(w, last)] }
      else d
    | none => d
  | .finish w last =>
    if (w, last) ∈ d.done then
      { d with controller := d.controller.finish S.logged w last, done := d.done.erase (w, last) }
    else d

/-- What is there after a history. -/
def run (S : Setup σ) (d : Scene σ) (ops : List (Op σ)) : Scene σ := ops.foldl (after S) d

/-- Debuggers that play a script. -/
def played : Setup Script := ⟨Script.adapters, ⟨"/home/user"⟩⟩

/-- A program to be debugged. -/
def debugged : Launch := ⟨⟨"/work/app"⟩, ⟨"/work"⟩, Params.blank⟩

/-- A controller in use from the beginning, with a debugger whose script says
nothing. -/
def unscripted (ops : List (Op Script)) : Scene Script :=
  run played (initial Script.blank .hidden Command.Sinks.empty) ops

theorem run_append (S : Setup σ) (d : Scene σ) (ops ops' : List (Op σ)) :
    run S d (ops ++ ops') = run S (run S d ops) ops' := List.foldl_append

theorem run_cons (S : Setup σ) (d : Scene σ) (op : Op σ) (ops : List (Op σ)) :
    run S d (op :: ops) = run S (d.after S op) ops := rfl

theorem run_concat (S : Setup σ) (d : Scene σ) (ops : List (Op σ)) (op : Op σ) :
    run S d (ops ++ [op]) = (run S d ops).after S op := run_append S d ops [op]

/-- What every operation keeps, a history keeps. -/
theorem run_keeps {S : Setup σ} {p : Scene σ → Prop} (hstep : ∀ d op, p d → p (d.after S op))
    {d : Scene σ} (hd : p d) (ops : List (Op σ)) : p (run S d ops) := by
  induction ops generalizing d with
  | nil => exact hd
  | cons op ops ih => exact ih (hstep d op hd)

/-- What an operation keeps just when something is the case, a history keeps
at every point just when that is the case at every operation. -/
theorem run_keeps_iff {S : Setup σ} {p : Scene σ → Prop} {q : Scene σ → Op σ → Prop} {d : Scene σ}
    {ops : List (Op σ)} (hd : p d)
    (hstep : ∀ ops₁ op ops₂, ops = ops₁ ++ op :: ops₂ → p (run S d ops₁) →
      (p ((run S d ops₁).after S op) ↔ q (run S d ops₁) op)) :
    (∀ ops₁ ops₂, ops = ops₁ ++ ops₂ → p (run S d ops₁)) ↔
      ∀ ops₁ op ops₂, ops = ops₁ ++ op :: ops₂ → q (run S d ops₁) op := by
  constructor
  · intro hkeeps ops₁ op ops₂ heq
    have hafter := hkeeps (ops₁ ++ [op]) ops₂ (by rw [heq, List.append_assoc]; rfl)
    rw [run_concat] at hafter
    exact (hstep ops₁ op ops₂ heq (hkeeps ops₁ _ heq)).1 hafter
  · intro hall ops₁
    induction ops₁ using List.reverseRecOn with
    | nil => exact fun _ _ => hd
    | append_singleton ops₁ op ih =>
      intro ops₂ heq
      rw [List.append_assoc, List.singleton_append] at heq
      rw [run_concat]
      exact (hstep ops₁ op ops₂ heq (ih _ heq)).2 (hall ops₁ op ops₂ heq)

/-- A history is gone through operation by operation. -/
theorem forall_split {α : Type} {ops : List α} {q : List α → α → Prop}
    (h : ∀ n (hn : n < ops.length), q (ops.take n) ops[n]) (ops₁ : List α) (op : α)
    (ops₂ : List α) (heq : ops = ops₁ ++ op :: ops₂) : q ops₁ op := by
  subst heq
  have hat := h ops₁.length (by rw [List.length_append, List.length_cons]; omega)
  simpa only [List.take_left, List.getElem_append_right, Nat.le_refl, Nat.sub_self,
    List.getElem_cons_zero] using hat

end Scene

/-! ## The roster -/

namespace Controller

variable {σ : Type} (S : Setup σ) (c : Controller σ) (s : Session)

/-- Who is there: the session, how many there were, and the workers. -/
def roster (c : Controller σ) : Option Session × Nat × List Worker :=
  (c.session, c.starts, c.workers)

@[simp] theorem roster_ask (call : Call) : (c.ask S s call).2.roster = c.roster := rfl

@[simp] theorem roster_askIf (wanted : Bool) (call : Call) :
    (c.askIf S wanted s call).2.roster = c.roster := by cases wanted <;> rfl

@[simp] theorem roster_setStatus (status : Status) : (c.setStatus status).roster = c.roster := rfl

@[simp] theorem roster_resetView (mode : Mode) : (c.resetView mode).roster = c.roster := rfl

@[simp] theorem roster_clearShown : c.clearShown.roster = c.roster := by
  unfold clearShown
  split <;> rfl

@[simp] theorem roster_dismiss : (c.dismiss S s).roster = c.roster := rfl

variable {S c s}

theorem roster_of_ask {call : Call} {r : Except AdapterError call.Reply} {c' : Controller σ}
    (h : c.ask S s call = (r, c')) : c'.roster = c.roster := by
  have hsame := c.roster_ask S s call
  rwa [h] at hsame

theorem roster_of_pushBreaks {r : Except AdapterError Unit} {c' : Controller σ}
    (h : c.pushBreaks S s = (r, c')) : c'.roster = c.roster := by
  unfold pushBreaks at h
  split at h
  · next heq =>
    cases h
    exact roster_of_ask heq
  · next heq =>
    have hsame := roster_of_ask heq
    cases h
    exact hsame

variable (S c s)

@[simp] theorem roster_applyState (st : State) : (c.applyState S s st).roster = c.roster :=
  (roster_askIf S _ s _ _).trans (roster_askIf S c s _ _)

@[simp] theorem roster_askStopped (call : Call) : (c.askStopped S call).2.roster = c.roster := by
  unfold askStopped
  split
  · rfl
  · exact roster_askIf S c _ _ _

/-! What a user does besides starting, ending and running on leaves the
roster as it is. -/

@[simp] theorem roster_finish (w : Worker) (last : Option State) :
    (c.finish S w last).roster = c.roster := by
  unfold finish
  split
  · rfl
  · split
    · rfl
    · split
      · exact roster_applyState S c _ _
      · split
        · next heq => rw [roster_applyState, roster_of_ask heq]
        · next heq => exact roster_of_ask heq

@[simp] theorem roster_step (k : StepKind) : (c.step S k).2.roster = c.roster := by
  unfold step
  split
  · rfl
  · split
    · rfl
    · split
      · next heq => exact roster_of_pushBreaks heq
      · next heq =>
        have hpush := roster_of_pushBreaks heq
        split
        · next heq => rw [← hpush, roster_of_ask heq]
        · next heq =>
          show (applyState S _ _ _).roster = _
          rw [roster_applyState, roster_of_ask heq, hpush]

@[simp] theorem roster_stop : (c.stop S).2.roster = c.roster := by
  unfold stop
  split
  · rfl
  · split
    · next heq => exact roster_of_ask heq
    · next heq =>
      show (applyState S _ _ _).roster = _
      rw [roster_applyState, roster_of_ask heq]

@[simp] theorem roster_addBreak (path : Path) (line : Nat) :
    (c.addBreak S path line).roster = c.roster := by
  unfold addBreak
  split <;> rfl

/-- The controller that has told the debugger to forget a breakpoint, if
the breakpoint has a number. -/
def forget (b : Break) : Controller σ :=
  match c.session with
  | some s => if b.id != 0 && c.isAvailable then (c.ask S s (.clearBreak b.id)).2 else c
  | none => c

/-- Telling the debugger to forget a breakpoint changes nothing else. -/
theorem forget_frame (b : Break) : (c.forget S b).roster = c.roster ∧
    (c.forget S b).view = c.view ∧ (c.forget S b).marks = c.marks := by
  unfold forget
  split
  · split <;> exact ⟨rfl, rfl, rfl⟩
  · exact ⟨rfl, rfl, rfl⟩

/-- Taking a breakpoint away does nothing where there is none. Otherwise
the debugger forgets the breakpoint before it goes from the list. -/
theorem deleteBreak_cases (path : Path) (line : Nat) :
    ((c.view.breaks.find? fun b => b.isAt S.home path line) = none ∧
      (c.deleteBreak S path line).2 = c) ∨
    ∃ b, (c.view.breaks.find? fun b => b.isAt S.home path line) = some b ∧
      (c.deleteBreak S path line).2 = { c.forget S b with
        view := { (c.forget S b).view with
          breaks := (c.forget S b).view.breaks.filter fun e => !e.isAt S.home path line }
        marks := (c.forget S b).marks.setAt path line none }.send .refresh := by
  unfold deleteBreak
  split
  · next hnone => exact Or.inl ⟨hnone, rfl⟩
  · next b hb => exact Or.inr ⟨b, hb, rfl⟩

@[simp] theorem roster_deleteBreak (path : Path) (line : Nat) :
    (c.deleteBreak S path line).2.roster = c.roster := by
  rcases c.deleteBreak_cases S path line with ⟨-, hsame⟩ | ⟨b, -, hdelete⟩
  · rw [hsame]
  · rw [hdelete]
    exact (c.forget_frame S b).1

@[simp] theorem roster_toggleBreak (path : Path) (line : Nat) :
    (c.toggleBreak S path line).2.roster = c.roster := by
  unfold toggleBreak
  split <;> rfl

@[simp] theorem roster_select (selector : Selector) (frame : Nat) :
    (c.select S selector frame).2.roster = c.roster := by
  have hask := c.roster_askStopped S (.detailsAt c.view.state selector frame)
  unfold select
  split <;> next heq => rw [heq] at hask; exact hask

@[simp] theorem roster_setFrame (depth : Nat) : (c.setFrame S depth).2.roster = c.roster :=
  roster_select S c _ _

@[simp] theorem roster_setThread (id : Nat) : (c.setThread S id).2.roster = c.roster := by
  unfold setThread
  split
  · rfl
  · exact roster_select S c _ _

@[simp] theorem roster_findFrames (path : Path) (line : Nat) :
    (c.findFrames S path line).2.roster = c.roster := roster_askStopped S c _

@[simp] theorem roster_listGlobals (filter : String) :
    (c.listGlobals S filter).2.roster = c.roster := roster_askStopped S c _

@[simp] theorem roster_lookUp (name : String) : (c.lookUp S name).2.roster = c.roster := by
  unfold lookUp
  split
  · rfl
  · exact roster_askStopped S c _

@[simp] theorem roster_showVar (name : String) : (c.showVar S name).2.roster = c.roster := by
  have hlook := c.roster_lookUp S name
  unfold showVar
  split <;> next heq => rw [heq] at hlook; exact hlook

@[simp] theorem roster_varValue (name : String) : (c.varValue S name).2.roster = c.roster :=
  roster_lookUp S c name

/-! Starting, ending and running on change the roster. -/

/-- What running on adds: a worker for the session. -/
theorem roster_resume :
    (c.resume S).2.roster = c.roster ∨ ∃ s stream, c.session = some s ∧
      (c.resume S).2.roster = (c.session, c.starts, c.workers ++ [⟨s.number, stream⟩]) := by
  unfold resume
  split
  · exact Or.inl rfl
  · next s hs =>
    split
    · exact Or.inl rfl
    · split
      · next heq => exact Or.inl (roster_of_pushBreaks heq)
      · next heq =>
        have hpush := roster_of_pushBreaks heq
        split
        · next heq => exact Or.inl ((roster_of_ask heq).trans hpush)
        · next stream c' heq =>
          have hsame : c'.roster = c.roster := (roster_of_ask heq).trans hpush
          simp only [roster, Prod.mk.injEq] at hsame
          refine Or.inr ⟨s, stream, hs, ?_⟩
          simp only [roster, setStatus, send, hsame, hs]

/-- The session is gone. -/
theorem roster_detach : (c.detach S).roster = (none, c.starts, c.workers) := by
  unfold detach
  split
  · next hs => simp only [roster, hs]
  · next s _ =>
    show roster (setStatus (resetView (clearShown (dismiss S _ s)) s.mode) .notInit) = _
    rw [roster_setStatus, roster_resetView, roster_clearShown, roster_dismiss]
    split <;> rfl

/-- A session that runs anew is the session it was. -/
theorem roster_restart (mode : Mode) :
    ((c.restart S s mode).1 = .ok () ∧
      (c.restart S s mode).2.roster = (some s, c.starts, c.workers)) ∨
    ((c.restart S s mode).1 ≠ .ok () ∧
      (c.restart S s mode).2.roster = (none, c.starts, c.workers)) := by
  unfold restart
  split
  · next heq => exact Or.inr ⟨nofun, roster_of_ask heq⟩
  · next c' heq =>
    have hsame : c'.roster = (none, c.starts, c.workers) := roster_of_ask heq
    simp only [roster, Prod.mk.injEq] at hsame
    refine Or.inl ⟨rfl, ?_⟩
    rw [roster_setStatus, roster_resetView, roster_clearShown, roster, hsame.2.1, hsame.2.2]

/-- The controller when a session is about to be built: the one there was
has ended. -/
def readied : Controller σ :=
  (match c.session with
    | some old => { c with session := none }.dismiss S old
    | none => c).clearShown.setStatus .building

theorem build_eq (sinks : Command.Sinks) (l : Launch) (now : Stamp) :
    c.build S sinks l now =
      (let s : Session := ⟨(c.readied S).starts + 1, now, l.params.mode⟩
      let sinks := sinks.create (sinkName l.exe) true
      let say (sinks : Command.Sinks) (text : String) :=
        sinks.append (sinkName l.exe) .status none text
      match (c.readied S).ask S s (.start l) with
      | (.error e, c') => (.error e, c'.setStatus .error, say sinks e.message)
      | (.ok said, c') =>
        (.ok (), ({ c' with session := some s, starts := c'.starts + 1 }.resetView
          l.params.mode).setStatus .ready, said.foldl say sinks)) := rfl

theorem roster_readied : (c.readied S).roster = (none, c.starts, c.workers) := by
  unfold readied
  rw [roster_setStatus, roster_clearShown]
  split
  · rfl
  · next hs => simp only [roster, hs]

/-- A session that is built has the next number. -/
theorem roster_build (sinks : Command.Sinks) (l : Launch) (now : Stamp) :
    ((c.build S sinks l now).1 = .ok () ∧ (c.build S sinks l now).2.1.roster =
      (some ⟨c.starts + 1, now, l.params.mode⟩, c.starts + 1, c.workers)) ∨
    ((c.build S sinks l now).1 ≠ .ok () ∧
      (c.build S sinks l now).2.1.roster = (none, c.starts, c.workers)) := by
  have hready := c.roster_readied S
  have hstarts : (c.readied S).starts = c.starts := congrArg (·.2.1) hready
  rw [build_eq]
  dsimp only
  split
  · next heq =>
    refine Or.inr ⟨nofun, ?_⟩
    rw [roster_setStatus, roster_of_ask heq, hready]
  · next c' heq =>
    have hsame : c'.roster = (none, c.starts, c.workers) := by rw [roster_of_ask heq, hready]
    simp only [roster, Prod.mk.injEq] at hsame
    refine Or.inl ⟨rfl, ?_⟩
    rw [roster_setStatus, roster_resetView, roster, hstarts, hsame.2.1, hsame.2.2]

/-- A start runs the session anew in place, or it builds one. -/
theorem start_cases (sinks : Command.Sinks) (l : Launch) (latestChange now : Stamp) :
    (∃ s, c.session = some s ∧ isStale s l.params.mode latestChange = false ∧
      c.start S sinks l latestChange now =
        ((c.restart S s l.params.mode).1, (c.restart S s l.params.mode).2, sinks)) ∨
    ((∀ s, c.session = some s → isStale s l.params.mode latestChange = true) ∧
      c.start S sinks l latestChange now = c.build S sinks l now) := by
  unfold start
  dsimp only
  split
  · next s hs =>
    split
    · next hstale => exact Or.inr ⟨fun s' hs' => Option.some.inj (hs.symm.trans hs') ▸ hstale, rfl⟩
    · next hstale => exact Or.inl ⟨s, hs, Bool.not_eq_true _ ▸ hstale, rfl⟩
  · next hs => exact Or.inr ⟨fun s hs' => (nomatch hs.symm.trans hs'), rfl⟩

end Controller

namespace Scene

variable {σ : Type} {S : Setup σ} {d d' : Scene σ}

/-- What an operation can do to the roster and to the workers that are
done. -/
inductive Turnover (d d' : Scene σ) : Prop where
  /-- Nobody comes, and only a worker that was done may go. -/
  | same (roster : d'.controller.roster = d.controller.roster) (done : d'.done ⊆ d.done)
  /-- The session goes. -/
  | ended (roster : d'.controller.roster = (none, d.controller.starts, d.controller.workers))
    (done : d'.done = d.done)
  /-- A session with the next number takes the place of the one there
  was. -/
  | built (s : Session) (number : s.number = d.controller.starts + 1)
    (roster : d'.controller.roster =
      (some s, d.controller.starts + 1, d.controller.workers))
    (done : d'.done = d.done)
  /-- A worker follows the session. -/
  | resumed (s : Session) (stream : Nat) (session : d.controller.session = some s)
    (roster : d'.controller.roster = (d.controller.session, d.controller.starts,
      d.controller.workers ++ [⟨s.number, stream⟩]))
    (done : d'.done = d.done)
  /-- A worker is done. -/
  | closed (w : Worker) (last : Option State) (worker : w ∈ d.controller.workers)
    (roster : d'.controller.roster =
      (d.controller.session, d.controller.starts, d.controller.workers.erase w))
    (done : d'.done = d.done ++ [(w, last)])

/-- **The only ways to change the roster.** -/
theorem turnover_after (S : Setup σ) (d : Scene σ) (op : Op σ) : Turnover d (d.after S op) := by
  cases op with
  | start l latestChange now =>
    simp only [after]
    rcases d.controller.start_cases S.logged d.sinks l latestChange now with
      ⟨s, hs, -, hstart⟩ | ⟨-, hstart⟩
    · rw [hstart]
      rcases d.controller.roster_restart S.logged s l.params.mode with ⟨-, hroster⟩ | ⟨-, hroster⟩
      · exact .same (by rw [hroster, Controller.roster, hs]) (List.Subset.refl _)
      · exact .ended hroster rfl
    · rw [hstart]
      rcases d.controller.roster_build S.logged d.sinks l now with ⟨-, hroster⟩ | ⟨-, hroster⟩
      · exact .built _ rfl hroster rfl
      · exact .ended hroster rfl
  | detach => exact .ended (d.controller.roster_detach S.logged) rfl
  | resume =>
    rcases d.controller.roster_resume S.logged with hsame | ⟨s, stream, hs, hroster⟩
    · exact .same hsame (List.Subset.refl _)
    · exact .resumed s stream hs hroster rfl
  | step k => exact .same (d.controller.roster_step S.logged k) (List.Subset.refl _)
  | stop => exact .same (d.controller.roster_stop S.logged) (List.Subset.refl _)
  | addBreak path line =>
    exact .same (d.controller.roster_addBreak S.logged path line) (List.Subset.refl _)
  | deleteBreak path line =>
    exact .same (d.controller.roster_deleteBreak S.logged path line) (List.Subset.refl _)
  | toggleBreak path line =>
    exact .same (d.controller.roster_toggleBreak S.logged path line) (List.Subset.refl _)
  | setFrame depth => exact .same (d.controller.roster_setFrame S.logged depth) (List.Subset.refl _)
  | setThread id => exact .same (d.controller.roster_setThread S.logged id) (List.Subset.refl _)
  | findFrames path line =>
    exact .same (d.controller.roster_findFrames S.logged path line) (List.Subset.refl _)
  | listGlobals filter =>
    exact .same (d.controller.roster_listGlobals S.logged filter) (List.Subset.refl _)
  | showVar name => exact .same (d.controller.roster_showVar S.logged name) (List.Subset.refl _)
  | varValue name => exact .same (d.controller.roster_varValue S.logged name) (List.Subset.refl _)
  | report status message => exact .same rfl (List.Subset.refl _)
  | turn world => exact .same rfl (List.Subset.refl _)
  | close w =>
    simp only [after]
    split
    · next last _ =>
      split
      · next hw => exact .closed w last hw rfl rfl
      · exact .same rfl (List.Subset.refl _)
    · exact .same rfl (List.Subset.refl _)
  | finish w last =>
    simp only [after]
    split
    · exact .same (d.controller.roster_finish S.logged w last) List.erase_subset
    · exact .same rfl (List.Subset.refl _)

/-- Nothing but a start and an end touches the session and the number of
sessions. -/
theorem session_after {op : Op σ} (h : op.isAboutSession = false) :
    (d.after S op).controller.session = d.controller.session ∧
      (d.after S op).controller.starts = d.controller.starts := by
  have hof : (d.after S op).controller.roster = d.controller.roster →
      (d.after S op).controller.session = d.controller.session ∧
        (d.after S op).controller.starts = d.controller.starts :=
    fun hroster => ⟨congrArg (·.1) hroster, congrArg (·.2.1) hroster⟩
  cases op with
  | start l latestChange now => cases h
  | detach => cases h
  | resume =>
    rcases d.controller.roster_resume S.logged with hroster | ⟨s, stream, -, hroster⟩
    · exact hof hroster
    · exact ⟨congrArg (·.1) hroster, congrArg (·.2.1) hroster⟩
  | step k => exact hof (d.controller.roster_step S.logged k)
  | stop => exact hof (d.controller.roster_stop S.logged)
  | addBreak path line => exact hof (d.controller.roster_addBreak S.logged path line)
  | deleteBreak path line => exact hof (d.controller.roster_deleteBreak S.logged path line)
  | toggleBreak path line => exact hof (d.controller.roster_toggleBreak S.logged path line)
  | setFrame depth => exact hof (d.controller.roster_setFrame S.logged depth)
  | setThread id => exact hof (d.controller.roster_setThread S.logged id)
  | findFrames path line => exact hof (d.controller.roster_findFrames S.logged path line)
  | listGlobals filter => exact hof (d.controller.roster_listGlobals S.logged filter)
  | showVar name => exact hof (d.controller.roster_showVar S.logged name)
  | varValue name => exact hof (d.controller.roster_varValue S.logged name)
  | report status message => exact ⟨rfl, rfl⟩
  | turn world => exact ⟨rfl, rfl⟩
  | close w =>
    simp only [after]
    split
    · split <;> exact ⟨rfl, rfl⟩
    · exact ⟨rfl, rfl⟩
  | finish w last =>
    simp only [after]
    split
    · have hroster := d.controller.roster_finish S.logged w last
      exact ⟨congrArg (·.1) hroster, congrArg (·.2.1) hroster⟩
    · exact ⟨rfl, rfl⟩

namespace Turnover

/-- Numbers are never given back. -/
theorem starts_le (h : Turnover d d') : d.controller.starts ≤ d'.controller.starts := by
  cases h with
  | same hroster _ => exact Nat.le_of_eq (congrArg (·.2.1) hroster).symm
  | ended hroster _ => exact Nat.le_of_eq (congrArg (·.2.1) hroster).symm
  | built s _ hroster _ =>
    have hstarts : d'.controller.starts = d.controller.starts + 1 := congrArg (·.2.1) hroster
    omega
  | resumed s stream _ hroster _ => exact Nat.le_of_eq (congrArg (·.2.1) hroster).symm
  | closed w last _ hroster _ => exact Nat.le_of_eq (congrArg (·.2.1) hroster).symm

/-- A session was there before, or its number was just given. -/
theorem session (h : Turnover d d') {s : Session} (hs : d'.controller.session = some s) :
    d.controller.session = some s ∨
      (s.number = d.controller.starts + 1 ∧ s.number ≤ d'.controller.starts) := by
  cases h with
  | same hroster _ => exact Or.inl ((congrArg (·.1) hroster).symm.trans hs)
  | ended hroster _ => cases (congrArg (·.1) hroster).symm.trans hs
  | built s' hnumber hroster _ =>
    cases (congrArg (·.1) hroster).symm.trans hs
    have hstarts : d'.controller.starts = d.controller.starts + 1 := congrArg (·.2.1) hroster
    exact Or.inr ⟨hnumber, by omega⟩
  | resumed s' stream _ hroster _ => exact Or.inl ((congrArg (·.1) hroster).symm.trans hs)
  | closed w last _ hroster _ => exact Or.inl ((congrArg (·.1) hroster).symm.trans hs)

/-- A worker that is pending was pending before, or it follows the
session. -/
theorem pending (h : Turnover d d') {w : Worker} (hw : w ∈ d'.pending) :
    w ∈ d.pending ∨ ∃ s, d.controller.session = some s ∧ w.session = s.number := by
  have hkeep : (∀ w ∈ d'.controller.workers, w ∈ d.controller.workers) → d'.done ⊆ d.done →
      w ∈ d.pending := by
    intro hworkers hdone
    rcases List.mem_append.1 hw with hw | hw
    · exact List.mem_append_left _ (hworkers w hw)
    · exact List.mem_append_right _ (List.map_subset _ hdone hw)
  cases h with
  | same hroster hdone =>
    have hworkers : d'.controller.workers = d.controller.workers := congrArg (·.2.2) hroster
    exact Or.inl (hkeep (fun w hw => hworkers ▸ hw) hdone)
  | ended hroster hdone =>
    have hworkers : d'.controller.workers = d.controller.workers := congrArg (·.2.2) hroster
    exact Or.inl (hkeep (fun w hw => hworkers ▸ hw) fun p hp => hdone ▸ hp)
  | built s _ hroster hdone =>
    have hworkers : d'.controller.workers = d.controller.workers := congrArg (·.2.2) hroster
    exact Or.inl (hkeep (fun w hw => hworkers ▸ hw) fun p hp => hdone ▸ hp)
  | resumed s stream hs hroster hdone =>
    have hworkers : d'.controller.workers = d.controller.workers ++ [⟨s.number, stream⟩] :=
      congrArg (·.2.2) hroster
    unfold Scene.pending at hw
    rw [hworkers, hdone, List.append_assoc] at hw
    rcases List.mem_append.1 hw with hw | hw
    · exact Or.inl (List.mem_append_left _ hw)
    · rcases List.mem_cons.1 hw with rfl | hw
      · exact Or.inr ⟨s, hs, rfl⟩
      · exact Or.inl (List.mem_append_right _ hw)
  | closed w' last hmem hroster hdone =>
    -- The worker changes sides: it is pending still.
    have hworkers : d'.controller.workers = d.controller.workers.erase w' :=
      congrArg (·.2.2) hroster
    unfold Scene.pending at hw
    rw [hworkers, hdone, List.map_append, ← List.append_assoc] at hw
    refine Or.inl ?_
    rcases List.mem_append.1 hw with hw | hw
    · rcases List.mem_append.1 hw with hw | hw
      · exact List.mem_append_left _ (List.mem_of_mem_erase hw)
      · exact List.mem_append_right _ hw
    · cases List.mem_singleton.1 hw
      exact List.mem_append_left _ hmem

end Turnover

end Scene

end Debug
end CodeDesk
