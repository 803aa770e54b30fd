import CodeDesk.Proofs.Debug.BreakEdit
/-!
# Requests — what the debuggers are asked, and when

An operation makes few requests, and each stands under a guard of the
controller. `Op.Requests` is the table of them, operation by operation, and
`asks_after` says that the table leaves nothing out: what is in the record
after an operation and was not there before is a request of the table to
the session there was, or the request to start the next one.

The guards are read off the state before the operation, which is one atomic
step. That they suffice is `requests_respect_state`: without a session, with
a program that runs and with a step under way nothing is asked that the
state does not allow.
-/

namespace CodeDesk
namespace Debug

namespace Call

/-- Whether a request is for a program that does not run. -/
def needsStopped : Call → Bool
  | resume => true
  | step _ => true
  | updateBreaks _ => true
  | clearBreak _ => true
  | detailsAt _ _ _ => true
  | findFrames _ _ _ => true
  | listGlobals _ => true
  | getVar _ _ _ => true
  | _ => false

/-- Whether a request is for a step. -/
def isStep : Call → Bool
  | step _ => true
  | _ => false

/-- Whether a request is one of those that follow a report of a stopped
program. -/
def isReading : Call → Bool
  | details _ => true
  | listBreaks => true
  | _ => false

theorem needsStopped_of_isReading {r : Call} (h : r.isReading) : r.needsStopped = false := by
  cases r with
  | details st => rfl
  | listBreaks => rfl
  | _ => cases h

theorem needsStopped_of_isStep {r : Call} (h : r.isStep) : r.needsStopped := by
  cases r with
  | step k => rfl
  | _ => cases h

end Call

variable {σ : Type}

/-- The requests of an operation to the session there is. -/
def Op.Requests {τ : Type} (c : Controller τ) (s : Session) : Op σ → Call → Prop
  | .start _ _ _, r => r = .restart ∨ r = .detach s.kills
  | .detach, r => (c.view.status = .running ∧ r = .stop) ∨ r = .detach s.kills
  | .resume, r => c.isAvailable ∧ (r = .updateBreaks c.view.breaks ∨ r = .resume)
  | .step k, r =>
    c.canStep ∧ (r = .updateBreaks c.view.breaks ∨ r = .step k ∨ r.isReading)
  | .stop, r => r = .stop ∨ r.isReading
  | .deleteBreak _ _, r =>
    c.isAvailable ∧ ∃ b ∈ c.view.breaks, b.id ≠ 0 ∧ r = .clearBreak b.id
  | .setFrame depth, r => c.isAvailable ∧ r = .detailsAt c.view.state c.view.selector depth
  | .setThread _, r => c.isAvailable ∧ ∃ selector, r = .detailsAt c.view.state selector 0
  | .findFrames path line, r => c.isAvailable ∧ r = .findFrames c.view.state path line
  | .listGlobals filter, r => c.isAvailable ∧ r = .listGlobals filter
  | .showVar name, r => c.isAvailable ∧ r = .getVar name c.view.selector c.view.frame
  | .varValue name, r => c.isAvailable ∧ r = .getVar name c.view.selector c.view.frame
  | .finish _ _, r => r = .state ∨ r.isReading
  | _, _ => False

/-- What an operation may ask: the session there is, or the next one to
start. -/
inductive Op.Asks {τ : Type} (c : Controller τ) (op : Op σ) (x : Exchange) : Prop where
  | present (s : Session) (session : c.session = some s) (number : x.session = s.number)
    (request : op.Requests c s x.call)
  | next (l : Launch) (latestChange now : Stamp) (isStart : op = .start l latestChange now)
    (number : x.session = c.starts + 1) (request : x.call = .start l)

/-- What a request that needs a stopped program stands on. -/
inductive Op.Grounds {τ : Type} (c : Controller τ) (op : Op σ) : Call → Prop where
  /-- The breakpoints are sent before the program is set going. -/
  | send (goes : op = .resume ∨ ∃ k, op = .step k) : Grounds c op (.updateBreaks c.view.breaks)
  /-- The program runs on. -/
  | resume (goes : op = .resume) : Grounds c op .resume
  /-- The program can take a step, and takes it. -/
  | step (k : StepKind) (goes : op = .step k) (can : c.canStep) : Grounds c op (.step k)
  /-- A breakpoint that is shown has a number. -/
  | clear (b : Break) (mem : b ∈ c.view.breaks) (numbered : b.id ≠ 0) :
    Grounds c op (.clearBreak b.id)
  /-- The user looks around. -/
  | details (selector : Selector) (frame : Nat) :
    Grounds c op (.detailsAt c.view.state selector frame)
  | frames (path : Path) (line : Nat) : Grounds c op (.findFrames c.view.state path line)
  | globals (filter : String) : Grounds c op (.listGlobals filter)
  | variable (name : String) : Grounds c op (.getVar name c.view.selector c.view.frame)

/-- What the debuggers were asked in an operation, with their answers. -/
def Op.exchanges (S : Setup σ) (d : Scene σ) (op : Op σ) : List Exchange :=
  (d.after S op).log.drop d.log.length

theorem Scene.exchanges_eq {S : Setup σ} {d : Scene σ} {op : Op σ} {new : List Exchange}
    (h : (d.after S op).log = d.log ++ new) : op.exchanges S d = new := by
  rw [Op.exchanges, h, List.drop_left]

namespace Controller

variable {S : Setup σ} {P : Exchange → Prop} {c c' c'' : Controller (σ × List Exchange)}
  {s : Session}

/-- A part of an operation in which everything asked is of some kind. -/
def Asked (P : Exchange → Prop) (c c' : Controller (σ × List Exchange)) : Prop :=
  ∃ new, c'.world.2 = c.world.2 ++ new ∧ ∀ x ∈ new, P x

theorem Asked.of_eq (hlog : c'.world.2 = c.world.2) : Asked P c c' :=
  ⟨[], by rw [hlog, List.append_nil], fun _ hx => absurd hx List.not_mem_nil⟩

theorem Asked.refl (P : Exchange → Prop) (c : Controller (σ × List Exchange)) : Asked P c c :=
  .of_eq rfl

theorem Asked.trans (h : Asked P c c') (h' : Asked P c' c'') : Asked P c c'' := by
  obtain ⟨new, hlog, hnew⟩ := h
  obtain ⟨new', hlog', hnew'⟩ := h'
  refine ⟨new ++ new', by rw [hlog', hlog, List.append_assoc], fun x hx => ?_⟩
  exact (List.mem_append.1 hx).elim (hnew x) (hnew' x)

theorem asked_ask {call : Call} {r : Except AdapterError call.Reply}
    (h : c.ask S.logged s call = (r, c')) (hP : P ⟨s.number, call, r⟩) : Asked P c c' := by
  obtain ⟨w, rfl⟩ := eq_of_ask h
  exact ⟨[⟨s.number, call, r⟩], rfl, fun x hx => List.mem_singleton.1 hx ▸ hP⟩

theorem asked_askIf {wanted : Bool} {call : Call} (hP : wanted → ∀ r, P ⟨s.number, call, r⟩) :
    Asked P c (c.askIf S.logged wanted s call).2 := by
  cases wanted with
  | false => exact .refl P c
  | true => exact asked_ask rfl (hP rfl _)

theorem asked_dismiss (hP : ∀ r, P ⟨s.number, .detach s.kills, r⟩) :
    Asked P c (c.dismiss S.logged s) := asked_ask rfl (hP _)

theorem asked_clearShown : Asked P c c.clearShown := by
  unfold clearShown
  split <;> exact .of_eq rfl

/-- Sending the breakpoints is one question, about the list that is
shown. -/
theorem asked_pushBreaks {r : Except AdapterError Unit} (h : c.pushBreaks S.logged s = (r, c'))
    (hP : ∀ r, P ⟨s.number, .updateBreaks c.view.breaks, r⟩) : Asked P c c' := by
  unfold pushBreaks at h
  split at h
  · next heq =>
    cases h
    exact asked_ask heq (hP _)
  · next heq =>
    cases h
    exact (asked_ask heq (hP _)).trans (.of_eq rfl)

theorem asked_applyState (st : State)
    (hP : ∀ call, call.isReading → ∀ r, P ⟨s.number, call, r⟩) :
    Asked P c (c.applyState S.logged s st) := by
  have hdetails : Asked P c (c.askIf S.logged st.isStopped s (.details st)).2 :=
    asked_askIf fun _ => hP _ rfl
  have hlist : ∀ c₁ : Controller (σ × List Exchange),
      Asked P c₁ (c₁.askIf S.logged st.isStopped s .listBreaks).2 :=
    fun c₁ => asked_askIf fun _ => hP _ rfl
  exact (hdetails.trans (hlist _)).trans (.of_eq rfl)

/-! ## Operation by operation -/

variable {op : Op σ}

theorem asks_restart {l : Launch} {latestChange now : Stamp} (hs : c.session = some s)
    (mode : Mode) :
    Asked (Op.Asks c (.start l latestChange now : Op σ)) c (c.restart S.logged s mode).2 := by
  have hP : ∀ r, Op.Asks c (.start l latestChange now : Op σ) ⟨s.number, .restart, r⟩ :=
    fun _ => .present s hs rfl (Or.inl rfl)
  unfold restart
  split
  · next heq => exact (asked_ask heq (hP _)).trans (.of_eq rfl)
  · next heq =>
    refine ((asked_ask heq (hP _)).trans ?_).trans (.of_eq rfl)
    exact Asked.trans (.of_eq rfl) asked_clearShown

theorem asks_readied {l : Launch} {latestChange now : Stamp} :
    Asked (Op.Asks c (.start l latestChange now : Op σ)) c (c.readied S.logged) := by
  unfold readied
  split
  · next old hs =>
    have hidle : Asked (Op.Asks c (.start l latestChange now : Op σ)) c
        { c with session := none } := .of_eq rfl
    have hdismiss := hidle.trans
      (asked_dismiss (S := S) fun _ => .present old hs rfl (Or.inr rfl))
    exact (hdismiss.trans asked_clearShown).trans (.of_eq rfl)
  · exact asked_clearShown.trans (.of_eq rfl)

theorem asks_build (sinks : Command.Sinks) (l : Launch) (latestChange now : Stamp) :
    Asked (Op.Asks c (.start l latestChange now : Op σ)) c (c.build S.logged sinks l now).2.1 := by
  have hnumber : (c.readied S.logged).starts = c.starts :=
    congrArg (·.2.1) (c.roster_readied S.logged)
  have hP : ∀ r, Op.Asks c (.start l latestChange now : Op σ)
      ⟨(c.readied S.logged).starts + 1, .start l, r⟩ :=
    fun _ => .next l latestChange now rfl (congrArg (· + 1) hnumber) rfl
  rw [build_eq]
  dsimp only
  split
  · next heq => exact (asks_readied.trans (asked_ask heq (hP _))).trans (.of_eq rfl)
  · next heq => exact (asks_readied.trans (asked_ask heq (hP _))).trans (.of_eq rfl)

theorem asks_start (sinks : Command.Sinks) (l : Launch) (latestChange now : Stamp) :
    Asked (Op.Asks c (.start l latestChange now : Op σ)) c
      (c.start S.logged sinks l latestChange now).2.1 := by
  rcases c.start_cases S.logged sinks l latestChange now with ⟨s, hs, -, hstart⟩ | ⟨-, hstart⟩
  · rw [hstart]
    exact asks_restart hs l.params.mode
  · rw [hstart]
    exact asks_build sinks l latestChange now

theorem asks_detach : Asked (Op.Asks c (.detach : Op σ)) c (c.detach S.logged) := by
  unfold detach
  split
  · exact .refl _ c
  · next s hs =>
    have hidle : Asked (Op.Asks c (.detach : Op σ)) c { c with session := none } := .of_eq rfl
    have hstop : Asked (Op.Asks c (.detach : Op σ)) c
        (if c.view.status == .running then ({ c with session := none }.ask S.logged s .stop).2
        else { c with session := none }) := by
      split
      · next hrun =>
        refine hidle.trans (asked_ask (Prod.eta _).symm (.present s hs rfl (Or.inl ⟨?_, rfl⟩)))
        exact beq_iff_eq.1 hrun
      · exact hidle
    have hdismissed := hstop.trans
      (asked_dismiss (S := S) fun _ => .present s hs rfl (Or.inr rfl))
    exact (hdismissed.trans asked_clearShown).trans (.of_eq rfl)

theorem asks_resume : Asked (Op.Asks c (.resume : Op σ)) c (c.resume S.logged).2 := by
  unfold resume
  split
  · exact .refl _ c
  · next s hs =>
    split
    · exact .refl _ c
    · next havail =>
      rw [Bool.not_eq_true, Bool.not_eq_false'] at havail
      have hpush : ∀ r, Op.Asks c (.resume : Op σ) ⟨s.number, .updateBreaks c.view.breaks, r⟩ :=
        fun _ => .present s hs rfl ⟨havail, Or.inl rfl⟩
      have hresume : ∀ r, Op.Asks c (.resume : Op σ) ⟨s.number, .resume, r⟩ :=
        fun _ => .present s hs rfl ⟨havail, Or.inr rfl⟩
      split
      · next heq => exact asked_pushBreaks heq hpush
      · next heq =>
        have hpushed := asked_pushBreaks heq hpush
        split
        · next heq => exact hpushed.trans (asked_ask heq (hresume _))
        · next heq => exact (hpushed.trans (asked_ask heq (hresume _))).trans (.of_eq rfl)

theorem asks_step (k : StepKind) :
    Asked (Op.Asks c (.step k : Op σ)) c (c.step S.logged k).2 := by
  unfold step
  split
  · exact .refl _ c
  · next s hs =>
    split
    · exact .refl _ c
    · next hcan =>
      rw [Bool.not_eq_true, Bool.not_eq_false'] at hcan
      have hpush : ∀ r, Op.Asks c (.step k : Op σ) ⟨s.number, .updateBreaks c.view.breaks, r⟩ :=
        fun _ => .present s hs rfl ⟨hcan, Or.inl rfl⟩
      have hstep : ∀ r, Op.Asks c (.step k : Op σ) ⟨s.number, .step k, r⟩ :=
        fun _ => .present s hs rfl ⟨hcan, Or.inr (Or.inl rfl)⟩
      split
      · next heq => exact asked_pushBreaks heq hpush
      · next heq =>
        have hpushed := asked_pushBreaks heq hpush
        split
        · next heq => exact hpushed.trans (asked_ask heq (hstep _))
        · next heq =>
          refine (hpushed.trans (asked_ask heq (hstep _))).trans (asked_applyState _ ?_)
          exact fun _ hread _ => .present s hs rfl ⟨hcan, Or.inr (Or.inr hread)⟩

theorem asks_stop : Asked (Op.Asks c (.stop : Op σ)) c (c.stop S.logged).2 := by
  unfold stop
  split
  · exact .refl _ c
  · next s hs =>
    have hstop : ∀ r, Op.Asks c (.stop : Op σ) ⟨s.number, .stop, r⟩ :=
      fun _ => .present s hs rfl (Or.inl rfl)
    split
    · next heq => exact asked_ask heq (hstop _)
    · next heq =>
      refine (asked_ask heq (hstop _)).trans (asked_applyState _ ?_)
      exact fun _ hread _ => .present s hs rfl (Or.inr hread)

theorem asks_finish (w : Worker) (last : Option State) :
    Asked (Op.Asks c (.finish w last : Op σ)) c (c.finish S.logged w last) := by
  unfold finish
  split
  · exact .refl _ c
  · next s hs =>
    have hread : ∀ call, call.isReading → ∀ r,
        Op.Asks c (.finish w last : Op σ) ⟨s.number, call, r⟩ :=
      fun _ hread _ => .present s hs rfl (Or.inr hread)
    have hstate : ∀ r, Op.Asks c (.finish w last : Op σ) ⟨s.number, .state, r⟩ :=
      fun _ => .present s hs rfl (Or.inl rfl)
    split
    · exact .refl _ c
    · split
      · exact asked_applyState _ hread
      · split
        · next heq => exact (asked_ask heq (hstate _)).trans (asked_applyState _ hread)
        · next heq => exact asked_ask heq (hstate _)

theorem asks_deleteBreak (path : Path) (line : Nat) :
    Asked (Op.Asks c (.deleteBreak path line : Op σ)) c (c.deleteBreak S.logged path line).2 := by
  rcases c.deleteBreak_cases S.logged path line with ⟨-, hsame⟩ | ⟨b, hb, hdelete⟩
  · rw [hsame]
    exact .refl _ c
  · rw [hdelete]
    have hmem : b ∈ c.view.breaks := List.mem_of_find?_eq_some hb
    have htell : Asked (Op.Asks c (.deleteBreak path line : Op σ)) c (c.forget S.logged b) := by
      unfold forget
      split
      · next s hs =>
        split
        · next hif =>
          rw [Bool.and_eq_true, bne_iff_ne] at hif
          exact asked_ask rfl (.present s hs rfl ⟨hif.2, b, hmem, hif.1, rfl⟩)
        · exact .refl _ c
      · exact .refl _ c
    exact htell.trans (.of_eq rfl)

/-- A question to a program that does not run. -/
theorem asks_askStopped {call : Call} (h : c.isAvailable → ∀ s, op.Requests c s call) :
    Asked (op.Asks c) c (c.askStopped S.logged call).2 := by
  unfold askStopped
  split
  · exact .refl _ c
  · next s hs => exact asked_askIf fun havail _ => .present s hs rfl (h havail s)

theorem asks_select {selector : Selector} {frame : Nat}
    (h : c.isAvailable → ∀ s, op.Requests c s (.detailsAt c.view.state selector frame)) :
    Asked (op.Asks c) c (c.select S.logged selector frame).2 := by
  have hask : Asked (op.Asks c) c
      (c.askStopped S.logged (.detailsAt c.view.state selector frame)).2 := asks_askStopped h
  unfold select
  split
  · next heq =>
    rw [heq] at hask
    exact hask
  · next heq =>
    rw [heq] at hask
    exact hask.trans (.of_eq rfl)

theorem asks_setThread (id : Nat) :
    Asked (Op.Asks c (.setThread id : Op σ)) c (c.setThread S.logged id).2 := by
  unfold setThread
  split
  · exact .refl _ c
  · exact asks_select fun havail _ => ⟨havail, _, rfl⟩

theorem asks_lookUp {name : String}
    (h : c.isAvailable → ∀ s, op.Requests c s (.getVar name c.view.selector c.view.frame)) :
    Asked (op.Asks c) c (c.lookUp S.logged name).2 := by
  unfold lookUp
  split
  · exact .refl _ c
  · exact asks_askStopped h

theorem asks_showVar (name : String) :
    Asked (Op.Asks c (.showVar name : Op σ)) c (c.showVar S.logged name).2 := by
  have hlook : Asked (Op.Asks c (.showVar name : Op σ)) c (c.lookUp S.logged name).2 :=
    asks_lookUp fun havail _ => ⟨havail, rfl⟩
  unfold showVar
  split
  · next heq =>
    rw [heq] at hlook
    exact hlook
  · next heq =>
    rw [heq] at hlook
    exact hlook.trans (.of_eq rfl)

end Controller

namespace Scene

variable {S : Setup σ} {d : Scene σ} {op : Op σ} {x : Exchange}

/-- An operation asks what the table says. -/
theorem asked_after (S : Setup σ) (d : Scene σ) (op : Op σ) :
    Controller.Asked (op.Asks d.controller) d.controller (d.after S op).controller := by
  cases op with
  | start l latestChange now => exact Controller.asks_start d.sinks l latestChange now
  | detach => exact Controller.asks_detach
  | resume => exact Controller.asks_resume
  | step k => exact Controller.asks_step k
  | stop => exact Controller.asks_stop
  | addBreak path line =>
    simp only [after, Controller.addBreak]
    split <;> exact .of_eq rfl
  | deleteBreak path line => exact Controller.asks_deleteBreak path line
  | toggleBreak path line =>
    simp only [after, Controller.toggleBreak]
    split <;> exact .of_eq rfl
  | setFrame depth => exact Controller.asks_select fun havail _ => ⟨havail, rfl⟩
  | setThread id => exact Controller.asks_setThread id
  | findFrames path line =>
    have hask : Controller.Asked (Op.Asks d.controller (.findFrames path line : Op σ)) d.controller
        (d.controller.askStopped S.logged (.findFrames d.controller.view.state path line)).2 :=
      Controller.asks_askStopped fun havail _ => ⟨havail, rfl⟩
    exact hask.trans (.of_eq rfl)
  | listGlobals filter =>
    have hask : Controller.Asked (Op.Asks d.controller (.listGlobals filter : Op σ)) d.controller
        (d.controller.askStopped S.logged (.listGlobals filter)).2 :=
      Controller.asks_askStopped fun havail _ => ⟨havail, rfl⟩
    exact hask.trans (.of_eq rfl)
  | showVar name => exact Controller.asks_showVar name
  | varValue name => exact Controller.asks_lookUp fun havail _ => ⟨havail, rfl⟩
  | report status message => exact .of_eq rfl
  | turn world => exact .of_eq rfl
  | close w =>
    simp only [after]
    split
    · split <;> exact .of_eq rfl
    · exact .of_eq rfl
  | finish w last =>
    simp only [after]
    split
    · exact Controller.asks_finish w last
    · exact .of_eq rfl

/-- The record after an operation is the one before it with what the
operation asked. -/
theorem log_append_exchanges (S : Setup σ) (d : Scene σ) (op : Op σ) :
    (d.after S op).log = d.log ++ op.exchanges S d := by
  obtain ⟨new, hlog, -⟩ := asked_after S d op
  have hafter : (d.after S op).log = d.log ++ new := hlog
  rw [exchanges_eq hafter, hafter]

/-- **Every request of an operation is in the table.** -/
theorem asks_after (S : Setup σ) (d : Scene σ) (op : Op σ) :
    ∀ x ∈ op.exchanges S d, op.Asks d.controller x := by
  obtain ⟨new, hlog, hnew⟩ := asked_after S d op
  rw [exchanges_eq hlog]
  exact hnew

/-- What stands in a record that has grown stood there before, or is new. -/
theorem log_split {log new log₁ log₂ : List Exchange} (h : log ++ new = log₁ ++ x :: log₂) :
    (∃ rest, log = log₁ ++ x :: rest) ∨
      ∃ before, new = before ++ x :: log₂ ∧ log₁ = log ++ before := by
  rcases List.append_eq_append_iff.1 h with ⟨before, hlog₁, hnew⟩ | ⟨rest, hlog, hnew⟩
  · exact Or.inr ⟨before, hnew, hlog₁⟩
  · cases rest with
    | nil => exact Or.inr ⟨[], hnew.symm, by rw [hlog, List.append_nil, List.append_nil]⟩
    | cons y rest =>
      obtain ⟨rfl, -⟩ := List.cons.inj hnew
      exact Or.inl ⟨rest, hlog⟩

/-- **Whatever is in the record of a history was asked in one of its
operations**, after all that had been in the record before it. -/
theorem exists_op_of_log {world : σ} {marks : Marks} {sinks : Command.Sinks} {ops : List (Op σ)}
    {log₁ log₂ : List Exchange}
    (h : (run S (initial world marks sinks) ops).log = log₁ ++ x :: log₂) :
    ∃ ops₁ op ops₂ before behind, ops = ops₁ ++ op :: ops₂ ∧
      op.exchanges S (run S (initial world marks sinks) ops₁) = before ++ x :: behind ∧
      log₁ = (run S (initial world marks sinks) ops₁).log ++ before := by
  induction ops using List.reverseRecOn generalizing log₂ with
  | nil =>
    have hempty : (run S (initial world marks sinks) []).log = [] := rfl
    rw [hempty] at h
    exact absurd h.symm (List.append_ne_nil_of_right_ne_nil _ (List.cons_ne_nil _ _))
  | append_singleton ops op ih =>
    rw [run_concat, log_append_exchanges] at h
    rcases log_split h with ⟨rest, hlog⟩ | ⟨before, hnew, hlog₁⟩
    · obtain ⟨ops₁, op', ops₂, before, behind, rfl, hasked, hlog₁⟩ := ih hlog
      refine ⟨ops₁, op', ops₂ ++ [op], before, behind, ?_, hasked, hlog₁⟩
      rw [List.append_assoc, List.cons_append]
    · exact ⟨ops, op, [], before, log₂, rfl, hnew, hlog₁⟩

/-- Something is the case with all that is in the record of a history just if
it is the case with what each operation asked. -/
theorem forall_log_iff {world : σ} {marks : Marks} {sinks : Command.Sinks} {ops : List (Op σ)}
    {p : Exchange → Prop} :
    (∀ x ∈ (run S (initial world marks sinks) ops).log, p x) ↔
      ∀ ops₁ op ops₂, ops = ops₁ ++ op :: ops₂ →
        ∀ x ∈ op.exchanges S (run S (initial world marks sinks) ops₁), p x := by
  constructor
  · rintro hlog ops₁ op ops₂ rfl x hx
    refine hlog x ?_
    rw [run_append, run_cons]
    exact (log_run S _ ops₂).subset (List.mem_of_mem_drop hx)
  · intro hops x hx
    obtain ⟨log₁, log₂, hsplit⟩ := List.append_of_mem hx
    obtain ⟨ops₁, op, ops₂, before, behind, heq, hasked, -⟩ := exists_op_of_log hsplit
    exact hops ops₁ op ops₂ heq x (hasked ▸ List.mem_append_right _ List.mem_cons_self)

/-! ## The state of the program -/

/-- **What a request stands on**, if it needs a stopped program: it is made of
an available one. -/
theorem grounds_of_asks (hx : op.Asks d.controller x) (h : x.call.needsStopped) :
    d.controller.isAvailable ∧ op.Grounds d.controller x.call := by
  obtain ⟨n, call, reply⟩ := x
  cases hx with
  | next l latestChange now hop number request =>
    cases request
    cases h
  | present s session number request =>
    cases op with
    | start l latestChange now => rcases request with rfl | rfl <;> cases h
    | detach => rcases request with ⟨-, rfl⟩ | rfl <;> cases h
    | resume =>
      obtain ⟨havail, rfl | rfl⟩ := request
      · exact ⟨havail, .send (Or.inl rfl)⟩
      · exact ⟨havail, .resume rfl⟩
    | step k =>
      obtain ⟨hcan, rfl | rfl | hread⟩ := request
      · exact ⟨(Bool.and_eq_true_iff.1 hcan).1, .send (Or.inr ⟨k, rfl⟩)⟩
      · exact ⟨(Bool.and_eq_true_iff.1 hcan).1, .step k rfl hcan⟩
      · exact absurd h (Bool.eq_false_iff.1 (Call.needsStopped_of_isReading hread))
    | stop =>
      rcases request with rfl | hread
      · cases h
      · exact absurd h (Bool.eq_false_iff.1 (Call.needsStopped_of_isReading hread))
    | finish w last =>
      rcases request with rfl | hread
      · cases h
      · exact absurd h (Bool.eq_false_iff.1 (Call.needsStopped_of_isReading hread))
    | deleteBreak path line =>
      obtain ⟨havail, b, hb, hne, rfl⟩ := request
      exact ⟨havail, .clear b hb hne⟩
    | setFrame depth =>
      obtain ⟨havail, rfl⟩ := request
      exact ⟨havail, .details _ depth⟩
    | setThread id =>
      obtain ⟨havail, selector, rfl⟩ := request
      exact ⟨havail, .details selector 0⟩
    | findFrames path line =>
      obtain ⟨havail, rfl⟩ := request
      exact ⟨havail, .frames path line⟩
    | listGlobals filter =>
      obtain ⟨havail, rfl⟩ := request
      exact ⟨havail, .globals filter⟩
    | showVar name =>
      obtain ⟨havail, rfl⟩ := request
      exact ⟨havail, .variable name⟩
    | varValue name =>
      obtain ⟨havail, rfl⟩ := request
      exact ⟨havail, .variable name⟩
    | _ => exact request.elim

/-- A step is asked of a program that can take it. -/
theorem canStep_of_asks (hx : op.Asks d.controller x) (h : x.call.isStep) :
    d.controller.canStep := by
  have hgrounds := (grounds_of_asks hx (Call.needsStopped_of_isStep h)).2
  generalize x.call = call at h hgrounds
  cases hgrounds with
  | step k goes can => exact can
  | _ => cases h

/-- A request that the state of the controller allows. -/
structure Respectful {τ : Type} (c : Controller τ) (r : Call) : Prop where
  /-- Without a session there is only one to start. -/
  absent : c.session = none → ∃ l, r = .start l
  /-- A program that is said to run is not asked what needs a stopped one. -/
  running : c.view.status = .running → r.needsStopped = false
  /-- A program that takes a step is not asked for another one. -/
  stepping : c.view.state.nextUp = true → r.isStep = false

/-- What the table allows, the state allows. -/
theorem respectful_of_asks (hx : op.Asks d.controller x) : Respectful d.controller x.call := by
  refine ⟨fun hnone => ?_, fun hrun => ?_, fun hnext => ?_⟩
  · cases hx with
    | present s session number request => cases hnone.symm.trans session
    | next l latestChange now hop number request => exact ⟨l, request⟩
  · by_contra hneeds
    rw [Bool.not_eq_false] at hneeds
    have havail := (grounds_of_asks hx hneeds).1
    rw [Controller.isAvailable, hrun] at havail
    exact absurd (Bool.and_eq_true_iff.1 havail).2 (by decide)
  · by_contra hstep
    rw [Bool.not_eq_false] at hstep
    have hcan := canStep_of_asks hx hstep
    rw [Controller.canStep, hnext] at hcan
    exact absurd (Bool.and_eq_true_iff.1 hcan).2 (by decide)

/-- **Requests respect the state of the program.** Whatever has been done
with a controller, and whatever the debuggers answer: the next operation
asks for nothing but a start if there is no session, for nothing that needs
a stopped program while the program is said to run, and for no step while
one is under way. -/
theorem requests_respect_state {world : σ} {marks : Marks} {sinks : Command.Sinks}
    {ops : List (Op σ)} (hx : x ∈ op.exchanges S (run S (initial world marks sinks) ops)) :
    Respectful (run S (initial world marks sinks) ops).controller x.call :=
  respectful_of_asks (asks_after S _ op x hx)

/-- A program that runs. It is stopped before it is let go, which a program
that runs allows. -/
theorem requests_of_detach :
    ⟨1, .stop, .ok { State.initial with exited := true }⟩ ∈
      Op.detach.exchanges played (unscripted [.start debugged 0 1, .resume]) ∧
    (unscripted [.start debugged 0 1, .resume]).controller.view.status = .running ∧
    Respectful (unscripted [.start debugged 0 1, .resume]).controller .stop := by
  have hstop : ⟨1, .stop, .ok { State.initial with exited := true }⟩ ∈
      Op.detach.exchanges played (unscripted [.start debugged 0 1, .resume]) := List.mem_cons_self
  exact ⟨hstop, rfl, requests_respect_state hstop⟩

end Scene

end Debug
end CodeDesk
