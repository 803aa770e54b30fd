import CodeDesk.Proofs.Debug.Request
import CodeDesk.Proofs.Debug.StaleResult
/-!
# Dismissals — how often a debugger is let go

A debugger that was started has a program in its hands until it is told to
let go of it. The record says which debuggers were started (`launches`) and
which were told to let go, and how (`dismissals`); `LetGoOnce` is the law
that a session that is gone was told once, in the way of its mode, and the
session there is was not told yet, so that at most one program is in
somebody's hands (`LetGoOnce.single`).

`Course` is the table of what an operation does to the session and to these
two readings of the record. It has one line that breaks the law: a debugger
that refuses to run its program anew loses its session and is told nothing,
then or later (`Abandoned.run`). Everywhere else a session is told to let go
in the operation that ends it, so the law holds of a history exactly if no
debugger refused to run its program anew (`letGoOnce_iff`).
-/

namespace CodeDesk
namespace Debug

/-- Whether a request is about the session itself. -/
def Call.isAboutSession : Call → Bool
  | start _ => true
  | restart => true
  | detach _ => true
  | _ => false

theorem Call.not_isAboutSession_of_isReading {r : Call} (h : r.isReading) :
    r.isAboutSession = false := by
  cases r with
  | details st => rfl
  | listBreaks => rfl
  | _ => cases h

/-- What a session was started with, if an exchange is its start. -/
def Exchange.launch? (n : Nat) : Exchange → Option Launch
  | ⟨m, .start l, .ok _⟩ => if m = n then some l else none
  | _ => none

/-- Whether a session is to kill its program, if an exchange tells it to let
go. -/
def Exchange.dismissal? (n : Nat) : Exchange → Option Bool
  | ⟨m, .detach kill, _⟩ => if m = n then some kill else none
  | _ => none

/-- Whether a debugger refuses to run its program anew. -/
def Exchange.refusesRestart : Exchange → Bool
  | ⟨_, .restart, .error _⟩ => true
  | _ => false

/-- What a session was started with, once for each start that succeeded. -/
def launches (log : List Exchange) (n : Nat) : List Launch := log.filterMap (Exchange.launch? n)

/-- How a session was told to let go, once for each time. -/
def dismissals (log : List Exchange) (n : Nat) : List Bool :=
  log.filterMap (Exchange.dismissal? n)

/-- Whether the program of a session that was started like this is killed
when the session ends. -/
def Launch.kills (l : Launch) : Bool := l.params.mode != .attach

section Readings

variable {log log' : List Exchange} {n m : Nat}

theorem launches_append : launches (log ++ log') n = launches log n ++ launches log' n :=
  List.filterMap_append

theorem dismissals_append : dismissals (log ++ log') n = dismissals log n ++ dismissals log' n :=
  List.filterMap_append

/-- What a part of the record says: what each session was started with, how
it was told to let go, and whether a restart was refused. -/
structure Reads (log : List Exchange) (started : Nat → List Launch) (told : Nat → List Bool)
    (refused : Bool) : Prop where
  launches : ∀ n, launches log n = started n
  dismissals : ∀ n, dismissals log n = told n
  refusal : log.any Exchange.refusesRestart = refused

/-- What is not about the session is no start, no dismissal and no refusal
to run the program anew. -/
theorem reads_of_not_isAboutSession (h : ∀ x ∈ log, x.call.isAboutSession = false) :
    Reads log (fun _ => []) (fun _ => []) false := by
  refine ⟨fun n => List.filterMap_eq_nil_iff.2 fun x hx => ?_,
    fun n => List.filterMap_eq_nil_iff.2 fun x hx => ?_,
    List.any_eq_false.2 fun x hx => Bool.eq_false_iff.1 ?_⟩
  · have hcall := h x hx
    unfold Exchange.launch?
    split
    · cases hcall
    · rfl
  · have hcall := h x hx
    unfold Exchange.dismissal?
    split
    · cases hcall
    · rfl
  · have hcall := h x hx
    unfold Exchange.refusesRestart
    split
    · cases hcall
    · rfl

theorem launches_start {l : Launch} {said : List String} :
    launches [⟨m, .start l, .ok said⟩] n = if m = n then [l] else [] := by
  simp only [launches, List.filterMap_cons, List.filterMap_nil, Exchange.launch?]
  by_cases hm : m = n
  · rw [if_pos hm, if_pos hm]
  · rw [if_neg hm, if_neg hm]

theorem dismissals_detach {kill : Bool} {r : Except AdapterError Unit} :
    dismissals [⟨m, .detach kill, r⟩] n = if m = n then [kill] else [] := by
  simp only [dismissals, List.filterMap_cons, List.filterMap_nil, Exchange.dismissal?]
  by_cases hm : m = n
  · rw [if_pos hm, if_pos hm]
  · rw [if_neg hm, if_neg hm]

end Readings

variable {σ : Type}

namespace Scene

variable {S : Setup σ} {d : Scene σ} {op : Op σ} {n m : Nat}

/-- How the session there is would be told to let go, and nothing for any
other session. -/
def farewell (d : Scene σ) (n : Nat) : List Bool :=
  match d.controller.session with
  | some s => if s.number = n then [s.kills] else []
  | none => []

/-- A session was started and not told to let go. -/
def Held (d : Scene σ) (n : Nat) : Prop := launches d.log n ≠ [] ∧ dismissals d.log n = []

/-- **Every debugger is let go once**, when its session ends. -/
structure LetGoOnce (d : Scene σ) : Prop where
  /-- A number stands for one debugger. -/
  once : ∀ n, (launches d.log n).length ≤ 1
  /-- The session there is was not told to let go. -/
  present : ∀ n, Current d n → dismissals d.log n = []
  /-- A session that is gone was told once, to kill its program unless it had
  attached itself to it. -/
  gone : ∀ n, ∀ l ∈ launches d.log n, ¬ Current d n → dismissals d.log n = [l.kills]
  /-- No two programs are in the hands of debuggers. -/
  single : ∀ n m, Held d n → Held d m → n = m

/-- What an operation does to the session, and to what the record says of
starts and dismissals. -/
inductive Course (S : Setup σ) (d : Scene σ) (op : Op σ) : Prop where
  /-- The session stays. -/
  | stays (session : (d.after S op).controller.session = d.controller.session)
    (starts : (d.after S op).controller.starts = d.controller.starts)
    (reads : Reads (op.exchanges S d) (fun _ => []) (fun _ => []) false)
  /-- The session is lost: its debugger refuses to run the program anew. -/
  | lost (s : Session) (present : d.controller.session = some s)
    (session : (d.after S op).controller.session = none)
    (starts : (d.after S op).controller.starts = d.controller.starts)
    (reads : Reads (op.exchanges S d) (fun _ => []) (fun _ => []) true)
  /-- The session, if there is one, is told to let go, and none follows. -/
  | ends (session : (d.after S op).controller.session = none)
    (starts : (d.after S op).controller.starts = d.controller.starts)
    (reads : Reads (op.exchanges S d) (fun _ => []) d.farewell false)
  /-- The session, if there is one, is told to let go, and the next one is
  started. -/
  | follows (l : Launch) (now : Stamp)
    (session : (d.after S op).controller.session =
      some ⟨d.controller.starts + 1, now, l.params.mode⟩)
    (starts : (d.after S op).controller.starts = d.controller.starts + 1)
    (reads : Reads (op.exchanges S d) (fun n => if d.controller.starts + 1 = n then [l] else [])
      d.farewell false)

end Scene

/-! ## Operation by operation -/

namespace Controller

variable {S : Setup σ} {c : Controller (σ × List Exchange)} {s : Session}

theorem log_clearShown : c.clearShown.world.2 = c.world.2 := by
  unfold clearShown
  split <;> rfl

/-- Running the program anew is one question, and it succeeds if the answer
does. -/
theorem log_restart (mode : Mode) :
    ∃ r : Except AdapterError Unit,
      (c.restart S.logged s mode).2.world.2 = c.world.2 ++ [⟨s.number, .restart, r⟩] ∧
      ((c.restart S.logged s mode).1 = .ok () ↔ r = .ok ()) := by
  unfold restart
  split
  · next e c' heq =>
    obtain ⟨w, rfl⟩ := eq_of_ask heq
    exact ⟨.error e, rfl, Iff.rfl⟩
  · next c' heq =>
    obtain ⟨w, rfl⟩ := eq_of_ask heq
    exact ⟨.ok (), log_clearShown, Iff.rfl⟩

/-- A session that makes way for another one is told to let go. -/
theorem log_readied :
    ∃ new, (c.readied S.logged).world.2 = c.world.2 ++ new ∧
      ((c.session = none ∧ new = []) ∨
        ∃ s r, c.session = some s ∧ new = [⟨s.number, .detach s.kills, r⟩]) := by
  have hmark : ∀ c' : Controller (σ × List Exchange),
      (c'.clearShown.setStatus .building).world.2 = c'.world.2 := fun _ => log_clearShown
  unfold readied
  rw [hmark]
  split
  · next s hs => exact ⟨_, rfl, Or.inr ⟨s, _, hs, rfl⟩⟩
  · next hs => exact ⟨[], (List.append_nil _).symm, Or.inl ⟨hs, rfl⟩⟩

/-- A start that builds tells the session to let go and asks for the next
one, and it succeeds if the answer does. -/
theorem log_build (sinks : Command.Sinks) (l : Launch) (now : Stamp) :
    ∃ r : Except AdapterError (List String), (c.build S.logged sinks l now).2.1.world.2 =
        (c.readied S.logged).world.2 ++ [⟨c.starts + 1, .start l, r⟩] ∧
      ((c.build S.logged sinks l now).1 = .ok () ↔ ∃ said, r = .ok said) := by
  have hnumber : (c.readied S.logged).starts = c.starts :=
    congrArg (·.2.1) (c.roster_readied S.logged)
  rw [build_eq]
  dsimp only
  split
  · next e c' heq =>
    obtain ⟨w, rfl⟩ := eq_of_ask heq
    refine ⟨.error e, ?_, iff_of_false nofun nofun⟩
    rw [← hnumber]
    rfl
  · next said c' heq =>
    obtain ⟨w, rfl⟩ := eq_of_ask heq
    refine ⟨.ok said, ?_, iff_of_true rfl ⟨said, rfl⟩⟩
    rw [← hnumber]
    rfl

/-- A session that is ended is told to let go, after it was told to stop a
program that runs. -/
theorem log_detach (hs : c.session = some s) :
    ∃ before r, (c.detach S.logged).world.2 =
        c.world.2 ++ (before ++ [⟨s.number, .detach s.kills, r⟩]) ∧
      ∀ x ∈ before, x.call = .stop := by
  unfold detach
  rw [hs]
  dsimp only
  have hmark : ∀ (c' : Controller (σ × List Exchange)) (mode : Mode),
      ((c'.clearShown.resetView mode).setStatus .notInit).world.2 = c'.world.2 :=
    fun _ _ => log_clearShown
  have hask : ∀ (c' : Controller (σ × List Exchange)) (call : Call),
      ∃ r, (c'.ask S.logged s call).2.world.2 = c'.world.2 ++ [⟨s.number, call, r⟩] :=
    fun _ _ => ⟨_, rfl⟩
  rw [hmark]
  split
  · obtain ⟨stopped, hstop⟩ := hask { c with session := none } .stop
    obtain ⟨r, hdismiss⟩ := hask ({ c with session := none }.ask S.logged s .stop).2
      (.detach s.kills)
    refine ⟨[⟨s.number, .stop, stopped⟩], r, ?_, fun x hx => by rw [List.mem_singleton.1 hx]⟩
    rw [dismiss, hdismiss, hstop, List.append_assoc]
  · obtain ⟨r, hdismiss⟩ := hask { c with session := none } (.detach s.kills)
    exact ⟨[], r, hdismiss, fun _ hx => absurd hx List.not_mem_nil⟩

end Controller

namespace Scene

variable {S : Setup σ} {d : Scene σ} {op : Op σ} {n m : Nat}

/-- An operation that is not about the session asks for nothing that
is. -/
theorem not_isAboutSession_of_asks {x : Exchange} (hx : op.Asks d.controller x)
    (h : op.isAboutSession = false) : x.call.isAboutSession = false := by
  obtain ⟨k, call, reply⟩ := x
  cases hx with
  | next l latestChange now hop number request =>
    rw [hop] at h
    cases h
  | present s session number request =>
    cases op with
    | start l latestChange now => cases h
    | detach => cases h
    | resume => rcases request with ⟨-, rfl | rfl⟩ <;> rfl
    | step k =>
      rcases request with ⟨-, rfl | rfl | hread⟩
      · rfl
      · rfl
      · exact Call.not_isAboutSession_of_isReading hread
    | stop =>
      rcases request with rfl | hread
      · rfl
      · exact Call.not_isAboutSession_of_isReading hread
    | finish w last =>
      rcases request with rfl | hread
      · rfl
      · exact Call.not_isAboutSession_of_isReading hread
    | deleteBreak path line => obtain ⟨-, b, -, -, rfl⟩ := request; rfl
    | setFrame depth => obtain ⟨-, rfl⟩ := request; rfl
    | setThread id => obtain ⟨-, selector, rfl⟩ := request; rfl
    | findFrames path line => obtain ⟨-, rfl⟩ := request; rfl
    | listGlobals filter => obtain ⟨-, rfl⟩ := request; rfl
    | showVar name => obtain ⟨-, rfl⟩ := request; rfl
    | varValue name => obtain ⟨-, rfl⟩ := request; rfl
    | _ => exact request.elim

/-- A session that makes way is told to let go, and nothing else. -/
theorem reads_parting {new : List Exchange}
    (h : (d.controller.session = none ∧ new = []) ∨
      ∃ s r, d.controller.session = some s ∧ new = [⟨s.number, .detach s.kills, r⟩]) :
    Reads new (fun _ => []) d.farewell false := by
  unfold farewell
  rcases h with ⟨hs, rfl⟩ | ⟨s, r, hs, rfl⟩
  · rw [hs]
    exact ⟨fun _ => rfl, fun _ => rfl, rfl⟩
  · rw [hs]
    exact ⟨fun _ => rfl, fun _ => dismissals_detach, rfl⟩

theorem course_restart {s : Session} {l : Launch} {latestChange now : Stamp}
    (hs : d.controller.session = some s)
    (hafter : (d.after S (.start l latestChange now)).controller =
      (d.controller.restart S.logged s l.params.mode).2) :
    Course S d (.start l latestChange now) := by
  obtain ⟨r, hlog, hok⟩ :=
    Controller.log_restart (S := S) (c := d.controller) (s := s) l.params.mode
  have hnew : (Op.start l latestChange now : Op σ).exchanges S d = [⟨s.number, .restart, r⟩] :=
    exchanges_eq (by rw [log, hafter, hlog]; rfl)
  rcases d.controller.roster_restart S.logged s l.params.mode with
    ⟨hrestart, hroster⟩ | ⟨hrestart, hroster⟩
  · cases hok.1 hrestart
    have hsession : (d.after S (.start l latestChange now)).controller.session = some s :=
      hafter ▸ congrArg (·.1) hroster
    refine .stays (hsession.trans hs.symm) (hafter ▸ congrArg (·.2.1) hroster) ?_
    rw [hnew]
    exact ⟨fun _ => rfl, fun _ => rfl, rfl⟩
  · cases r with
    | ok u => exact absurd (hok.2 rfl) hrestart
    | error e =>
      refine .lost s hs (hafter ▸ congrArg (·.1) hroster) (hafter ▸ congrArg (·.2.1) hroster) ?_
      rw [hnew]
      exact ⟨fun _ => rfl, fun _ => rfl, rfl⟩

theorem course_build {l : Launch} {latestChange now : Stamp}
    (hafter : (d.after S (.start l latestChange now)).controller =
      (d.controller.build S.logged d.sinks l now).2.1) :
    Course S d (.start l latestChange now) := by
  obtain ⟨new, hready, hparting⟩ := Controller.log_readied (S := S) (c := d.controller)
  obtain ⟨r, hlog, hok⟩ := Controller.log_build (S := S) (c := d.controller) d.sinks l now
  have hnew : (Op.start l latestChange now : Op σ).exchanges S d =
      new ++ [⟨d.controller.starts + 1, .start l, r⟩] := by
    refine exchanges_eq ?_
    rw [log, hafter, hlog, hready, List.append_assoc]
    rfl
  have hread := reads_parting hparting
  rcases d.controller.roster_build S.logged d.sinks l now with
    ⟨hbuild, hroster⟩ | ⟨hbuild, hroster⟩
  · obtain ⟨said, rfl⟩ := hok.1 hbuild
    refine .follows l now (hafter ▸ congrArg (·.1) hroster) (hafter ▸ congrArg (·.2.1) hroster) ?_
    rw [hnew]
    refine ⟨fun n => ?_, fun n => ?_, ?_⟩
    · rw [launches_append, hread.launches, launches_start, List.nil_append]
    · rw [dismissals_append, hread.dismissals]
      exact List.append_nil _
    · rw [List.any_append, hread.refusal]
      rfl
  · cases r with
    | ok said => exact absurd (hok.2 ⟨said, rfl⟩) hbuild
    | error e =>
      refine .ends (hafter ▸ congrArg (·.1) hroster) (hafter ▸ congrArg (·.2.1) hroster) ?_
      rw [hnew]
      refine ⟨fun n => ?_, fun n => ?_, ?_⟩
      · rw [launches_append, hread.launches]
        rfl
      · rw [dismissals_append, hread.dismissals]
        exact List.append_nil _
      · rw [List.any_append, hread.refusal]
        rfl

theorem course_detach : Course S d .detach := by
  have hroster := d.controller.roster_detach S.logged
  have hsession : (d.after S .detach).controller.session = none := congrArg (·.1) hroster
  have hstarts : (d.after S .detach).controller.starts = d.controller.starts :=
    congrArg (·.2.1) hroster
  refine .ends hsession hstarts ?_
  cases hs : d.controller.session with
  | none =>
    have hnew : (Op.detach : Op σ).exchanges S d = [] := by
      refine exchanges_eq ?_
      rw [log, List.append_nil]
      show (d.controller.detach S.logged).world.2 = _
      unfold Controller.detach
      rw [hs]
      rfl
    rw [hnew]
    exact reads_parting (Or.inl ⟨hs, rfl⟩)
  | some s =>
    obtain ⟨before, r, hlog, hstop⟩ := Controller.log_detach (S := S) hs
    have hbefore : Reads before (fun _ => []) (fun _ => []) false :=
      reads_of_not_isAboutSession fun x hx => by rw [hstop x hx]; rfl
    have hread := reads_parting (d := d) (Or.inr ⟨s, r, hs, rfl⟩)
    have hnew : (Op.detach : Op σ).exchanges S d = _ := exchanges_eq hlog
    rw [hnew]
    refine ⟨fun n => ?_, fun n => ?_, ?_⟩
    · rw [launches_append, hbefore.launches, hread.launches, List.nil_append]
    · rw [dismissals_append, hbefore.dismissals, hread.dismissals, List.nil_append]
    · rw [List.any_append, hbefore.refusal, hread.refusal]
      rfl

/-- **What an operation does to the session and the record.** -/
theorem course_after (S : Setup σ) (d : Scene σ) (op : Op σ) : Course S d op := by
  by_cases habout : op.isAboutSession = false
  · have hsession := session_after (S := S) (d := d) habout
    refine .stays hsession.1 hsession.2 (reads_of_not_isAboutSession fun x hx => ?_)
    exact not_isAboutSession_of_asks (asks_after S d op x hx) habout
  · cases op with
    | start l latestChange now =>
      have hafter : (d.after S (.start l latestChange now)).controller =
        (d.controller.start S.logged d.sinks l latestChange now).2.1 := rfl
      rcases d.controller.start_cases S.logged d.sinks l latestChange now with
        ⟨s, hs, -, hstart⟩ | ⟨-, hstart⟩
      · exact course_restart hs (hafter.trans (by rw [hstart]))
      · exact course_build (hafter.trans (by rw [hstart]))
    | detach => exact course_detach
    | _ => exact absurd rfl habout

/-! ## Every state -/

/-- What the record says of the sessions in every state, whatever the
debuggers refuse. -/
structure Recorded (d : Scene σ) : Prop where
  /-- A number that was not given stands nowhere in it. -/
  ahead : ∀ n, d.controller.starts < n → launches d.log n = [] ∧ dismissals d.log n = []
  /-- Nobody was started twice. -/
  once : ∀ n, (launches d.log n).length ≤ 1
  /-- The session there is was started in its mode, and not told to let
  go. -/
  present : ∀ s, d.controller.session = some s → s.number ≤ d.controller.starts ∧
    (∃ l, launches d.log s.number = [l] ∧ l.kills = s.kills) ∧ dismissals d.log s.number = []

theorem farewell_of_current {s : Session} (hs : d.controller.session = some s) :
    d.farewell s.number = [s.kills] := by
  rw [farewell, hs]
  exact if_pos rfl

theorem farewell_of_not_current (h : ¬ Current d n) : d.farewell n = [] := by
  unfold farewell
  split
  · next s hs => exact if_neg fun hn => h ⟨s, hs, hn⟩
  · rfl

theorem Recorded.not_current_of_lt (hd : Recorded d) (h : d.controller.starts < n) :
    ¬ Current d n := by
  rintro ⟨s, hs, rfl⟩
  exact absurd (hd.present s hs).1 (Nat.not_le_of_lt h)

theorem recorded_initial (world : σ) (marks : Marks) (sinks : Command.Sinks) :
    Recorded (initial world marks sinks) :=
  ⟨fun _ _ => ⟨rfl, rfl⟩, fun _ => Nat.zero_le 1, fun s hs => by cases hs⟩

theorem launches_after {started : Nat → List Launch} {told : Nat → List Bool} {refused : Bool}
    (h : Reads (op.exchanges S d) started told refused) (n : Nat) :
    launches (d.after S op).log n = launches d.log n ++ started n := by
  rw [log_append_exchanges, launches_append, h.launches]

theorem dismissals_after {started : Nat → List Launch} {told : Nat → List Bool} {refused : Bool}
    (h : Reads (op.exchanges S d) started told refused) (n : Nat) :
    dismissals (d.after S op).log n = dismissals d.log n ++ told n := by
  rw [log_append_exchanges, dismissals_append, h.dismissals]

/-- A number is given once, and the session that is there was not told to let
go. -/
theorem Recorded.after (hd : Recorded d) (op : Op σ) : Recorded (d.after S op) := by
  cases course_after S d op with
  | stays session starts reads =>
    refine ⟨fun n hn => ?_, fun n => ?_, fun s hs => ?_⟩
    · rw [starts] at hn
      rw [launches_after reads, dismissals_after reads, List.append_nil, List.append_nil]
      exact hd.ahead n hn
    · rw [launches_after reads, List.append_nil]
      exact hd.once n
    · rw [session] at hs
      rw [starts, launches_after reads, dismissals_after reads, List.append_nil, List.append_nil]
      exact hd.present s hs
  | lost s' present session starts reads =>
    refine ⟨fun n hn => ?_, fun n => ?_, fun s hs => by cases session.symm.trans hs⟩
    · rw [starts] at hn
      rw [launches_after reads, dismissals_after reads, List.append_nil, List.append_nil]
      exact hd.ahead n hn
    · rw [launches_after reads, List.append_nil]
      exact hd.once n
  | ends session starts reads =>
    refine ⟨fun n hn => ?_, fun n => ?_, fun s hs => by cases session.symm.trans hs⟩
    · rw [starts] at hn
      rw [launches_after reads, dismissals_after reads,
        farewell_of_not_current (hd.not_current_of_lt hn), List.append_nil, List.append_nil]
      exact hd.ahead n hn
    · rw [launches_after reads, List.append_nil]
      exact hd.once n
  | follows l now session starts reads =>
    have hnew := hd.ahead (d.controller.starts + 1) (Nat.lt_succ_self _)
    have hfarewell : d.farewell (d.controller.starts + 1) = [] :=
      farewell_of_not_current (hd.not_current_of_lt (Nat.lt_succ_self _))
    refine ⟨fun n hn => ?_, fun n => ?_, fun s hs => ?_⟩
    · rw [starts] at hn
      have hlt : d.controller.starts < n := Nat.lt_of_succ_lt hn
      rw [launches_after reads, dismissals_after reads, if_neg (Nat.ne_of_lt hn),
        farewell_of_not_current (hd.not_current_of_lt hlt), List.append_nil, List.append_nil]
      exact hd.ahead n hlt
    · rw [launches_after reads]
      split
      · next heq =>
        rw [← heq, hnew.1]
        exact Nat.le_refl 1
      · rw [List.append_nil]
        exact hd.once n
    · cases session.symm.trans hs
      rw [starts, launches_after reads, dismissals_after reads, hnew.1, hnew.2, hfarewell,
        if_pos rfl]
      exact ⟨Nat.le_refl _, ⟨l, rfl, rfl⟩, rfl⟩

theorem recorded_run (S : Setup σ) (world : σ) (marks : Marks) (sinks : Command.Sinks)
    (ops : List (Op σ)) : Recorded (run S (initial world marks sinks) ops) :=
  run_keeps (fun _ op hd => hd.after op) (recorded_initial world marks sinks) ops

/-! ## One operation -/

/-- The law is about the sessions that are gone. -/
theorem Recorded.letGoOnce_iff_gone (hd : Recorded d) :
    LetGoOnce d ↔
      ∀ n, ∀ l ∈ launches d.log n, ¬ Current d n → dismissals d.log n = [l.kills] := by
  refine ⟨LetGoOnce.gone, fun hgone => ⟨hd.once, ?_, hgone, ?_⟩⟩
  · rintro n ⟨s, hs, rfl⟩
    exact (hd.present s hs).2.2
  · -- Whoever is held is there, and there is one session.
    have hcurrent : ∀ n, Held d n → Current d n := by
      rintro n ⟨hlaunched, hkept⟩
      by_contra hnot
      obtain ⟨l, hl⟩ := List.exists_mem_of_ne_nil _ hlaunched
      rw [hgone n l hl hnot] at hkept
      cases hkept
    intro n m hn hm
    obtain ⟨s, hs, rfl⟩ := hcurrent n hn
    obtain ⟨s', hs', rfl⟩ := hcurrent m hm
    cases hs.symm.trans hs'
    rfl

/-- A session that is told to let go whenever it is there was told so once
when it is gone. -/
theorem LetGoOnce.dismissed (h : LetGoOnce d) (hd : Recorded d) {l : Launch}
    (hl : l ∈ launches d.log n) : dismissals d.log n ++ d.farewell n = [l.kills] := by
  by_cases hcurrent : Current d n
  · obtain ⟨s, hs, rfl⟩ := hcurrent
    obtain ⟨-, ⟨l', hlaunched, hkills⟩, hkept⟩ := hd.present s hs
    rw [hlaunched] at hl
    rw [hkept, farewell_of_current hs, List.mem_singleton.1 hl, hkills]
    rfl
  · rw [h.gone n l hl hcurrent, farewell_of_not_current hcurrent]
    rfl

/-- **One operation** keeps the law unless a debugger refuses in it to run its
program anew. -/
theorem letGoOnce_after_iff (hd : Recorded d) (h : LetGoOnce d) :
    LetGoOnce (d.after S op) ↔ ∀ x ∈ op.exchanges S d, x.refusesRestart = false := by
  have hnone : ∀ {started : Nat → List Launch} {told : Nat → List Bool},
      Reads (op.exchanges S d) started told false →
        ∀ x ∈ op.exchanges S d, x.refusesRestart = false :=
    fun hreads x hx => Bool.eq_false_iff.2 (List.any_eq_false.1 hreads.refusal x hx)
  rw [(hd.after (S := S) op).letGoOnce_iff_gone]
  cases course_after S d op with
  | stays session starts reads =>
    refine iff_of_true (fun n l hl hnot => ?_) (hnone reads)
    rw [launches_after reads, List.append_nil] at hl
    rw [dismissals_after reads, List.append_nil]
    exact h.gone n l hl fun ⟨s, hs, hn⟩ => hnot ⟨s, session.trans hs, hn⟩
  | lost s present session starts reads =>
    obtain ⟨x, hx, hrefused⟩ := List.any_eq_true.1 reads.refusal
    obtain ⟨-, ⟨l, hlaunched, -⟩, hkept⟩ := hd.present s present
    refine iff_of_false (fun hgone => ?_) fun hall => ?_
    · have hl : l ∈ launches (d.after S op).log s.number := by
        rw [launches_after reads, hlaunched]
        exact List.mem_singleton_self l
      have hdismissed := hgone s.number l hl fun ⟨s', hs', _⟩ => by cases session.symm.trans hs'
      rw [dismissals_after reads, hkept] at hdismissed
      cases hdismissed
    · rw [hall x hx] at hrefused
      cases hrefused
  | ends session starts reads =>
    refine iff_of_true (fun n l hl _ => ?_) (hnone reads)
    rw [launches_after reads, List.append_nil] at hl
    rw [dismissals_after reads]
    exact h.dismissed hd hl
  | follows l' now session starts reads =>
    refine iff_of_true (fun n l hl hnot => ?_) (hnone reads)
    have hne : d.controller.starts + 1 ≠ n := fun heq => hnot ⟨_, session, heq⟩
    rw [launches_after reads, if_neg hne, List.append_nil] at hl
    rw [dismissals_after reads]
    exact h.dismissed hd hl

/-! ## Whole histories -/

/-- A session was started and is gone, and was not told to let go. -/
structure Abandoned (d : Scene σ) (n : Nat) : Prop where
  gone : Gone d n
  held : Held d n

/-- A session whose debugger refuses to run its program anew is abandoned. -/
theorem abandoned_of_refused (hd : Recorded d) {x : Exchange} (hx : x ∈ op.exchanges S d)
    (h : x.refusesRestart = true) :
    ∃ s, d.controller.session = some s ∧ Abandoned (d.after S op) s.number := by
  have hrefused : (op.exchanges S d).any Exchange.refusesRestart = true :=
    List.any_eq_true.2 ⟨x, hx, h⟩
  cases course_after S d op with
  | lost s present session starts reads =>
    obtain ⟨hgiven, ⟨l, hlaunched, -⟩, hkept⟩ := hd.present s present
    refine ⟨s, present, ⟨starts ▸ hgiven, fun ⟨s', hs', _⟩ => ?_⟩, ?_, ?_⟩
    · cases session.symm.trans hs'
    · rw [launches_after reads, hlaunched]
      exact List.cons_ne_nil l []
    · rw [dismissals_after reads, hkept]
      rfl
  | stays session starts reads => cases hrefused.symm.trans reads.refusal
  | ends session starts reads => cases hrefused.symm.trans reads.refusal
  | follows l now session starts reads => cases hrefused.symm.trans reads.refusal

/-- Nobody tells a session that is gone to let go. -/
theorem Abandoned.after (h : Abandoned d n) (op : Op σ) : Abandoned (d.after S op) n := by
  have hfarewell := farewell_of_not_current h.gone.absent
  have hkeep : ∀ {started : Nat → List Launch} {told : Nat → List Bool} {refused : Bool},
      Reads (op.exchanges S d) started told refused → told n = [] → Held (d.after S op) n := by
    intro started told refused hreads htold
    rw [Held, launches_after hreads, dismissals_after hreads, htold, h.held.2]
    exact ⟨List.append_ne_nil_of_left_ne_nil h.held.1 _, rfl⟩
  refine ⟨h.gone.after op, ?_⟩
  cases course_after S d op with
  | stays session starts reads => exact hkeep reads rfl
  | lost s present session starts reads => exact hkeep reads rfl
  | ends session starts reads => exact hkeep reads hfarewell
  | follows l now session starts reads => exact hkeep reads hfarewell

/-- **A program that was lost stays in the hands of its debugger**, whatever
is done afterwards. -/
theorem Abandoned.run (h : Abandoned d n) (ops : List (Op σ)) : Abandoned (run S d ops) n :=
  run_keeps (p := fun d => Abandoned d n) (fun _ op h => h.after op) h ops

/-- **How often debuggers are let go.** Whatever is done with a controller and
whatever the debuggers answer: in all states every session that is gone was
told to let go once, in the way of its mode, and no two programs are in the
hands of debuggers, exactly if no debugger refused to run its program
anew. -/
theorem letGoOnce_iff {world : σ} {marks : Marks} {sinks : Command.Sinks} {ops : List (Op σ)} :
    (∀ ops₁ ops₂, ops = ops₁ ++ ops₂ → LetGoOnce (run S (initial world marks sinks) ops₁)) ↔
      ∀ x ∈ (run S (initial world marks sinks) ops).log, x.refusesRestart = false := by
  have hinitial : LetGoOnce (initial world marks sinks) :=
    (recorded_initial world marks sinks).letGoOnce_iff_gone.2
      fun _ _ hl => absurd hl List.not_mem_nil
  rw [forall_log_iff]
  refine run_keeps_iff (q := fun d op => ∀ x ∈ op.exchanges S d, x.refusesRestart = false)
    hinitial ?_
  intro ops₁ op ops₂ _ h
  exact letGoOnce_after_iff (recorded_run S world marks sinks ops₁) h

/-- A session that runs anew in place, makes way for one that is attached to
a process, and that one is ended. -/
def relayed : List (Op Script) :=
  [.start debugged 0 1, .start debugged 0 2,
    .start { debugged with params := { Params.blank with mode := .attach } } 0 3, .detach]

/-- The first program is killed, and the second one is let go. -/
theorem letGoOnce_relayed :
    dismissals (unscripted relayed).log 1 = [true] ∧
    dismissals (unscripted relayed).log 2 = [false] ∧
    ∀ ops₁ ops₂, relayed = ops₁ ++ ops₂ → LetGoOnce (unscripted ops₁) := by
  have hnone : ∀ x ∈ (unscripted relayed).log, x.refusesRestart = false := by decide
  exact ⟨by decide, by decide, letGoOnce_iff.2 hnone⟩

/-- A controller in use with a debugger that refuses to run its program
anew. -/
def balked (ops : List (Op Script)) : Scene Script :=
  run played (initial { Script.blank with faults := [("restart", .other "no connection")] } .hidden
    Command.Sinks.empty) ops

/-- **A program is lost when its debugger refuses to run it anew**: nobody is
told to let go of it, and the next start puts a second program into the
hands of a debugger. -/
theorem not_letGoOnce_balked :
    launches (balked [.start debugged 0 1, .start debugged 0 2]).log 1 = [debugged] ∧
    (balked [.start debugged 0 1, .start debugged 0 2]).controller.session = none ∧
    dismissals (balked [.start debugged 0 1, .start debugged 0 2]).log 1 = [] ∧
    Held (balked [.start debugged 0 1, .start debugged 0 2, .start debugged 0 3]) 1 ∧
    Held (balked [.start debugged 0 1, .start debugged 0 2, .start debugged 0 3]) 2 ∧
    ¬ LetGoOnce (balked [.start debugged 0 1, .start debugged 0 2, .start debugged 0 3]) := by
  have hheld : Held (balked [.start debugged 0 1, .start debugged 0 2, .start debugged 0 3]) 1 ∧
      Held (balked [.start debugged 0 1, .start debugged 0 2, .start debugged 0 3]) 2 := by
    unfold Held
    decide
  refine ⟨by decide, rfl, by decide, hheld.1, hheld.2, fun h => ?_⟩
  exact absurd (h.single 1 2 hheld.1 hheld.2) (by decide)

end Scene

end Debug
end CodeDesk
