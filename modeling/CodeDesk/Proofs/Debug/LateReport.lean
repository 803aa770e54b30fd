import CodeDesk.Proofs.Debug.StaleResult
/-!
# Late reports — what a session that is gone still changes

The debugger of a session is handed a function with which it reports a
status by itself, and it may call it at any time, also when the session has
been ended or has made way for another one. A worker is told apart by its
session (`finish_eq_iff`); a call of that function is not. It says nothing
of the session it was handed to, so what the debugger of a session that is
gone reports is shown as if the session there is had reported it.

`Incident` is an operation together with the session whose debugger calls.
`gone_silent_iff` is the exact condition under which the sessions that are
gone are not heard: each of their calls reports what is shown already.
Right behind an end that is the status and the silence that it leaves
(`silent_after_detach`), right behind a start that of a program that is
ready (`silent_after_start`); any other report is seen.
-/

namespace CodeDesk
namespace Debug

/-- One thing that happens to a controller in use. Of a status that a
debugger reports by itself it is known whose debugger it is. -/
inductive Incident (σ : Type) where
  /-- An operation. -/
  | op (op : Op σ)
  /-- The debugger of a session calls the function that it was handed when
  the session was started. -/
  | call (session : Nat) (status : Status) (message : String)

/-- What an incident does. The function does not know whose it is. -/
def Incident.toOp {σ : Type} : Incident σ → Op σ
  | op o => o
  | call _ status message => .report status message

namespace Scene

variable {σ : Type} {S : Setup σ} {d : Scene σ}

/-- What is there after a history of incidents. -/
def live (S : Setup σ) (d : Scene σ) (h : List (Incident σ)) : Scene σ :=
  run S d (h.map Incident.toOp)

/-- A session was started, and it is not there any more. -/
def Departed (d : Scene σ) (n : Nat) : Prop := 0 < n ∧ Gone d n

/-- Whether a status and a message are those that are shown. -/
def Shows (d : Scene σ) (status : Status) (message : String) : Prop :=
  status = d.controller.view.status ∧ message = d.controller.view.message

theorem live_concat (S : Setup σ) (d : Scene σ) (h : List (Incident σ)) (i : Incident σ) :
    live S d (h ++ [i]) = (live S d h).after S i.toOp := by
  rw [live, List.map_append, List.map_singleton, run_concat]
  rfl

/-- A report leaves the view as it is just when it says what is shown. -/
theorem view_report_iff {status : Status} {message : String} :
    (d.after S (.report status message)).controller.view = d.controller.view ↔
      Shows d status message := by
  constructor
  · intro h
    exact ⟨congrArg View.status h, congrArg View.message h⟩
  · rintro ⟨rfl, rfl⟩
    rfl

/-- **When the sessions that are gone are not heard.** Whatever is done with
a controller and whatever the debuggers report by themselves: no call from a
session that is gone changes the view, exactly if each of them reports the
status and the message that are shown at that moment. -/
theorem gone_silent_iff {world : σ} {marks : Marks} {sinks : Command.Sinks}
    {h : List (Incident σ)} :
    (∀ h₁ n status message h₂, h = h₁ ++ .call n status message :: h₂ →
      Departed (live S (initial world marks sinks) h₁) n →
      (live S (initial world marks sinks) (h₁ ++ [.call n status message])).controller.view =
        (live S (initial world marks sinks) h₁).controller.view) ↔
    ∀ h₁ n status message h₂, h = h₁ ++ .call n status message :: h₂ →
      Departed (live S (initial world marks sinks) h₁) n →
      Shows (live S (initial world marks sinks) h₁) status message := by
  have hcall : ∀ h₁ n status message,
      (live S (initial world marks sinks) (h₁ ++ [.call n status message])).controller.view =
        (live S (initial world marks sinks) h₁).controller.view ↔
      Shows (live S (initial world marks sinks) h₁) status message := by
    intro h₁ n status message
    rw [live_concat]
    exact view_report_iff
  constructor
  · intro hsilent h₁ n status message h₂ heq hgone
    exact (hcall h₁ n status message).1 (hsilent h₁ n status message h₂ heq hgone)
  · intro hshows h₁ n status message h₂ heq hgone
    exact (hcall h₁ n status message).2 (hshows h₁ n status message h₂ heq hgone)

/-- A controller with a debugger whose script says nothing, after a history
of incidents. -/
def unscriptedLive (h : List (Incident Script)) : Scene Script :=
  live played (initial Script.blank .hidden Command.Sinks.empty) h

/-- A session that is started and ended. -/
def letGo : List (Incident Script) := [.op (.start debugged 0 1), .op .detach]

/-- Its debugger reports that there is no session, and says nothing else. -/
def letGoEchoed : List (Incident Script) := letGo ++ [.call 1 .notInit ""]

theorem departed_letGo : Departed (unscriptedLive letGo) 1 := by
  refine ⟨Nat.one_pos, Nat.le_refl 1, ?_⟩
  rintro ⟨s, hs, -⟩
  cases hs

/-- What is shown already changes nothing, whoever reports it. -/
theorem gone_silent_letGo :
    Departed (unscriptedLive letGo) 1 ∧
    ∀ h₁ n status message h₂, letGoEchoed = h₁ ++ .call n status message :: h₂ →
      Departed (unscriptedLive h₁) n →
      (unscriptedLive (h₁ ++ [.call n status message])).controller.view =
        (unscriptedLive h₁).controller.view := by
  refine ⟨departed_letGo, gone_silent_iff.2 fun h₁ n status message h₂ heq _ => ?_⟩
  have hcalls : ∀ k (hk : k < letGoEchoed.length), ∀ n status message,
      letGoEchoed[k] = .call n status message →
        Shows (unscriptedLive (letGoEchoed.take k)) status message := by
    intro k hk n status message hcall
    match k, hk with
    | 0, _ => cases hcall
    | 1, _ => cases hcall
    | 2, _ =>
      cases hcall
      exact ⟨rfl, rfl⟩
  exact forall_split (q := fun h₁ i => ∀ n status message, i = .call n status message →
    Shows (unscriptedLive h₁) status message) hcalls h₁ _ h₂ heq n status message rfl

/-- **A session that is gone is heard**: there is no session that could have
a program, and a program is shown as finished. -/
theorem gone_heard :
    Departed (unscriptedLive letGo) 1 ∧
    (unscriptedLive letGo).controller.view.status = .notInit ∧
    (unscriptedLive (letGo ++ [.call 1 .finished "exited"])).controller.session = none ∧
    (unscriptedLive (letGo ++ [.call 1 .finished "exited"])).controller.view.status = .finished ∧
    (unscriptedLive (letGo ++ [.call 1 .finished "exited"])).controller.view.message = "exited" :=
  ⟨departed_letGo, rfl, rfl, rfl, rfl⟩

/-! ## Right behind an end or a start -/

/-- An end leaves no session, and no message. -/
theorem view_detach {s : Session} (hs : d.controller.session = some s) :
    (d.after S .detach).controller.view.status = .notInit ∧
      (d.after S .detach).controller.view.message = "" := by
  simp only [after, Controller.detach, hs]
  exact ⟨rfl, rfl⟩

/-- A start that succeeded leaves a program that is ready, and no
message. -/
theorem view_start {l : Launch} {latestChange now : Stamp}
    (hok : (d.controller.start S.logged d.sinks l latestChange now).1 = .ok ()) :
    (d.after S (.start l latestChange now)).controller.view.status = .ready ∧
      (d.after S (.start l latestChange now)).controller.view.message = "" := by
  simp only [after]
  rcases d.controller.start_cases S.logged d.sinks l latestChange now with
    ⟨s, -, -, hstart⟩ | ⟨-, hstart⟩
  · rw [hstart] at hok ⊢
    dsimp only at hok ⊢
    unfold Controller.restart at hok ⊢
    split at hok
    · cases hok
    · exact ⟨rfl, rfl⟩
  · rw [hstart, Controller.build_eq] at hok ⊢
    dsimp only at hok ⊢
    split at hok
    · cases hok
    · exact ⟨rfl, rfl⟩

/-- The session that has just been ended is heard, unless it reports that
there is no session. -/
theorem silent_after_detach {s : Session} (hs : d.controller.session = some s) {status : Status}
    {message : String} :
    ((d.after S .detach).after S (.report status message)).controller.view =
        (d.after S .detach).controller.view ↔
      status = .notInit ∧ message = "" := by
  obtain ⟨hstatus, hmessage⟩ := view_detach (S := S) hs
  rw [view_report_iff, Shows, hstatus, hmessage]

/-- The session that has just been replaced is heard, unless it reports what
the new one does. -/
theorem silent_after_start {l : Launch} {latestChange now : Stamp}
    (hok : (d.controller.start S.logged d.sinks l latestChange now).1 = .ok ()) {status : Status}
    {message : String} :
    ((d.after S (.start l latestChange now)).after S (.report status message)).controller.view =
        (d.after S (.start l latestChange now)).controller.view ↔
      status = .ready ∧ message = "" := by
  obtain ⟨hstatus, hmessage⟩ := view_start hok
  rw [view_report_iff, Shows, hstatus, hmessage]

end Scene

end Debug
end CodeDesk
