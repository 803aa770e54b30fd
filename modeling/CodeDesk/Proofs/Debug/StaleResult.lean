import CodeDesk.Proofs.Debug.Operation
/-!
# Stale results — which workers are heard after a start

A worker is told apart by the number of its session. Every session that is
built gets a new number, so what a worker of an earlier one reports is
ignored for good (`Gone.run`). A session that is run anew in place keeps
its number, and a worker from before that is not told apart from one of the
new run: its last state overwrites the newer one (`stale_result_reflected`).

`finish_after_start_iff` is the exact condition: after a start that
succeeded, a worker from before it is ignored unless the start ran the
session of the worker anew in place and that session is still there.
-/

namespace CodeDesk
namespace Debug

namespace Controller

variable {σ : Type} (S : Setup σ) (c : Controller σ) (s : Session)

theorem events_askIf (wanted : Bool) (call : Call) :
    (c.askIf S wanted s call).2.events = c.events := by cases wanted <;> rfl

theorem events_applyState (st : State) :
    (c.applyState S s st).events = c.events ++ [.status st.status, .refresh] := by
  have happlied : (c.applyState S s st).events =
      ((c.askIf S st.isStopped s (.details st)).2.askIf S st.isStopped s .listBreaks).2.events ++
        [.status st.status] ++ [.refresh] := rfl
  rw [happlied, events_askIf, events_askIf, List.append_assoc]
  rfl

end Controller

namespace Scene

variable {σ : Type} {S : Setup σ} {d : Scene σ} {n : Nat} {w : Worker}

/-- The session of a number is there. -/
def Current (d : Scene σ) (n : Nat) : Prop := ∃ s, d.controller.session = some s ∧ s.number = n

/-- A start with these parameters would run the session of a number anew in
place. -/
def RunsAnew (d : Scene σ) (n : Nat) (l : Launch) (latestChange : Stamp) : Prop :=
  ∃ s, d.controller.session = some s ∧ s.number = n ∧
    Controller.isStale s l.params.mode latestChange = false

/-- **A worker is ignored just when its session is not there.** -/
theorem finish_eq_iff (last : Option State) :
    d.controller.finish S.logged w last = d.controller ↔ ¬ Current d w.session := by
  -- A state that is reflected is announced, even if it is the one there was.
  have hevents : ∀ c s st, c.events = d.controller.events →
      Controller.applyState S.logged c s st ≠ d.controller := by
    intro c s st hc heq
    have hgrow := c.events_applyState S.logged s st
    rw [heq, hc] at hgrow
    have := congrArg List.length hgrow
    simp only [List.length_append, List.length_cons, List.length_nil] at this
    omega
  unfold Controller.finish Current
  split
  · next hs =>
    refine iff_of_true rfl ?_
    rintro ⟨s, hs', -⟩
    rw [hs] at hs'
    cases hs'
  · next s hs =>
    split
    · next hne =>
      refine iff_of_true rfl ?_
      rintro ⟨s', hs', hnumber⟩
      cases hs.symm.trans hs'
      exact bne_iff_ne.1 hne hnumber
    · next heq =>
      refine iff_of_false ?_ (not_not_intro ⟨s, hs, by simpa using heq⟩)
      split
      · exact hevents _ _ _ rfl
      · split
        · next heq => exact hevents _ _ _ (congrArg (Controller.events ·.2) heq).symm
        · -- The debugger was asked, which is in its record.
          next c' heq =>
            intro hsame
            have hlog := congrArg (fun r => r.2.world.2.length) heq
            simp only [hsame, Controller.ask, Setup.logged, Adapters.logged, List.length_append,
              List.length_singleton] at hlog
            omega

/-! ## Numbers -/

/-- Sessions and workers have numbers that were given. -/
structure Numbered (d : Scene σ) : Prop where
  session : ∀ s, d.controller.session = some s → s.number ≤ d.controller.starts
  pending : ∀ w ∈ d.pending, w.session ≤ d.controller.starts

/-- A number was given, and its session is not there any more. -/
structure Gone (d : Scene σ) (n : Nat) : Prop where
  given : n ≤ d.controller.starts
  absent : ¬ Current d n

theorem numbered_initial (world : σ) (marks : Marks) (sinks : Command.Sinks) :
    Numbered (initial world marks sinks) := by
  refine ⟨fun s hs => ?_, fun w hw => ?_⟩
  · cases hs
  · cases hw

/-- Numbers are given before they are used. -/
theorem Numbered.after (hd : Numbered d) (op : Op σ) : Numbered (d.after S op) := by
  have hturn := turnover_after S d op
  refine ⟨fun s hs => ?_, fun w hw => ?_⟩
  · rcases hturn.session hs with hold | ⟨-, hgiven⟩
    · exact Nat.le_trans (hd.session s hold) hturn.starts_le
    · exact hgiven
  · rcases hturn.pending hw with hold | ⟨s, hs, hnumber⟩
    · exact Nat.le_trans (hd.pending w hold) hturn.starts_le
    · rw [hnumber]
      exact Nat.le_trans (hd.session s hs) hturn.starts_le

theorem Numbered.run (hd : Numbered d) (ops : List (Op σ)) : Numbered (run S d ops) :=
  run_keeps (fun _ op hd => hd.after op) hd ops

/-- **A session that is gone does not come back**: a session that is built
has a number that was not given before. -/
theorem Gone.after (hn : Gone d n) (op : Op σ) : Gone (d.after S op) n := by
  have hturn := turnover_after S d op
  refine ⟨Nat.le_trans hn.given hturn.starts_le, ?_⟩
  rintro ⟨s, hs, hnumber⟩
  rcases hturn.session hs with hold | ⟨hnew, -⟩
  · exact hn.absent ⟨s, hold, hnumber⟩
  · have := hn.given
    omega

theorem Gone.run (hn : Gone d n) (ops : List (Op σ)) : Gone (run S d ops) n :=
  run_keeps (p := fun d => Gone d n) (fun _ op hn => hn.after op) hn ops

/-! ## Starts -/

/-- After a start that succeeded the session of a pending worker is gone,
unless the start ran it anew in place. -/
theorem gone_start {l : Launch} {latestChange now : Stamp} (hd : Numbered d)
    (hw : w ∈ d.pending)
    (hok : (d.controller.start S.logged d.sinks l latestChange now).1 = .ok ())
    (hnot : ¬ RunsAnew d w.session l latestChange) :
    Gone (d.after S (.start l latestChange now)) w.session := by
  have hgiven := hd.pending w hw
  simp only [after]
  rcases d.controller.start_cases S.logged d.sinks l latestChange now with
    ⟨s, hs, hfresh, hstart⟩ | ⟨-, hstart⟩
  · -- The session that runs anew keeps its number, which is not that of the worker.
    have hother : s.number ≠ w.session := fun hnumber => hnot ⟨s, hs, hnumber, hfresh⟩
    rw [hstart] at hok ⊢
    rcases d.controller.roster_restart S.logged s l.params.mode with ⟨-, hroster⟩ | ⟨herror, -⟩
    · simp only [Controller.roster, Prod.mk.injEq] at hroster
      refine ⟨hroster.2.1.symm ▸ hgiven, ?_⟩
      rintro ⟨s', hs', hnumber⟩
      cases hroster.1.symm.trans hs'
      exact hother hnumber
    · exact absurd hok herror
  · -- The session that is built has a number that no worker has.
    rw [hstart] at hok ⊢
    rcases d.controller.roster_build S.logged d.sinks l now with ⟨-, hroster⟩ | ⟨herror, -⟩
    · simp only [Controller.roster, Prod.mk.injEq] at hroster
      refine ⟨hroster.2.1.symm ▸ Nat.le_succ_of_le hgiven, ?_⟩
      rintro ⟨s', hs', hnumber⟩
      cases hroster.1.symm.trans hs'
      have hnew : d.controller.starts + 1 = w.session := hnumber
      omega
    · exact absurd hok herror

/-- **Which workers are heard after a start.** A worker that was pending
when debugging was started is ignored when its stream has ended, whatever
happened in between, exactly unless the start ran the session of the worker
anew in place and that session is still there. -/
theorem finish_after_start_iff {world : σ} {marks : Marks} {sinks : Command.Sinks}
    {ops₁ ops₂ : List (Op σ)} {l : Launch} {latestChange now : Stamp} {last : Option State}
    (hd : d = run S (initial world marks sinks) ops₁) (hw : w ∈ d.pending)
    (hok : (d.controller.start S.logged d.sinks l latestChange now).1 = .ok ())
    (hdone : (w, last) ∈ (run S d (.start l latestChange now :: ops₂)).done) :
    ((run S d (.start l latestChange now :: ops₂)).after S (.finish w last)).controller =
        (run S d (.start l latestChange now :: ops₂)).controller ↔
      ¬ (RunsAnew d w.session l latestChange ∧
        Current (run S d (.start l latestChange now :: ops₂)) w.session) := by
  have hnumbered : Numbered d := hd ▸ (numbered_initial world marks sinks).run ops₁
  simp only [after, if_pos hdone]
  rw [finish_eq_iff]
  constructor
  · rintro hignored ⟨-, hcurrent⟩
    exact hignored hcurrent
  · intro hnot hcurrent
    have hgone := gone_start hnumbered hw hok fun hanew => hnot ⟨hanew, hcurrent⟩
    exact (hgone.run (S := S) ops₂).absent hcurrent

/-! A program that ends at once. Its worker is done before debugging is
started a second time, and reports after that. -/

/-- The state of a program that has ended. -/
def ended : State := { State.initial with exited := true }

/-- A session that has run on to the end of its program. -/
def runThrough : Scene Script :=
  run played (initial Script.blank .hidden Command.Sinks.empty)
    [.start debugged 0 1, .resume, .close ⟨1, 0⟩]

/-- A worker of a session that was replaced is ignored. -/
theorem finish_after_rebuild :
    (⟨1, 0⟩ ∈ runThrough.pending ∧
      (runThrough.controller.start played.logged runThrough.sinks debugged 2 3).1 = .ok () ∧
      (⟨1, 0⟩, some ended) ∈ (run played runThrough [.start debugged 2 3]).done) ∧
    ((run played runThrough [.start debugged 2 3]).after played
      (.finish ⟨1, 0⟩ (some ended))).controller =
        (run played runThrough [.start debugged 2 3]).controller := by
  have hw : ⟨1, 0⟩ ∈ runThrough.pending := by decide
  have hok : (runThrough.controller.start played.logged runThrough.sinks debugged 2 3).1 =
    .ok () := rfl
  have hdone : (⟨1, 0⟩, some ended) ∈ (run played runThrough [.start debugged 2 3]).done := by
    decide
  refine ⟨⟨hw, hok, hdone⟩, (finish_after_start_iff rfl hw hok hdone).2 ?_⟩
  rintro ⟨⟨s, hs, -, hfresh⟩, -⟩
  cases hs
  exact absurd hfresh (by decide)

/-- **The result of a run that was before a start in place is
reflected**: the program has just been loaded, and is shown as finished. -/
theorem stale_result_reflected :
    ⟨1, 0⟩ ∈ runThrough.pending ∧
    (runThrough.controller.start played.logged runThrough.sinks debugged 0 2).1 = .ok () ∧
    (⟨1, 0⟩, some ended) ∈ (run played runThrough [.start debugged 0 2]).done ∧
    (run played runThrough [.start debugged 0 2]).controller.view.status = .ready ∧
    ((run played runThrough [.start debugged 0 2]).after played
      (.finish ⟨1, 0⟩ (some ended))).controller.view.status = .finished :=
  ⟨by decide, rfl, by decide, rfl, rfl⟩

end Scene

end Debug
end CodeDesk
