import CodeDesk.Command.Runner
/-!
# Stages — what the stage of a worker says about its processes

A process is `Finished` when it has ended, was waited for and its output is
read to the end, and nothing undoes that: all that happens to a process lets
it go on (`LiveProcess.Advances`). What happens to a run from outside leaves
its stage (`Run.Touched`); the rest is done by its worker.

`Run.Sound` says for each stage how many processes there are and which of
them are finished. It is kept by what happens from outside
(`Sound.touched`) and by each stage of the worker, and from the stage on at
which the status line is written it says that all processes are finished.
-/

namespace CodeDesk
namespace Command

namespace LiveProcess

variable {p p' p'' : LiveProcess}

/-- It has ended, its end was waited for, and its output was read. -/
structure Finished (p : LiveProcess) : Prop where
  ended : p.ended.isSome
  reaped : p.reaped
  closed : p.closed

/-- A process and the same process later. -/
structure Advances (p p' : LiveProcess) : Prop where
  ended : p.ended.isSome → p'.ended.isSome
  reaped : p.reaped → p'.reaped
  closed : p.closed → p'.closed

theorem Advances.refl (p : LiveProcess) : Advances p p := ⟨id, id, id⟩

theorem Advances.trans (h : Advances p p') (h' : Advances p' p'') : Advances p p'' :=
  ⟨h'.ended ∘ h.ended, h'.reaped ∘ h.reaped, h'.closed ∘ h.closed⟩

theorem Finished.advances (h : Finished p) (h' : Advances p p') : Finished p' :=
  ⟨h'.ended h.ended, h'.reaped h.reaped, h'.closed h.closed⟩

theorem Finished.not_isAlive (h : Finished p) : p.isAlive = false := by
  rw [isAlive, Option.isNone_eq_false_iff]
  exact h.ended

theorem advances_signal (p : LiveProcess) (n : Nat) (now : Stamp) : Advances p (p.signal n now) := by
  unfold signal
  dsimp only
  split
  · exact ⟨id, id, id⟩
  · refine ⟨fun h => ?_, id, id⟩
    obtain ⟨e, he⟩ := Option.isSome_iff_exists.1 h
    rw [he]
    rfl

theorem advances_shift (p : LiveProcess) : Advances p p.shift := ⟨id, id, id⟩

theorem advances_finish (p : LiveProcess) (e : Machine.Exit) : Advances p (p.finish e) :=
  ⟨fun _ => rfl, id, id⟩

theorem advances_close (p : LiveProcess) : Advances p p.close := ⟨id, id, fun _ => rfl⟩

theorem advances_reap (p : LiveProcess) : Advances p p.reap := ⟨id, fun _ => rfl, id⟩

theorem advances_keep (p : LiveProcess) (bytes : Bytes) (c : Machine.Channel) :
    Advances p (p.keep bytes c) := by
  cases c <;> exact ⟨id, id, id⟩

end LiveProcess

namespace Stage

/-- Whether the worker is at its programs. -/
def isBusy : Stage → Bool
  | decide _ => true
  | spawn _ => true
  | enlist _ => true
  | heed _ => true
  | abandon _ => true
  | await _ => true
  | delist _ => true
  | collect _ => true
  | _ => false

/-- Whether a process of the run may be at work, or may still be started. -/
def isWorking (s : Stage) : Bool := s == idle || s.isBusy

/-- Whether the status line has been written. -/
def isReported : Stage → Bool
  | settle _ => true
  | strike _ => true
  | announce _ => true
  | leave => true
  | gone => true
  | _ => false

/-- Whether the worker has not struck the run off the running table. -/
def isListed : Stage → Bool
  | announce _ => false
  | leave => false
  | gone => false
  | _ => true

theorem isListed_of_isBusy {s : Stage} (h : s.isBusy) : s.isListed := by
  cases s <;> first | rfl | cases h

theorem not_isReported_of_isBusy {s : Stage} (h : s.isBusy) : s.isReported = false := by
  cases s <;> first | rfl | cases h

theorem ne_idle_of_not_isWorking {s : Stage} (h : s.isWorking = false) : s ≠ idle := by
  rintro rfl
  cases h

theorem isListed_of_isWorking {s : Stage} (h : s.isWorking) : s.isListed := by
  cases s <;> first | rfl | cases h

theorem not_isWorking_of_isReported {s : Stage} (h : s.isReported) : s.isWorking = false := by
  cases s <;> first | rfl | cases h

end Stage

namespace Run

variable {run run' run'' : Run} {i k : Nat}

/-- A run after something that happened to it from outside. -/
structure Touched (run run' : Run) : Prop where
  plan : run'.plan = run.plan
  stage : run'.stage = run.stage
  outcome : run'.outcome = run.outcome
  length : run'.processes.length = run.processes.length
  processes : ∀ (j : Nat) (p' : LiveProcess), run'.processes[j]? = some p' →
    ∃ p : LiveProcess, run.processes[j]? = some p ∧ p.Advances p'

theorem Touched.refl (run : Run) : Touched run run :=
  ⟨rfl, rfl, rfl, rfl, fun _ p' hp' => ⟨p', hp', .refl p'⟩⟩

theorem Touched.trans (h : Touched run run') (h' : Touched run' run'') : Touched run run'' := by
  refine ⟨h'.plan.trans h.plan, h'.stage.trans h.stage, h'.outcome.trans h.outcome,
    h'.length.trans h.length, ?_⟩
  intro j p'' hp''
  obtain ⟨p', hp', hadvances'⟩ := h'.processes j p'' hp''
  obtain ⟨p, hp, hadvances⟩ := h.processes j p' hp'
  exact ⟨p, hp, hadvances.trans hadvances'⟩

theorem touched_onProcess (run : Run) (i : Nat) {f : LiveProcess → LiveProcess}
    (hf : ∀ p : LiveProcess, p.Advances (f p)) : Touched run (run.onProcess i f) := by
  refine ⟨rfl, rfl, rfl, List.length_modify .., fun j p' hp' => ?_⟩
  rw [onProcess, List.getElem?_modify] at hp'
  obtain ⟨p, hp, rfl⟩ := Option.map_eq_some_iff.1 hp'
  refine ⟨p, hp, ?_⟩
  split
  · exact hf p
  · exact .refl p

theorem touched_signalListed (run : Run) (n : Nat) (now : Stamp) :
    Touched run (run.signalListed n now) := by
  unfold signalListed
  generalize run.listed = listed
  induction listed generalizing run with
  | nil => exact .refl run
  | cons i rest ih =>
    exact (touched_onProcess run i fun p => p.advances_signal n now).trans (ih _)

/-! ## What a stage says -/

/-- The first processes are finished. -/
def Through (run : Run) (k : Nat) : Prop :=
  ∀ j < k, ∀ p, run.processes[j]? = some p → p.Finished

/-- The end of a process was waited for. -/
def Waited (run : Run) (i : Nat) : Prop :=
  ∀ p, run.processes[i]? = some p → p.ended.isSome ∧ p.reaped

/-- What the stage of the worker says about the processes. -/
def Sound (run : Run) : Prop :=
  match run.stage with
  | .idle => run.processes.length = 0
  | .decide i | .spawn i => run.processes.length = i ∧ (run.plan.wait → run.Through i)
  | .enlist i | .heed i => run.processes.length = i + 1 ∧ (run.plan.wait → run.Through i)
  | .abandon _ => run.plan.wait = false
  | .await i =>
    i < run.processes.length ∧ run.Through i ∧ (run.plan.wait → run.processes.length = i + 1)
  | .delist i | .collect i =>
    i < run.processes.length ∧ run.Through i ∧ (run.plan.wait → run.processes.length = i + 1) ∧
      run.Waited i
  | _ => run.Through run.processes.length

theorem Through.touched (h : run.Through k) (ht : Touched run run') : run'.Through k := by
  intro j hj p' hp'
  obtain ⟨p, hp, hadvances⟩ := ht.processes j p' hp'
  exact (h j hj p hp).advances hadvances

/-- One more process is finished. -/
theorem Through.succ (h : run.Through i) {p : LiveProcess} (hp : run.processes[i]? = some p)
    (hfinished : p.Finished) : run.Through (i + 1) := by
  intro j hj q hq
  rcases Nat.lt_succ_iff_lt_or_eq.1 hj with hlt | rfl
  · exact h j hlt q hq
  · rw [hp] at hq
    cases hq
    exact hfinished

/-- **All processes are finished when the worker is through with them.** -/
theorem Sound.finished (h : run.Sound) (hthrough : run.stage.isWorking = false) :
    ∀ p ∈ run.processes, p.Finished := by
  have hall : run.Through run.processes.length := by
    unfold Sound at h
    cases hs : run.stage <;> rw [hs] at h hthrough <;> first | exact h | cases hthrough
  intro p hp
  obtain ⟨j, hj, rfl⟩ := List.getElem_of_mem hp
  exact hall j hj _ (List.getElem?_eq_getElem hj)

/-- Nothing more is said of the stages then. -/
theorem Sound.ending (h : run.Sound) (hthrough : run.stage.isWorking = false)
    (hsame : run'.processes = run.processes) (hthrough' : run'.stage.isWorking = false) :
    run'.Sound := by
  have hfinished := h.finished hthrough
  have hall : run'.Through run'.processes.length := by
    intro j _ p hp
    rw [hsame] at hp
    exact hfinished p (List.mem_of_getElem? hp)
  unfold Sound
  cases hs : run'.stage <;> rw [hs] at hthrough' <;> first | exact hall | cases hthrough'

theorem Waited.touched (h : run.Waited i) (ht : Touched run run') : run'.Waited i := by
  intro p' hp'
  obtain ⟨p, hp, hadvances⟩ := ht.processes i p' hp'
  obtain ⟨hended, hreaped⟩ := h p hp
  exact ⟨hadvances.ended hended, hadvances.reaped hreaped⟩

theorem Sound.touched (h : run.Sound) (ht : Touched run run') : run'.Sound := by
  unfold Sound at h ⊢
  rw [ht.stage, ht.plan, ht.length]
  cases hs : run.stage <;> rw [hs] at h <;> dsimp only at h ⊢
  case idle => exact h
  case decide i => exact ⟨h.1, fun hw => (h.2 hw).touched ht⟩
  case spawn i => exact ⟨h.1, fun hw => (h.2 hw).touched ht⟩
  case enlist i => exact ⟨h.1, fun hw => (h.2 hw).touched ht⟩
  case heed i => exact ⟨h.1, fun hw => (h.2 hw).touched ht⟩
  case abandon i => exact h
  case await i => exact ⟨h.1, h.2.1.touched ht, h.2.2⟩
  case delist i => exact ⟨h.1, h.2.1.touched ht, h.2.2.1, h.2.2.2.touched ht⟩
  case collect i => exact ⟨h.1, h.2.1.touched ht, h.2.2.1, h.2.2.2.touched ht⟩
  all_goals exact h.touched ht

/-! ## From stage to stage -/

/-- A run after a stage of its worker that was about its programs: it comes
to the next stage of this kind, or to the status line. -/
structure Proceeds (run run' : Run) : Prop where
  plan : run'.plan = run.plan
  stage : run'.stage.isBusy ∨ ∃ o, run'.stage = .report o
  sound : run.Sound → run'.Sound

theorem Proceeds.of_touched (ht : Touched run run') (h : Proceeds run' run'') :
    Proceeds run run'' :=
  ⟨h.plan.trans ht.plan, h.stage, fun hsound => h.sound (hsound.touched ht)⟩

/-- What is known at a stage. -/
theorem Sound.at (h : run.Sound) {s : Stage} (hs : run.stage = s) : (run.goTo s).Sound := by
  subst hs
  exact h

theorem through_zero (run : Run) : run.Through 0 := fun _ hj => absurd hj (Nat.not_lt_zero _)

/-- Waiting for programs that were all started at once. -/
theorem proceeds_awaitAll (hwait : run.Sound → run.plan.wait = false) :
    Proceeds run run.awaitAll := by
  unfold awaitAll
  split
  · next hempty =>
    refine ⟨rfl, Or.inr ⟨_, rfl⟩, fun _ => ?_⟩
    show run.Through run.processes.length
    rw [List.isEmpty_iff.1 hempty]
    exact run.through_zero
  · next hsome =>
    refine ⟨rfl, Or.inl rfl, fun hsound => ⟨?_, run.through_zero, fun hw => ?_⟩⟩
    · exact List.length_pos_iff.2 fun hnil => hsome (List.isEmpty_iff.2 hnil)
    · rw [goTo, hwait hsound] at hw
      cases hw

theorem proceeds_decided (hs : run.stage = .decide i) : Proceeds run (run.decided i) := by
  have hknown : run.Sound → run.processes.length = i ∧ (run.plan.wait → run.Through i) :=
    fun hsound => hsound.at hs
  have hreport : run.plan.wait → ∀ o, Proceeds run (run.goTo (.report o)) := by
    intro hw o
    refine ⟨rfl, Or.inr ⟨o, rfl⟩, fun hsound => ?_⟩
    obtain ⟨hlength, hthrough⟩ := hknown hsound
    show run.Through run.processes.length
    rw [hlength]
    exact hthrough hw
  unfold decided
  split
  · split
    · next hcancelled => exact hreport (Bool.and_eq_true_iff.1 hcancelled).1 _
    · exact ⟨rfl, Or.inl rfl, hknown⟩
  · split
    · next hw => exact hreport hw _
    · next hw => exact proceeds_awaitAll fun _ => Bool.eq_false_iff.2 hw

theorem proceeds_afterSpawnFailure (hs : run.stage = .spawn i) (message : String) :
    Proceeds run (run.afterSpawnFailure i message) := by
  unfold afterSpawnFailure
  split
  · next hw =>
    refine ⟨rfl, Or.inr ⟨_, rfl⟩, fun hsound => ?_⟩
    obtain ⟨hlength, hthrough⟩ := hsound.at hs
    show run.Through run.processes.length
    exact (show run.processes.length = i from hlength) ▸ hthrough hw
  · next hw => exact ⟨rfl, Or.inl rfl, fun _ => Bool.eq_false_iff.2 hw⟩

/-- A process that was just started is not finished, and those before it are
as they were. -/
theorem proceeds_spawned (hs : run.stage = .spawn i) (p : LiveProcess) :
    Proceeds run { run with processes := run.processes ++ [p], stage := .enlist i } := by
  refine ⟨rfl, Or.inl rfl, fun hsound => ?_⟩
  obtain ⟨hlength, hthrough⟩ : run.processes.length = i ∧ (run.plan.wait → run.Through i) :=
    hsound.at hs
  refine ⟨by rw [List.length_append, hlength]; rfl, fun hw j hj q hq => ?_⟩
  rw [List.getElem?_append_left (by omega)] at hq
  exact hthrough hw j hj q hq

theorem proceeds_enlisted (hs : run.stage = .enlist i) (listed : List Nat) :
    Proceeds run { run with listed := listed, stage := .heed i } :=
  ⟨rfl, Or.inl rfl, fun hsound => hsound.at hs⟩

theorem proceeds_afterHeed (hs : run.stage = .heed i) : Proceeds run (run.afterHeed i) := by
  have hknown : run.Sound → run.processes.length = i + 1 ∧ (run.plan.wait → run.Through i) :=
    fun hsound => hsound.at hs
  unfold afterHeed
  split
  · next hw =>
    refine ⟨rfl, Or.inl rfl, fun hsound => ?_⟩
    obtain ⟨hlength, hthrough⟩ := hknown hsound
    exact ⟨by rw [goTo, hlength]; exact Nat.lt_succ_self i, hthrough hw, fun _ => hlength⟩
  · next hw =>
    refine ⟨rfl, Or.inl rfl, fun hsound => ⟨(hknown hsound).1, fun hw' => absurd hw' hw⟩⟩

theorem proceeds_abandoned (hs : run.stage = .abandon i) (k : Nat) :
    Proceeds run (run.goTo (.abandon k)) := by
  refine ⟨rfl, Or.inl rfl, fun hsound => ?_⟩
  show run.plan.wait = false
  exact hsound.at hs

theorem proceeds_reaped (hs : run.stage = .await i)
    (hended : (run.processes[i]?).any LiveProcess.isAlive = false) :
    Proceeds run ((run.onProcess i LiveProcess.reap).goTo (.delist i)) := by
  have ht : Touched run (run.onProcess i LiveProcess.reap) :=
    touched_onProcess run i LiveProcess.advances_reap
  refine ⟨rfl, Or.inl rfl, fun hsound => ?_⟩
  obtain ⟨hlt, hthrough, halone⟩ : i < run.processes.length ∧ run.Through i ∧
      (run.plan.wait → run.processes.length = i + 1) := hsound.at hs
  have hbefore : (run.onProcess i LiveProcess.reap).Through i := hthrough.touched ht
  refine ⟨?_, hbefore, fun hw => ?_, fun p hp => ?_⟩
  · exact ht.length ▸ hlt
  · exact ht.length.trans (halone hw)
  · -- The process that is waited for has ended.
    have hget : (run.processes[i]?).map LiveProcess.reap = some p := by
      have hp' : (run.onProcess i LiveProcess.reap).processes[i]? = some p := hp
      rwa [onProcess, List.getElem?_modify_eq] at hp'
    obtain ⟨q, hq, rfl⟩ := Option.map_eq_some_iff.1 hget
    rw [hq, Option.any_some, LiveProcess.isAlive, Option.isNone_eq_false_iff] at hended
    exact ⟨hended, rfl⟩

theorem proceeds_delisted (hs : run.stage = .delist i) (listed : List Nat) :
    Proceeds run { run with listed := listed, stage := .collect i } :=
  ⟨rfl, Or.inl rfl, fun hsound => hsound.at hs⟩

/-- When the output of a process is read to the end, the process is
finished. -/
theorem proceeds_afterCollect (hs : run.stage = .collect i)
    (hclosed : ∀ p, run.processes[i]? = some p → p.closed) : Proceeds run (run.afterCollect i) := by
  have hknown : run.Sound → i < run.processes.length ∧ run.Through (i + 1) ∧
      (run.plan.wait → run.processes.length = i + 1) := by
    intro hsound
    obtain ⟨hlt, hthrough, halone, hwaited⟩ : i < run.processes.length ∧ run.Through i ∧
        (run.plan.wait → run.processes.length = i + 1) ∧ run.Waited i := hsound.at hs
    have hp := List.getElem?_eq_getElem hlt
    obtain ⟨hended, hreaped⟩ := hwaited _ hp
    exact ⟨hlt, hthrough.succ hp ⟨hended, hreaped, hclosed _ hp⟩, halone⟩
  unfold afterCollect
  split
  · next hw =>
    split
    · refine ⟨rfl, Or.inr ⟨_, rfl⟩, fun hsound => ?_⟩
      obtain ⟨-, hthrough, halone⟩ := hknown hsound
      show run.Through run.processes.length
      rw [halone hw]
      exact hthrough
    · refine ⟨rfl, Or.inl rfl, fun hsound => ?_⟩
      obtain ⟨-, hthrough, halone⟩ := hknown hsound
      exact ⟨halone hw, fun _ => hthrough⟩
  · next hw =>
    dsimp only
    split
    · next hmore =>
      refine ⟨rfl, Or.inl rfl, fun hsound => ?_⟩
      exact ⟨hmore, (hknown hsound).2.1, fun hw' => absurd hw' hw⟩
    · next hlast =>
      refine ⟨rfl, Or.inr ⟨_, rfl⟩, fun hsound => ?_⟩
      obtain ⟨hlt, hthrough, -⟩ := hknown hsound
      have hlength : run.processes.length = i + 1 := by omega
      show run.Through run.processes.length
      rw [hlength]
      exact hthrough

/-- A run whose worker is told to begin. -/
theorem sound_begin (h : run.Sound) (hs : run.stage = .idle) (env : Table String String)
    (now : Stamp) : (run.begin env now).Sound := by
  have hnone : run.processes.length = 0 := h.at hs
  exact ⟨hnone, fun _ => run.through_zero⟩

end Run

end Command
end CodeDesk
