import CodeDesk.Proofs.Command.Turns
/-!
# Signalled — a kill misses no process

A kill marks the run first and then asks every listed process to end, both
while the worker goes on. A process may be started before, between or after
the two, and the worker lists it and then looks for the mark. So there are
two chances to ask it: it was listed before the pass of the kill, or the
worker looks only after the mark was set.

`Run.Enlisted` says that a process which has not ended stays on the list
once it is there, `Guarded` that nobody signals a run that is not marked, and
`Run.Reached` what is left of a pass from then on. Each is kept by every
deed. That no window is open then is `kill_reaches_all`.
-/

namespace CodeDesk
namespace Command

open Runner

namespace LiveProcess

variable {p p' p'' : LiveProcess}

/-- A process and the same process later: it does not come to life again,
and a signal that was sent stays sent. -/
structure Remains (p p' : LiveProcess) : Prop where
  alive : p'.isAlive → p.isAlive
  signals : ∀ n ∈ p.signals, n ∈ p'.signals

theorem Remains.refl (p : LiveProcess) : Remains p p := ⟨id, fun _ => id⟩

theorem Remains.trans (h : Remains p p') (h' : Remains p' p'') : Remains p p'' :=
  ⟨h.alive ∘ h'.alive, fun n => h'.signals n ∘ h.signals n⟩

/-- What has ended stays so. -/
theorem Remains.dead (h : Remains p p') (hdead : p.isAlive = false) : p'.isAlive = false := by
  refine Bool.eq_false_iff.2 fun halive => ?_
  rw [h.alive halive] at hdead
  cases hdead

theorem signals_signal (p : LiveProcess) (n : Nat) (now : Stamp) :
    (p.signal n now).signals = n :: p.signals := by
  unfold signal
  dsimp only
  split <;> rfl

theorem remains_signal (p : LiveProcess) (n : Nat) (now : Stamp) : Remains p (p.signal n now) := by
  constructor
  · intro halive
    have hended : p.ended = none := by
      by_contra hsome
      have := (p.advances_signal n now).ended (Option.isSome_iff_ne_none.2 hsome)
      rw [isAlive, Option.isNone_iff_eq_none] at halive
      simp [halive] at this
    rw [isAlive, hended]
    rfl
  · intro k hk
    rw [signals_signal]
    exact List.mem_cons_of_mem _ hk

theorem remains_finish (p : LiveProcess) (e : Machine.Exit) : Remains p (p.finish e) :=
  ⟨fun halive => (nomatch halive), fun _ => id⟩

theorem Idles.remains {f : LiveProcess → LiveProcess} (h : Idles f) (p : LiveProcess) :
    Remains p (f p) := by
  obtain ⟨hended, hsignals⟩ := h p
  refine ⟨fun halive => ?_, fun n hn => ?_⟩
  · rwa [isAlive, hended] at halive
  · rwa [hsignals]

theorem idles_reap : Idles reap := fun _ => ⟨rfl, rfl⟩

/-- Forgetting what was printed last. -/
theorem idles_keep_nil : Idles fun p => (p.keep [] .out).keep [] .err := fun _ => ⟨rfl, rfl⟩

end LiveProcess

namespace Run

variable {run run' run'' : Run} {M : Machine} {d : Disk} {now : Stamp} {i : Nat}

/-! ## What a turn leaves of the processes -/

/-- A run after a decision about where to go on. -/
structure Steers (run run' : Run) : Prop where
  plan : run'.plan = run.plan
  isCancelled : run'.isCancelled = run.isCancelled
  listed : run'.listed = run.listed
  processes : run'.processes = run.processes

theorem steers_awaitAll (run : Run) : Steers run run.awaitAll := by
  unfold awaitAll
  split <;> exact ⟨rfl, rfl, rfl, rfl⟩

theorem steers_decided (run : Run) (i : Nat) : Steers run (run.decided i) := by
  unfold decided
  split
  · split <;> exact ⟨rfl, rfl, rfl, rfl⟩
  · split
    · exact ⟨rfl, rfl, rfl, rfl⟩
    · exact run.steers_awaitAll

theorem steers_afterSpawnFailure (run : Run) (i : Nat) (message : String) :
    Steers run (run.afterSpawnFailure i message) := by
  unfold afterSpawnFailure
  split <;> exact ⟨rfl, rfl, rfl, rfl⟩

theorem steers_afterHeed (run : Run) (i : Nat) : Steers run (run.afterHeed i) := by
  unfold afterHeed
  split <;> exact ⟨rfl, rfl, rfl, rfl⟩

theorem steers_afterCollect (run : Run) (i : Nat) : Steers run (run.afterCollect i) := by
  unfold afterCollect
  split
  · split <;> exact ⟨rfl, rfl, rfl, rfl⟩
  · dsimp only
    split <;> exact ⟨rfl, rfl, rfl, rfl⟩

/-- The processes of a run and the same processes later. -/
def Continues (run run' : Run) : Prop :=
  ∀ (i : Nat) (p' : LiveProcess), run'.processes[i]? = some p' →
    ∃ p, run.processes[i]? = some p ∧ p.Remains p'

theorem Continues.trans (h : Continues run run') (h' : Continues run' run'') :
    Continues run run'' := by
  intro i p'' hp''
  obtain ⟨p', hp', hremains'⟩ := h' i p'' hp''
  obtain ⟨p, hp, hremains⟩ := h i p' hp'
  exact ⟨p, hp, hremains.trans hremains'⟩

theorem continues_of_eq (h : run'.processes = run.processes) : Continues run run' := by
  intro i p hp
  rw [h] at hp
  exact ⟨p, hp, .refl p⟩

theorem continues_onProcess (run : Run) (i : Nat) {f : LiveProcess → LiveProcess}
    (hf : ∀ p : LiveProcess, p.Remains (f p)) : Continues run (run.onProcess i f) := by
  intro j p' hp'
  rw [onProcess, List.getElem?_modify] at hp'
  obtain ⟨p, hp, rfl⟩ := Option.map_eq_some_iff.1 hp'
  refine ⟨p, hp, ?_⟩
  split
  · exact hf p
  · exact .refl p

/-! ## A signal to every listed process -/

/-- A signal to the processes of some programs. -/
def signalEach (n : Nat) (now : Stamp) (run : Run) (is : List Nat) : Run :=
  is.foldl (fun run i => run.onProcess i fun p => p.signal n now) run

theorem signalEach_cons (n : Nat) (now : Stamp) (run : Run) (i : Nat) (is : List Nat) :
    run.signalEach n now (i :: is) =
      (run.onProcess i fun p => p.signal n now).signalEach n now is := rfl

/-- Nothing changes but the processes. -/
theorem signalEach_eq (n : Nat) (now : Stamp) (run : Run) (is : List Nat) :
    run.signalEach n now is = { run with processes := (run.signalEach n now is).processes } := by
  induction is generalizing run with
  | nil => rfl
  | cons i is ih =>
    rw [signalEach_cons, ih]
    rfl

theorem continues_signalEach (n : Nat) (now : Stamp) (run : Run) (is : List Nat) :
    Continues run (run.signalEach n now is) := by
  induction is generalizing run with
  | nil => exact continues_of_eq rfl
  | cons i is ih => exact (run.continues_onProcess i fun p => p.remains_signal n now).trans (ih _)

/-- **A signal to some processes is sent to each of them.** -/
theorem mem_signals_signalEach {n : Nat} {is : List Nat} (hi : i ∈ is) {p : LiveProcess}
    (hp : (run.signalEach n now is).processes[i]? = some p) : n ∈ p.signals := by
  induction is generalizing run with
  | nil => cases hi
  | cons j is ih =>
    rw [signalEach_cons] at hp
    rcases List.mem_cons.1 hi with rfl | hi
    · -- It is sent first, and what follows does not take it back.
      obtain ⟨q, hq, hremains⟩ := continues_signalEach n now _ is i p hp
      rw [onProcess, List.getElem?_modify_eq] at hq
      obtain ⟨q', -, rfl⟩ := Option.map_eq_some_iff.1 hq
      refine hremains.signals n ?_
      rw [LiveProcess.signals_signal]
      exact List.mem_cons_self
    · exact ih hi hp

theorem signalListed_eq (n : Nat) (now : Stamp) (run : Run) :
    run.signalListed n now = run.signalEach n now run.listed := rfl

section Untouched

variable (run : Run) (n : Nat) (now : Stamp)

@[simp] theorem stage_signalListed : (run.signalListed n now).stage = run.stage := by
  rw [signalListed_eq, signalEach_eq]

@[simp] theorem listed_signalListed : (run.signalListed n now).listed = run.listed := by
  rw [signalListed_eq, signalEach_eq]

@[simp] theorem isCancelled_signalListed :
    (run.signalListed n now).isCancelled = run.isCancelled := by
  rw [signalListed_eq, signalEach_eq]

theorem continues_signalListed : Continues run (run.signalListed n now) :=
  continues_signalEach n now run run.listed

end Untouched

/-! ## The list of those to signal -/

/-- A process that has not ended is on the list, unless the worker is just
about to list it. -/
def Enlisted (run : Run) : Prop :=
  ∀ (i : Nat) (p : LiveProcess), run.processes[i]? = some p → p.isAlive →
    run.stage = .enlist i ∨ i ∈ run.listed

theorem Enlisted.mono (h : run.Enlisted) (hc : Continues run run')
    (hl : ∀ (i : Nat) (p : LiveProcess), run.processes[i]? = some p → p.isAlive →
      run.stage = .enlist i ∨ i ∈ run.listed → run'.stage = .enlist i ∨ i ∈ run'.listed) :
    run'.Enlisted := by
  intro i p' hp' halive
  obtain ⟨p, hp, hremains⟩ := hc i p' hp'
  have hbefore := hremains.alive halive
  exact hl i p hp hbefore (h i p hp hbefore)

/-- At any other stage, what has not ended stays on the list. -/
theorem Enlisted.keep (h : run.Enlisted) (hc : Continues run run')
    (hs : ∀ i, run.stage ≠ .enlist i) (hl : run'.listed = run.listed) : run'.Enlisted := by
  refine h.mono hc fun i p _ _ hlisted => Or.inr ?_
  rw [hl]
  exact hlisted.resolve_left (hs i)

/-- **A turn of the worker keeps the list.** It takes off only what has
ended. -/
theorem Enlisted.turn (h : run.Enlisted) (hsound : run.Sound) (ht : run.Turn M d now run') :
    run'.Enlisted := by
  have hother : ∀ {s : Stage}, run.stage = s → (∀ i, s ≠ .enlist i) →
      ∀ i, run.stage ≠ .enlist i := by
    rintro s rfl hs
    exact hs
  have hsteer : ∀ {s : Stage} {next : Run}, run.stage = s → (∀ i, s ≠ .enlist i) →
      Steers run next → next.Enlisted :=
    fun hs hne hsteers =>
      h.keep (continues_of_eq hsteers.processes) (hother hs hne) hsteers.listed
  cases ht with
  | decides i hs => exact hsteer hs (by simp) (run.steers_decided i)
  | strays i hs => exact h
  | refused i step e hs => exact hsteer hs (by simp) (run.steers_afterSpawnFailure i _)
  | spawned i step t hs =>
    obtain ⟨hlength, -⟩ : run.processes.length = i ∧ (run.plan.wait → run.Through i) :=
      hsound.at hs
    intro j p hp halive
    rcases Nat.lt_or_ge j run.processes.length with hlt | hge
    · rw [List.getElem?_append_left hlt] at hp
      exact Or.inr ((h j p hp halive).resolve_left (hother hs (by simp) j))
    · -- It is the new one, which comes next.
      have hj : j < (run.processes ++ [LiveProcess.ofTrace t now]).length :=
        (List.getElem?_eq_some_iff.1 hp).1
      rw [List.length_append, List.length_singleton] at hj
      have hlast : j = i := by omega
      rw [hlast]
      exact Or.inl rfl
  | enlists i hs =>
    refine h.mono (continues_of_eq rfl) fun j p _ _ hlisted => Or.inr ?_
    rcases hlisted with hnext | hlisted
    · rw [hs, Stage.enlist.injEq] at hnext
      rw [hnext]
      exact List.mem_append_right _ (List.mem_singleton_self j)
    · exact List.mem_append_left _ hlisted
  | heeds i hs =>
    have hne := hother hs (by simp)
    split
    · have hsteers := (run.onProcess i fun p => p.signal terminate now).steers_afterHeed i
      exact h.keep ((run.continues_onProcess i fun p => p.remains_signal _ _).trans
        (continues_of_eq hsteers.processes)) hne hsteers.listed
    · exact hsteer hs (by simp) (run.steers_afterHeed i)
  | abandons i hs =>
    refine h.keep (run.continues_onProcess i fun p => ?_) (hother hs (by simp)) rfl
    split
    · exact p.remains_signal _ _
    · exact .refl p
  | abandoned i hs => exact hsteer hs (by simp) run.steers_awaitAll
  | reaps i hs =>
    exact h.keep (run.continues_onProcess i LiveProcess.idles_reap.remains) (hother hs (by simp)) rfl
  | delists i hs =>
    obtain ⟨-, -, -, hwaited⟩ : i < run.processes.length ∧ run.Through i ∧
        (run.plan.wait → run.processes.length = i + 1) ∧ run.Waited i := hsound.at hs
    refine h.mono (continues_of_eq rfl) fun j p hp halive hlisted => Or.inr ?_
    have hne : j ≠ i := by
      rintro rfl
      have hended := (hwaited p hp).1
      rw [LiveProcess.isAlive, Option.isNone_iff_eq_none] at halive
      simp [halive] at hended
    exact (List.mem_erase_of_ne hne).2 (hlisted.resolve_left (hother hs (by simp) j))
  | collects i hs =>
    have hsteers := (run.onProcess i fun p => (p.keep [] .out).keep [] .err).steers_afterCollect i
    exact h.keep ((run.continues_onProcess i LiveProcess.idles_keep_nil.remains).trans
      (continues_of_eq hsteers.processes)) (hother hs (by simp)) hsteers.listed
  | reports o hs | settles o hs | strikes o hs | announces o hs =>
    exact hsteer hs (by simp) ⟨rfl, rfl, rfl, rfl⟩
  | leaves hs => exact hsteer hs (by simp) ⟨rfl, rfl, rfl, rfl⟩

/-! ## What is left of a pass -/

/-- The process of a program was started and listed, and the worker has
looked whether the run was killed meanwhile. -/
def Registered (run : Run) (i : Nat) : Prop :=
  i < run.processes.length ∧ run.stage ≠ .enlist i ∧ run.stage ≠ .heed i

/-- The run is marked, and every process that is registered and has not ended
was asked to. -/
structure Reached (run : Run) : Prop where
  isCancelled : run.isCancelled
  asked : ∀ (i : Nat) (p : LiveProcess), run.processes[i]? = some p → run.Registered i →
    p.isAlive → terminate ∈ p.signals

/-- **The pass of a kill reaches all that are listed**, and what is not
listed is not registered. -/
theorem Enlisted.reached (h : run.Enlisted) (hmark : run.isCancelled) (now : Stamp) :
    (run.signalListed terminate now).Reached := by
  constructor
  · rw [isCancelled_signalListed]
    exact hmark
  · intro i p' hp' hregistered halive
    obtain ⟨p, hp, hremains⟩ := run.continues_signalListed terminate now i p' hp'
    rcases h i p hp (hremains.alive halive) with hnext | hlisted
    · rw [Registered, stage_signalListed] at hregistered
      exact absurd hnext hregistered.2.1
    · exact mem_signals_signalEach hlisted hp'

theorem Reached.keep (h : run.Reached) (hc : Continues run run')
    (hmark : run'.isCancelled = run.isCancelled)
    (hr : ∀ i, i < run.processes.length → run'.Registered i → run.Registered i) :
    run'.Reached := by
  refine ⟨by rw [hmark]; exact h.isCancelled, fun i p' hp' hregistered halive => ?_⟩
  obtain ⟨p, hp, hremains⟩ := hc i p' hp'
  have hlt : i < run.processes.length := (List.getElem?_eq_some_iff.1 hp).1
  exact hremains.signals _ (h.asked i p hp (hr i hlt hregistered) (hremains.alive halive))

/-- **A turn of the worker leaves nobody out.** A process that is registered
after the pass finds the run marked. -/
theorem Reached.turn (h : run.Reached) (hsound : run.Sound) (ht : run.Turn M d now run') :
    run'.Reached := by
  have hready : ∀ {s : Stage} {next : Run}, run.stage = s → (∀ i, s ≠ .enlist i ∧ s ≠ .heed i) →
      ∀ i, i < run.processes.length → next.Registered i → run.Registered i := by
    rintro s next rfl hs i hlt -
    exact ⟨hlt, hs i⟩
  have hsteer : ∀ {s : Stage} {next : Run}, run.stage = s →
      (∀ i, s ≠ .enlist i ∧ s ≠ .heed i) → Steers run next → next.Reached :=
    fun hs hne hsteers =>
      h.keep (continues_of_eq hsteers.processes) hsteers.isCancelled (hready hs hne)
  cases ht with
  | decides i hs => exact hsteer hs (by simp) (run.steers_decided i)
  | strays i hs => exact h
  | refused i step e hs => exact hsteer hs (by simp) (run.steers_afterSpawnFailure i _)
  | spawned i step t hs =>
    obtain ⟨hlength, -⟩ : run.processes.length = i ∧ (run.plan.wait → run.Through i) :=
      hsound.at hs
    refine ⟨h.isCancelled, fun j p hp hregistered halive => ?_⟩
    have hne : j ≠ i := by
      rintro rfl
      exact hregistered.2.1 rfl
    have hlt : j < run.processes.length := by
      have := hregistered.1
      simp only [List.length_append, List.length_singleton] at this
      omega
    rw [List.getElem?_append_left hlt] at hp
    exact h.asked j p hp ⟨hlt, by simp [hs], by simp [hs]⟩ halive
  | enlists i hs =>
    refine h.keep (continues_of_eq rfl) rfl fun j hlt hregistered => ⟨hlt, ?_, by simp [hs]⟩
    intro hnext
    rw [hs, Stage.enlist.injEq] at hnext
    exact hregistered.2.2 (by rw [hnext])
  | heeds i hs =>
    rw [if_pos h.isCancelled]
    have hsteers := (run.onProcess i fun p => p.signal terminate now).steers_afterHeed i
    refine ⟨by rw [hsteers.isCancelled]; exact h.isCancelled, fun j p hp hregistered halive => ?_⟩
    rw [hsteers.processes, onProcess, List.getElem?_modify] at hp
    obtain ⟨q, hq, rfl⟩ := Option.map_eq_some_iff.1 hp
    by_cases hj : i = j
    · -- It finds the mark and asks the process itself.
      rw [if_pos hj, LiveProcess.signals_signal]
      exact List.mem_cons_self
    · rw [if_neg hj] at halive ⊢
      have hlt : j < run.processes.length := (List.getElem?_eq_some_iff.1 hq).1
      exact h.asked j q hq ⟨hlt, by simp [hs], by simp [hs, hj]⟩ halive
  | abandons i hs =>
    refine h.keep (run.continues_onProcess i fun p => ?_) rfl (hready hs (by simp))
    split
    · exact p.remains_signal _ _
    · exact .refl p
  | abandoned i hs => exact hsteer hs (by simp) run.steers_awaitAll
  | reaps i hs =>
    exact h.keep (run.continues_onProcess i LiveProcess.idles_reap.remains) rfl (hready hs (by simp))
  | delists i hs => exact h.keep (continues_of_eq rfl) rfl (hready hs (by simp))
  | collects i hs =>
    have hsteers := (run.onProcess i fun p => (p.keep [] .out).keep [] .err).steers_afterCollect i
    exact h.keep ((run.continues_onProcess i LiveProcess.idles_keep_nil.remains).trans
      (continues_of_eq hsteers.processes)) hsteers.isCancelled (hready hs (by simp))
  | reports o hs | settles o hs | strikes o hs | announces o hs =>
    exact hsteer hs (by simp) ⟨rfl, rfl, rfl, rfl⟩
  | leaves hs => exact hsteer hs (by simp) ⟨rfl, rfl, rfl, rfl⟩

theorem Turn.isCancelled_eq (ht : run.Turn M d now run') : run'.isCancelled = run.isCancelled := by
  cases ht with
  | decides i => exact (run.steers_decided i).isCancelled
  | refused i => exact (run.steers_afterSpawnFailure i _).isCancelled
  | heeds i =>
    rw [(Run.steers_afterHeed _ i).isCancelled]
    split <;> rfl
  | abandoned i => exact run.steers_awaitAll.isCancelled
  | collects i => exact (Run.steers_afterCollect _ i).isCancelled
  | _ => rfl

end Run

namespace Workshop

variable {M : Machine} {s : Workshop} {id : RunId} {run run' : Run} {m : Move}
variable {K K' : RunId → Prop} {es es' : List Errand}

/-! ## Deeds -/

/-- A run that is marked stays marked. -/
theorem Deed.isCancelled (h : Deed M s id run m run') (hmark : run.isCancelled) :
    run'.isCancelled := by
  cases h with
  | works _ turn => rw [turn.isCancelled_eq]; exact hmark
  | terminates | forces =>
    rw [Run.isCancelled_signalListed]
    exact hmark
  | marks => rfl
  | rests | exits | goes => exact hmark
  | begins => exact hmark

/-- A run that is not marked was not marked before. -/
theorem Deed.unmarked (h : Deed M s id run m run') (hmark : run'.isCancelled = false) :
    run.isCancelled = false := by
  refine Bool.eq_false_iff.2 fun hmarked => ?_
  rw [h.isCancelled hmarked] at hmark
  cases hmark

/-- What a caller does when it tells a worker to begin. -/
theorem Sane.idle_of_launch {k : Nat} (h : s.Sane) (hrun : s.runner.runs[id]? = some run)
    (head : s.callers[k]? = some (.launch id :: es)) : run.stage = .idle :=
  h.calls.launch_idle (List.mem_of_getElem? head) List.mem_cons_self hrun

theorem Deed.enlisted (h : Deed M s id run m run') (hsane : s.Sane)
    (hrun : s.runner.runs[id]? = some run) (henlisted : run.Enlisted) : run'.Enlisted := by
  have hsound := hsane.consistent.sound run (List.mem_of_getElem? hrun)
  -- Whatever does not come from the worker leaves the stage and the list.
  have hstays : ∀ {next : Run}, Run.Continues run next → next.stage = run.stage →
      next.listed = run.listed → next.Enlisted := by
    intro next hc hs hl
    refine henlisted.mono hc fun i p _ _ hlisted => ?_
    rw [hs, hl]
    exact hlisted
  have hsignal : ∀ n, (run.signalListed n s.runner.now).Enlisted := by
    intro n
    exact hstays (run.continues_signalListed n _) (by simp) (by simp)
  cases h with
  | rests => exact henlisted
  | works _ turn => exact henlisted.turn hsound turn
  | exits i e => exact hstays (run.continues_onProcess i fun p => p.remains_finish e) rfl rfl
  | goes i _ f hidles => exact hstays (run.continues_onProcess i hidles.remains) rfl rfl
  | marks => exact hstays (Run.continues_of_eq rfl) rfl rfl
  | terminates | forces => exact hsignal _
  | begins k es head =>
    have hidle := hsane.idle_of_launch hrun head
    refine henlisted.keep (Run.continues_of_eq rfl) (fun i => ?_) rfl
    rw [hidle]
    simp

theorem Deed.reached (h : Deed M s id run m run') (hsane : s.Sane)
    (hrun : s.runner.runs[id]? = some run) (hreached : run.Reached) : run'.Reached := by
  have hsound := hsane.consistent.sound run (List.mem_of_getElem? hrun)
  have hstays : ∀ {next : Run}, Run.Continues run next → next.stage = run.stage →
      next.isCancelled = run.isCancelled → next.Reached := by
    intro next hc hs hmark
    refine hreached.keep hc hmark fun i hlt hregistered => ?_
    obtain ⟨-, henlist, hheed⟩ := hregistered
    rw [hs] at henlist hheed
    exact ⟨hlt, henlist, hheed⟩
  have hsignal : ∀ n, (run.signalListed n s.runner.now).Reached := by
    intro n
    exact hstays (run.continues_signalListed n _) (by simp) (by simp)
  cases h with
  | rests => exact hreached
  | works _ turn => exact hreached.turn hsound turn
  | exits i e => exact hstays (run.continues_onProcess i fun p => p.remains_finish e) rfl rfl
  | goes i _ f hidles => exact hstays (run.continues_onProcess i hidles.remains) rfl rfl
  | marks => exact hstays (Run.continues_of_eq rfl) rfl hreached.isCancelled.symm
  | terminates | forces => exact hsignal _
  | begins k es head =>
    have hidle := hsane.idle_of_launch hrun head
    refine hreached.keep (Run.continues_of_eq rfl) rfl fun i hlt _ => ⟨hlt, ?_, ?_⟩
    · simp [hidle]
    · simp [hidle]

/-! ## Whoever signals a run has marked it -/

/-- A run is marked as killed. -/
def Marked (r : Runner) (id : RunId) : Prop := ∃ run, r.runs[id]? = some run ∧ run.isCancelled

/-- The run that a step signals, or will signal. -/
def signalled : Errand → List RunId
  | .terminate id => [id]
  | .spare id _ => [id]
  | .force id => [id]
  | _ => []

/-- The run that a step marks. -/
def marking : Errand → List RunId
  | .mark id => [id]
  | _ => []

/-- Each run that is to be signalled by the steps is marked before. -/
def Guarded (K : RunId → Prop) : List Errand → Prop
  | [] => True
  | e :: es => (∀ id ∈ signalled e, K id) ∧ Guarded (fun j => K j ∨ j ∈ marking e) es

theorem Guarded.mono (h : Guarded K es) (hK : ∀ id, K id → K' id) : Guarded K' es := by
  induction es generalizing K K' with
  | nil => trivial
  | cons e es ih => exact ⟨fun id hid => hK id (h.1 id hid), ih h.2 fun id => Or.imp_left (hK id)⟩

/-- Steps that signal nobody. -/
theorem guarded_of_forall (h : ∀ e ∈ es, signalled e = []) : Guarded K es := by
  induction es generalizing K with
  | nil => trivial
  | cons e es ih =>
    refine ⟨fun id hid => ?_, ih fun e he => h e (List.mem_cons_of_mem _ he)⟩
    rw [h e List.mem_cons_self] at hid
    cases hid

/-- The steps that kill a run mark it first. -/
theorem guarded_killing (id : RunId) (h : Guarded K es) : Guarded K (killing id ++ es) := by
  have hmark : ∀ j ∈ [id], K j ∨ j ∈ [id] := fun j hj => Or.inr hj
  exact ⟨fun _ hj => absurd hj List.not_mem_nil, hmark, h.mono fun j hj => Or.inl (Or.inl hj)⟩

/-- A step that marks nobody leaves the rest guarded. -/
theorem Guarded.tail {e : Errand} (h : Guarded K (e :: es)) (hnone : marking e = [])
    (hK : ∀ id, K id → K' id) : Guarded K' es := by
  refine h.2.mono fun id hid => ?_
  rw [hnone] at hid
  exact hK id (hid.resolve_right List.not_mem_nil)

/-- **Every step of a caller leaves it with guarded steps.** -/
theorem Guarded.attend {r r' : Runner} (h : Guarded (Marked r) es)
    (ha : r.attend? es = some (r', es')) (hmarks : ∀ id, Marked r id → Marked r' id)
    (hknown : ∀ id rest, es = .mark id :: rest → id < r.runs.length) :
    Guarded (Marked r') es' := by
  cases es with
  | nil => cases ha
  | cons e rest =>
    have htail : marking e = [] → Guarded (Marked r') rest := fun hnone => h.tail hnone hmarks
    cases e <;> dsimp only [attend?] at ha
    case evict name =>
      split at ha <;> cases ha
      · exact htail rfl
      · refine guarded_killing _ ⟨fun _ hj => absurd hj List.not_mem_nil, ?_⟩
        exact (htail rfl).mono fun _ => Or.inl
    case mark id =>
      cases ha
      refine h.2.mono fun j hj => ?_
      rcases hj with hj | hj
      · exact hmarks j hj
      · rw [List.mem_singleton.1 hj]
        have hlt := hknown id _ rfl
        have hrun := List.getElem?_eq_getElem hlt
        refine ⟨{ r.runs[id] with isCancelled := true }, ?_, rfl⟩
        rw [onRun_runs hrun, List.getElem?_set_self hlt]
    case terminate id =>
      cases ha
      exact ⟨fun j hj => hmarks j (h.1 j hj), h.2.mono fun j => Or.imp_left (hmarks j)⟩
    case spare id deadline =>
      split at ha
      · cases ha
        exact htail rfl
      · split at ha <;> cases ha
        refine ⟨h.1, fun _ hj => absurd hj List.not_mem_nil, ?_⟩
        exact (htail rfl).mono fun _ hj => Or.inl (Or.inl hj)
    case force id =>
      cases ha
      exact htail rfl
    case await id =>
      split at ha <;> cases ha
      exact htail rfl
    case awaitUntil id deadline =>
      split at ha <;> cases ha
      exact htail rfl
    case strike name id =>
      cases ha
      exact htail rfl
    case prepare p =>
      cases ha
      exact htail rfl
    case found p =>
      cases ha
      refine ⟨fun _ hj => absurd hj List.not_mem_nil, fun _ hj => absurd hj List.not_mem_nil, ?_⟩
      exact (htail rfl).mono fun _ hj => Or.inl (Or.inl hj)
    case register name id =>
      split at ha <;> cases ha
      · exact htail rfl
      · refine guarded_killing _ ⟨fun _ hj => absurd hj List.not_mem_nil, ?_⟩
        refine ⟨fun _ hj => absurd hj List.not_mem_nil, ?_⟩
        exact (htail rfl).mono fun _ hj => Or.inl (Or.inl hj)
    case launch id =>
      split at ha <;> cases ha <;> exact htail rfl

/-- At every moment callers signal only runs that are marked, and the
processes of a run that have not ended are listed. -/
structure Alert (s : Workshop) : Prop where
  guarded : ∀ es ∈ s.callers, Guarded (Marked s.runner) es
  enlisted : ∀ run ∈ s.runner.runs, run.Enlisted

/-- A mark stays. -/
theorem Marked.after (h : Marked s.runner id) (M : Machine) (m : Move) :
    Marked (s.after M m).runner id := by
  obtain ⟨run, hrun, hmark⟩ := h
  obtain ⟨run', hrun', hdeed⟩ := deed_of_after M m hrun
  exact ⟨run', hrun', hdeed.isCancelled hmark⟩

theorem Alert.ofDisk (d : Disk) (env : Table String String) : (Workshop.ofDisk d env).Alert :=
  ⟨fun _ h => absurd h List.not_mem_nil, fun _ h => absurd h List.not_mem_nil⟩

/-- The calls that come in mark a run before they signal it. -/
theorem guarded_call (M : Machine) (m : Move) (hm : ∀ k, m ≠ .attend k)
    (hes : es ∈ (s.after M m).callers) : es ∈ s.callers ∨ ∀ K, Guarded K es := by
  have hcall : ∀ new : List Errand, es ∈ s.callers ++ [new] → (∀ K, Guarded K new) →
      es ∈ s.callers ∨ ∀ K, Guarded K es := by
    intro new hmem hnew
    rcases List.mem_append.1 hmem with hold | hlast
    · exact Or.inl hold
    · rw [List.mem_singleton.1 hlast]
      exact Or.inr hnew
  cases m with
  | dispatch p =>
    refine hcall _ hes fun K => guarded_of_forall fun e he => ?_
    simp only [starting, List.mem_cons, List.not_mem_nil, or_false] at he
    rcases he with rfl | rfl | rfl <;> rfl
  | kill name =>
    refine hcall _ hes fun K => guarded_of_forall fun e he => ?_
    rw [List.mem_singleton.1 he]
    rfl
  | killAll =>
    refine hcall _ hes fun K => guarded_of_forall fun e he => ?_
    obtain ⟨name, -, rfl⟩ := List.mem_map.1 he
    rfl
  | killRun id =>
    rw [Workshop.after] at hes
    split at hes
    · refine hcall _ hes fun K => ?_
      have hkilling : Guarded K (killing id ++ []) := guarded_killing id trivial
      rwa [List.append_nil] at hkilling
    · exact Or.inl hes
  | attend k => exact absurd rfl (hm k)
  | work j =>
    rw [Workshop.after] at hes
    split at hes <;> exact Or.inl hes
  | happen j i h =>
    rw [Workshop.after] at hes
    split at hes
    · exact Or.inl hes
    · split at hes <;> exact Or.inl hes
  | pass d =>
    rw [Workshop.after] at hes
    split at hes <;> exact Or.inl hes

/-- **Every move leaves the workshop alert.** -/
theorem Alert.after (h : s.Alert) (hsane : s.Sane) (M : Machine) (m : Move) :
    (s.after M m).Alert := by
  have hmarks : ∀ id, Marked s.runner id → Marked (s.after M m).runner id :=
    fun id hmarked => hmarked.after M m
  constructor
  · intro es hes
    by_cases hm : ∀ k, m ≠ .attend k
    · rcases guarded_call M m hm hes with hold | hnew
      · exact (h.guarded es hold).mono hmarks
      · exact hnew _
    · push Not at hm
      obtain ⟨k, rfl⟩ := hm
      rw [Workshop.after] at hes hmarks ⊢
      cases hk : s.callers[k]? with
      | none =>
        rw [hk] at hes
        exact h.guarded es hes
      | some before =>
        rw [hk] at hes hmarks
        dsimp only at hes hmarks ⊢
        have hmem : before ∈ s.callers := List.mem_of_getElem? hk
        cases ha : s.runner.attend? before with
        | none =>
          rw [ha] at hes
          exact h.guarded es hes
        | some next =>
          rw [ha] at hes hmarks
          dsimp only at hes hmarks ⊢
          rcases List.mem_or_eq_of_mem_set hes with hold | rfl
          · exact (h.guarded es hold).mono hmarks
          · refine (h.guarded before hmem).attend ha hmarks ?_
            rintro id rest rfl
            exact (hsane.calls.orderly _ hmem).1 (.known id) (List.mem_singleton_self _)
  · refine forall_runs_after M m (fun p env now i q hq => ?_) (fun id run run' hrun => ?_) h.enlisted
    · cases hq
    · exact fun henlisted hdeed => hdeed.enlisted hsane hrun henlisted

theorem Alert.moves (h : s.Alert) (hsane : s.Sane) (M : Machine) (ms : List Move) :
    (s.run M ms).Alert := by
  induction ms generalizing s with
  | nil => exact h
  | cons m ms ih => exact ih (h.after hsane M m) (hsane.after M m)

/-- A pass reaches a run. -/
theorem Alert.reached {k : Nat} (h : s.Alert)
    (hpass : s.callers[k]? = some (.terminate id :: es)) (hrun : s.runner.runs[id]? = some run) :
    ∃ run', (s.after M (.attend k)).runner.runs[id]? = some run' ∧ run'.Reached := by
  have hguarded := h.guarded _ (List.mem_of_getElem? hpass)
  obtain ⟨marked, hmarked, hmark⟩ := hguarded.1 id (List.mem_singleton_self id)
  rw [hrun] at hmarked
  cases hmarked
  have henlisted := h.enlisted run (List.mem_of_getElem? hrun)
  refine ⟨_, ?_, henlisted.reached hmark s.runner.now⟩
  have hlt : id < s.runner.runs.length := (List.getElem?_eq_some_iff.1 hrun).1
  rw [Workshop.after, hpass]
  show (s.runner.onRun id _).runs[id]? = _
  rw [onRun_runs hrun, List.getElem?_set_self hlt]

/-- What was reached stays so, whatever the moves. -/
theorem Sane.reached_run (h : s.Sane) (M : Machine) (ms : List Move)
    (hrun : s.runner.runs[id]? = some run) (hreached : run.Reached) :
    ∃ run', (s.run M ms).runner.runs[id]? = some run' ∧ run'.Reached := by
  induction ms generalizing s run with
  | nil => exact ⟨run, hrun, hreached⟩
  | cons m ms ih =>
    obtain ⟨run', hrun', hdeed⟩ := deed_of_after M m hrun
    exact ih (h.after M m) hrun' (hdeed.reached h hrun hreached)

/-- **A kill misses no process, whatever the order of the steps.** The pass
of a kill over the list of a run is one step of a history. At every moment
after it, each process of the run that is registered and has not ended was
asked to end, no matter when it was started. -/
theorem kill_reaches_all (M : Machine) (d : Disk) (env : Table String String)
    (before after : List Move) (k i : Nat) (id : RunId) (rest : List Errand) (run : Run)
    (p : LiveProcess)
    (pass : ((ofDisk d env).run M before).callers[k]? = some (.terminate id :: rest))
    (there : ((ofDisk d env).run M (before ++ .attend k :: after)).runner.runs[id]? = some run)
    (process : run.processes[i]? = some p) (registered : run.Registered i) (alive : p.isAlive) :
    terminate ∈ p.signals := by
  have hsplit : (ofDisk d env).run M (before ++ .attend k :: after) =
      (((ofDisk d env).run M before).after M (.attend k)).run M after := by
    rw [Workshop.run, List.foldl_append, List.foldl_cons]
    rfl
  have hsane := (Sane.ofDisk d env).moves M before
  have halert := (Alert.ofDisk d env).moves (.ofDisk d env) M before
  rw [hsplit] at there
  generalize (ofDisk d env).run M before = s at pass there hsane halert
  -- The pass is over a run that there is.
  obtain ⟨old, hold, -⟩ := (halert.guarded _ (List.mem_of_getElem? pass)).1 id
    (List.mem_singleton_self id)
  obtain ⟨hit, hhit, hreached⟩ := halert.reached (M := M) pass hold
  obtain ⟨last, hlast, hreached⟩ :=
    (hsane.after M (.attend k)).reached_run M after hhit hreached
  rw [there] at hlast
  cases hlast
  exact hreached.asked i p process registered alive
/-- The pass of a kill comes when the only process was started and not yet
listed. The worker asks it to end, and it goes on. -/
theorem kill_reaches_all_unlisted :
    let M : Machine := ⟨fun _ _ => .ok ⟨[], none, none, true⟩⟩
    let p : Plan := ⟨"serve", [⟨"serve", []⟩], default, true, false, .plain, false⟩
    let before := .dispatch p :: List.replicate 5 (.attend 0) ++
      [.work 0, .work 0, .killRun 0, .attend 1]
    ∃ run q, ((ofDisk default Table.empty).run M before).callers[1]? = some [.terminate 0] ∧
      ((ofDisk default Table.empty).run M
        (before ++ .attend 1 :: [.work 0, .work 0])).runner.runs[0]? = some run ∧
      run.processes[0]? = some q ∧ run.Registered 0 ∧ q.isAlive ∧ terminate ∈ q.signals := by
  intro M p before
  have pass : ((ofDisk default Table.empty).run M before).callers[1]? = some [.terminate 0] := by
    decide +kernel
  -- The worker waits for the process, which goes on.
  have ready : (((ofDisk default Table.empty).run M
      (before ++ .attend 1 :: [.work 0, .work 0])).runner.runs[0]?).any (fun run =>
        run.stage == .await 0 && (run.processes[0]?).any LiveProcess.isAlive) = true := by
    decide +kernel
  obtain ⟨run, there, hrun⟩ := (Option.any_eq_true _ _).1 ready
  obtain ⟨hstage, hprocess⟩ := Bool.and_eq_true_iff.1 hrun
  obtain ⟨q, process, alive⟩ := (Option.any_eq_true _ _).1 hprocess
  have registered : run.Registered 0 := by
    rw [Run.Registered, beq_iff_eq.1 hstage]
    exact ⟨(List.getElem?_eq_some_iff.1 process).1, by simp, by simp⟩
  exact ⟨run, q, pass, there, process, registered, alive,
    kill_reaches_all M default Table.empty before [.work 0, .work 0] 1 0 0 [] run q pass there
      process registered alive⟩

end Workshop
end Command
end CodeDesk
