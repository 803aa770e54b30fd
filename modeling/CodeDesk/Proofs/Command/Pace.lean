import CodeDesk.Proofs.Command.Course
/-!
# Pace — how long the worker of a run can go on

`Run.toGo` bounds how many turns the worker of a run has left. Each turn
takes at least one of them (`Run.Turn.toGo_lt`), and what others do adds none
(`Workshop.Deed.toGo_le`), so a run ends if its worker gets its turns and
never waits for ever. It waits only for the end of a process, or for the end
of its output (`Runner.waits_of_work?`).

What a kill leaves to the worker is bounded too: with `wait` set it starts at
most the program it had already decided to start (`Run.Turn.trying_le`).
-/

namespace CodeDesk
namespace Command

open Runner

namespace Run

variable {run run' : Run} {M : Machine} {d : Disk} {now : Stamp} {i : Nat}

/-! ## Coming to a program -/

/-- **The worker comes to a program only by deciding to start it.** -/
theorem Turn.spawn (ht : run.Turn M d now run') (hs : run'.stage = .spawn i) :
    (run' = run ∧ run.plan.steps.length ≤ i) ∨ (run.stage = .decide i ∧
      i < run.plan.steps.length ∧ (run.plan.wait && run.isCancelled) = false) := by
  cases ht with
  | decides j hbefore =>
    unfold decided at hs
    split at hs
    · next hj =>
      split at hs
      · cases hs
      · next hgoes =>
        cases hs
        exact Or.inr ⟨hbefore, hj, Bool.eq_false_iff.2 hgoes⟩
    · unfold awaitAll at hs
      split at hs
      · cases hs
      · split at hs <;> cases hs
  | strays j hbefore hbeyond =>
    rw [hbefore, Stage.spawn.injEq] at hs
    subst hs
    exact Or.inl ⟨rfl, List.getElem?_eq_none_iff.1 hbeyond⟩
  | refused j =>
    unfold afterSpawnFailure at hs
    split at hs <;> cases hs
  | heeds j =>
    generalize (if run.isCancelled then _ else run) = next at hs
    unfold afterHeed at hs
    split at hs <;> cases hs
  | abandoned j =>
    unfold awaitAll at hs
    split at hs <;> cases hs
  | collects j =>
    unfold afterCollect at hs
    split at hs
    · split at hs <;> cases hs
    · dsimp only at hs
      split at hs <;> cases hs
  | spawned | enlists | abandons | reaps | delists => cases hs
  | reports | settles | strikes | announces | leaves => cases hs

theorem Turn.plan_eq (ht : run.Turn M d now run') : run'.plan = run.plan := by
  cases ht with
  | decides i => exact (run.steers_decided i).plan
  | refused i => exact (run.steers_afterSpawnFailure i _).plan
  | heeds i =>
    rw [(Run.steers_afterHeed _ i).plan]
    split <;> rfl
  | abandoned i => exact run.steers_awaitAll.plan
  | collects i => exact (Run.steers_afterCollect _ i).plan
  | _ => rfl

/-- A turn starts at most one process, and only at one stage. -/
theorem Turn.length (ht : run.Turn M d now run') :
    run'.processes.length = run.processes.length ∨
      ∃ i, run.stage = .spawn i ∧ run'.processes.length = run.processes.length + 1 := by
  cases ht with
  | decides i => exact Or.inl (congrArg List.length (run.steers_decided i).processes)
  | refused i => exact Or.inl (congrArg List.length (run.steers_afterSpawnFailure i _).processes)
  | spawned i step t hs => exact Or.inr ⟨i, hs, by rw [List.length_append]; rfl⟩
  | heeds i =>
    refine Or.inl ((congrArg List.length (Run.steers_afterHeed _ i).processes).trans ?_)
    split
    · exact List.length_modify ..
    · rfl
  | abandons i => exact Or.inl (List.length_modify ..)
  | abandoned i => exact Or.inl (congrArg List.length run.steers_awaitAll.processes)
  | reaps i => exact Or.inl (List.length_modify ..)
  | collects i =>
    exact Or.inl ((congrArg List.length (Run.steers_afterCollect _ i).processes).trans
      (List.length_modify ..))
  | _ => exact Or.inl rfl

/-- **There are never more processes than programs.** -/
theorem Bounded.turn (h : run.Bounded) (hsound : run.Sound) (ht : run.Turn M d now run') :
    run'.Bounded := by
  constructor
  · rw [ht.plan_eq]
    rcases ht.length with hsame | ⟨i, hs, hmore⟩
    · rw [hsame]
      exact h.length
    · obtain ⟨hlength, -⟩ : run.processes.length = i ∧ (run.plan.wait → run.Through i) :=
        hsound.at hs
      have := h.spawn i hs
      omega
  · intro i hs
    rw [ht.plan_eq]
    rcases ht.spawn hs with ⟨rfl, -⟩ | ⟨-, hi, -⟩
    · exact h.spawn i hs
    · exact hi

/-- **A run that is killed tries no further program**, with `wait` set. -/
theorem Turn.trying_eq_nil (ht : run.Turn M d now run') (hwait : run.plan.wait)
    (hmark : run.isCancelled) : run'.trying = [] := by
  unfold trying
  split
  · next i hs =>
    rcases ht.spawn hs with ⟨rfl, hbeyond⟩ | ⟨-, -, hgoes⟩
    · exact if_neg (by omega)
    · rw [hwait, hmark] at hgoes
      cases hgoes
  · rfl

/-! ## Turns that are left -/

/-- More turns than the worker can take from a program on. -/
def turnsFrom (run : Run) (i : Nat) : Nat :=
  8 * (run.plan.steps.length - i) + if run.plan.wait then 0 else 4 * i

/-- How many turns the worker can take at most. -/
def toGo (run : Run) : Nat :=
  match run.stage with
  | .idle => 8 * run.plan.steps.length + 8
  | .decide i => run.turnsFrom i + 8
  | .spawn i => run.turnsFrom i + 7
  | .enlist i => run.turnsFrom i + 6
  | .heed i => run.turnsFrom i + 5
  | .abandon i => (run.processes.length - i) + 3 * run.processes.length + 6
  | .await i => if run.plan.wait then run.turnsFrom i + 4 else 3 * (run.processes.length - i) + 5
  | .delist i => if run.plan.wait then run.turnsFrom i + 3 else 3 * (run.processes.length - i) + 4
  | .collect i => if run.plan.wait then run.turnsFrom i + 2 else 3 * (run.processes.length - i) + 3
  | .report _ => 5
  | .settle _ => 4
  | .strike _ => 3
  | .announce _ => 2
  | .leave => 1
  | .gone => 0

theorem turnsFrom_congr (hplan : run'.plan = run.plan) (i : Nat) :
    run'.turnsFrom i = run.turnsFrom i := by
  rw [turnsFrom, turnsFrom, hplan]

/-- One program less. -/
theorem turnsFrom_succ (hi : i < run.plan.steps.length) :
    run.turnsFrom i = run.turnsFrom (i + 1) + if run.plan.wait then 8 else 4 := by
  unfold turnsFrom
  split <;> omega

theorem le_turnsFrom (hwait : run.plan.wait = false) (i : Nat) : 4 * i ≤ run.turnsFrom i := by
  rw [turnsFrom, hwait, if_neg Bool.false_ne_true]
  omega

/-- What counts for the turns that are left. -/
theorem toGo_congr (hplan : run'.plan = run.plan) (hstage : run'.stage = run.stage)
    (hlength : run'.processes.length = run.processes.length) : run'.toGo = run.toGo := by
  simp only [toGo, hplan, hstage, hlength, turnsFrom_congr hplan]

theorem toGo_awaitAll_le (hwait : run.plan.wait = false) :
    run.awaitAll.toGo ≤ 3 * run.processes.length + 5 := by
  unfold awaitAll
  split
  · show 5 ≤ _
    omega
  · show (if run.plan.wait then _ else 3 * (run.processes.length - 0) + 5) ≤ _
    rw [hwait, if_neg Bool.false_ne_true]
    omega

theorem toGo_decided_lt (hlength : run.processes.length = i) :
    (run.decided i).toGo < run.turnsFrom i + 8 := by
  unfold decided
  split
  · split
    · show 5 < _
      omega
    · show run.turnsFrom i + 7 < _
      omega
  · split
    · show 5 < _
      omega
    · next hwait =>
      have hwait' := Bool.eq_false_iff.2 hwait
      have := toGo_awaitAll_le hwait'
      have := le_turnsFrom hwait' i
      omega

theorem toGo_afterSpawnFailure_lt (hlength : run.processes.length = i) (message : String) :
    (run.afterSpawnFailure i message).toGo < run.turnsFrom i + 7 := by
  unfold afterSpawnFailure
  split
  · show 5 < _
    omega
  · next hwait =>
    have := le_turnsFrom (Bool.eq_false_iff.2 hwait) i
    show (run.processes.length - 0) + 3 * run.processes.length + 6 < _
    omega

theorem toGo_afterHeed_lt (run : Run) (hi : i < run.plan.steps.length) :
    (run.afterHeed i).toGo < run.turnsFrom i + 5 := by
  unfold afterHeed
  split
  · next hwait =>
    show (if run.plan.wait then run.turnsFrom i + 4 else _) < _
    rw [if_pos hwait]
    omega
  · next hwait =>
    have hsucc := turnsFrom_succ hi
    rw [if_neg hwait] at hsucc
    show run.turnsFrom (i + 1) + 8 < _
    omega

theorem toGo_afterCollect_lt (run : Run) (hi : i < run.plan.steps.length)
    (hlt : i < run.processes.length) :
    (run.afterCollect i).toGo <
      if run.plan.wait then run.turnsFrom i + 2 else 3 * (run.processes.length - i) + 3 := by
  have hsucc := turnsFrom_succ hi
  unfold afterCollect
  split
  · next hwait =>
    rw [if_pos hwait] at hsucc
    split
    · show 5 < _
      omega
    · show run.turnsFrom (i + 1) + 8 < _
      omega
  · next hwait =>
    dsimp only
    split
    · show (if run.plan.wait then _ else 3 * (run.processes.length - (i + 1)) + 5) < _
      rw [if_neg hwait]
      omega
    · show 5 < _
      omega

/-- **A turn takes one of the turns that are left.** -/
theorem Turn.toGo_lt (ht : run.Turn M d now run') (hsound : run.Sound) (hbounded : run.Bounded) :
    run'.toGo < run.toGo := by
  have hmax := hbounded.length
  have hnow : ∀ {s : Stage}, run.stage = s → run.toGo = (run.goTo s).toGo := by
    rintro s rfl
    rfl
  cases ht with
  | decides i hs =>
    obtain ⟨hlength, -⟩ : run.processes.length = i ∧ (run.plan.wait → run.Through i) :=
      hsound.at hs
    rw [hnow hs]
    exact toGo_decided_lt hlength
  | strays i hs hbeyond =>
    have := hbounded.spawn i hs
    have := List.getElem?_eq_none_iff.1 hbeyond
    omega
  | refused i step e hs =>
    obtain ⟨hlength, -⟩ : run.processes.length = i ∧ (run.plan.wait → run.Through i) :=
      hsound.at hs
    rw [hnow hs]
    exact toGo_afterSpawnFailure_lt hlength _
  | spawned i step t hs =>
    rw [hnow hs]
    show run.turnsFrom i + 6 < run.turnsFrom i + 7
    omega
  | enlists i hs =>
    rw [hnow hs]
    show run.turnsFrom i + 5 < run.turnsFrom i + 6
    omega
  | heeds i hs =>
    obtain ⟨hlength, -⟩ : run.processes.length = i + 1 ∧ (run.plan.wait → run.Through i) :=
      hsound.at hs
    have hi : i < run.plan.steps.length := by omega
    rw [hnow hs]
    split
    · exact toGo_afterHeed_lt (run.onProcess i _) hi
    · exact toGo_afterHeed_lt run hi
  | abandons i hs hthere =>
    rw [hnow hs]
    show (run.processes.modify i _).length - (i + 1) + 3 * (run.processes.modify i _).length + 6 <
      (run.processes.length - i) + 3 * run.processes.length + 6
    rw [List.length_modify]
    omega
  | abandoned i hs =>
    have hwait : run.plan.wait = false := hsound.at hs
    have hle := toGo_awaitAll_le hwait
    rw [hnow hs]
    show _ < (run.processes.length - i) + 3 * run.processes.length + 6
    omega
  | reaps i hs =>
    rw [hnow hs]
    show (if run.plan.wait then run.turnsFrom i + 3
        else 3 * ((run.processes.modify i _).length - i) + 4) <
      if run.plan.wait then run.turnsFrom i + 4 else 3 * (run.processes.length - i) + 5
    rw [List.length_modify]
    split <;> omega
  | delists i hs =>
    rw [hnow hs]
    show (if run.plan.wait then run.turnsFrom i + 2 else 3 * (run.processes.length - i) + 3) <
      if run.plan.wait then run.turnsFrom i + 3 else 3 * (run.processes.length - i) + 4
    split <;> omega
  | collects i hs =>
    obtain ⟨hlt, -⟩ : i < run.processes.length ∧ run.Through i ∧
        (run.plan.wait → run.processes.length = i + 1) ∧ run.Waited i := hsound.at hs
    have hlength : (run.onProcess i fun p => (p.keep [] .out).keep [] .err).processes.length =
        run.processes.length := List.length_modify ..
    have hi : i < run.plan.steps.length := by omega
    have hgoes := toGo_afterCollect_lt (run.onProcess i _) hi (hlength.symm ▸ hlt)
    rw [hlength] at hgoes
    rw [hnow hs]
    exact hgoes
  | reports o hs | settles o hs | strikes o hs | announces o hs =>
    rw [hnow hs]
    exact Nat.lt_succ_self _
  | leaves hs =>
    rw [hnow hs]
    exact Nat.lt_succ_self _

end Run

namespace Runner

variable {M : Machine} {r : Runner} {id : RunId} {run : Run}

/-- **A worker that has begun and is not over waits for a process only**, to
end or to close its output. -/
theorem waits_of_work? (h : r.work? M id = none) (hrun : r.runs[id]? = some run)
    (hbegun : run.stage ≠ .idle) :
    run.isOver ∨ ∃ p ∈ run.processes, p.isAlive ∨ p.closed = false := by
  unfold work? at h
  rw [hrun] at h
  dsimp only at h
  cases hs : run.stage <;> rw [hs] at h <;> dsimp only at h
  case idle => exact absurd hs hbegun
  case gone =>
    left
    rw [Run.isOver, hs]
    rfl
  case await i =>
    split at h
    · next halive =>
      obtain ⟨p, hp, halive⟩ := (Option.any_eq_true _ _).1 halive
      exact Or.inr ⟨p, List.mem_of_getElem? hp, Or.inl halive⟩
    · cases h
  case collect i =>
    split at h
    · cases h
    · next p hp =>
      split at h
      · cases h
      · next hopen =>
        exact Or.inr ⟨p, List.mem_of_getElem? hp, Or.inr (Bool.eq_false_iff.2 hopen)⟩
  case abandon i => split at h <;> cases h
  all_goals cases h

end Runner
end Command
end CodeDesk
