import CodeDesk.Proofs.Find.Captured
import Mathlib.Algebra.GroupWithZero.Nat
import Mathlib.Data.List.Perm.Basic
import Mathlib.Data.List.Sort
/-!
# A crew — several workers search one list of candidates

The workers of a search take the candidates from a shared counter and hand
their results in to a shared list, in whatever order they come. Each worker
looks whether the search is cancelled before it claims the next candidate;
when all have left, the results are put in order. A history is any list of
turns: each of them is one step of one worker, the cancelling, or the end.

What was handed in, together with what the workers have in hand, is what
the claimed candidates give (`Crew.Consistent`). So the answer does not
depend on the history, but for being cancelled (`answer_eq`), and it is the
one that the candidates give one after the other (`find_any_schedule`).
-/

namespace CodeDesk
namespace Find

namespace Task

variable (t : Task)

/-- What is found in the candidate of a number, with the number. -/
def entry? (i : Nat) : Option (Nat × FileResult) := (t.found? i).map (i, ·)

/-- What the first candidates give. -/
def entries (n : Nat) : List (Nat × FileResult) := (List.range n).filterMap t.entry?

/-- The results of all candidates, one after the other. -/
def results : Results := ⟨t.request, rank (t.candidates.filterMap t.search)⟩

end Task

namespace Crew

variable {t : Task} {c c' : Crew} {m : Turn} {ms : List Turn} {k : Nat} {st st' : Stage}
  {out : Except FindError Results}

theorem run?_cons : c.run? t (m :: ms) = some c' ↔
    ∃ d, c.step? t m = some d ∧ d.run? t ms = some c' := by
  rw [run?, List.foldlM_cons]
  exact Option.bind_eq_some_iff

/-- **What a turn does**: a worker takes a step, the search is cancelled, or
the answer is given. -/
theorem step?_cases (h : c.step? t m = some c') :
    (∃ k st st', m = .work k ∧ c.stages[k]? = some st ∧ c.nextStage? t st = some st' ∧
      c' = { c.share st with stages := c.stages.set k st' }) ∨
    (m = .cancel ∧ c.isCancelled = false ∧ c' = { c with isCancelled := true }) ∨
    (m = .conclude ∧ c.answer = none ∧ (∀ st ∈ c.stages, st = .gone) ∧
      c' = { c with answer := some (c.conclusion t) }) := by
  cases m with
  | work k =>
    obtain ⟨st, hst, h⟩ := Option.bind_eq_some_iff.1 h
    obtain ⟨st', hnext, rfl⟩ := Option.map_eq_some_iff.1 h
    exact .inl ⟨k, st, st', rfl, hst, hnext, rfl⟩
  | cancel =>
    rw [step?] at h
    split at h
    · cases h
    · next hno =>
      cases h
      exact .inr (.inl ⟨rfl, Bool.not_eq_true _ ▸ hno, rfl⟩)
  | conclude =>
    rw [step?] at h
    split at h
    · next hall =>
      cases h
      rw [Bool.and_eq_true, Option.isNone_iff_eq_none, List.all_eq_true] at hall
      exact .inr (.inr ⟨rfl, hall.1, fun st hst => beq_iff_eq.1 (hall.2 st hst), rfl⟩)
    · cases h

/-- **What every turn keeps** holds at the end of a history. -/
theorem keeps_run {P : Crew → Prop} (hstep : ∀ c m c', P c → c.step? t m = some c' → P c')
    (hc : P c) (h : c.run? t ms = some c') : P c' := by
  induction ms generalizing c with
  | nil =>
    cases h
    exact hc
  | cons m ms ih =>
    obtain ⟨d, hd, hrun⟩ := run?_cons.1 h
    exact ih (hstep c m d hc hd) hrun

/-! ## What is shared -/

@[simp]
theorem isCancelled_share : (c.share st).isCancelled = c.isCancelled := by
  cases st <;> rfl

@[simp]
theorem answer_share : (c.share st).answer = c.answer := by
  cases st <;> rfl

/-- Nothing takes a cancelling back. -/
theorem isCancelled_step (h : c.step? t m = some c') :
    c'.isCancelled = true ↔ c.isCancelled = true ∨ m = .cancel := by
  obtain ⟨k, st, st', rfl, -, -, rfl⟩ | ⟨rfl, -, rfl⟩ | ⟨rfl, -, -, rfl⟩ := step?_cases h
  · simp
  · simp
  · simp

theorem isCancelled_run (h : c.run? t ms = some c') :
    c'.isCancelled = true ↔ c.isCancelled = true ∨ .cancel ∈ ms := by
  induction ms generalizing c with
  | nil =>
    cases h
    simp
  | cons m ms ih =>
    obtain ⟨d, hstep, hrun⟩ := run?_cons.1 h
    rw [ih hrun, isCancelled_step hstep, or_assoc, List.mem_cons, eq_comm (a := m)]

/-- Only the end of a search gives an answer. -/
theorem answer_step (h : c.step? t m = some c') (hm : m ≠ .conclude) : c'.answer = c.answer := by
  obtain ⟨k, st, st', -, -, -, rfl⟩ | ⟨-, -, rfl⟩ | ⟨rfl, -, -, -⟩ := step?_cases h
  · exact answer_share
  · rfl
  · exact absurd rfl hm

/-- An answer that was given stays. -/
theorem answer_run (h : c.run? t ms = some c') (hout : c.answer = some out) :
    c'.answer = some out := by
  refine keeps_run (P := fun c => c.answer = some out) (fun c m c' hout hstep => ?_) hout h
  obtain ⟨k, st, st', -, -, -, rfl⟩ | ⟨-, -, rfl⟩ | ⟨-, hnone, -, -⟩ := step?_cases hstep
  · exact answer_share.trans hout
  · exact hout
  · exact absurd (hout.symm.trans hnone) (Option.some_ne_none out)

/-- **Where an answer comes from**: the one turn that gives it finds all
workers gone. -/
theorem exists_conclude (h : c.run? t ms = some c') (hnone : c.answer = none)
    (hout : c'.answer = some out) :
    ∃ before behind d, ms = before ++ .conclude :: behind ∧ c.run? t before = some d ∧
      (∀ st ∈ d.stages, st = .gone) ∧ out = d.conclusion t := by
  induction ms generalizing c with
  | nil =>
    cases h
    exact absurd (hnone.symm.trans hout) (Option.some_ne_none out).symm
  | cons m ms ih =>
    obtain ⟨d, hstep, hrun⟩ := run?_cons.1 h
    by_cases hm : m = .conclude
    · -- This is the turn, and no later one changes what it says.
      subst hm
      obtain ⟨k, st, st', hne, -⟩ | ⟨hne, -⟩ | ⟨-, -, hgone, rfl⟩ := step?_cases hstep
      · cases hne
      · cases hne
      · have hsame := (answer_run hrun rfl).symm.trans hout
        exact ⟨[], ms, c, rfl, rfl, hgone, (Option.some.inj hsame).symm⟩
    · obtain ⟨before, behind, e, rfl, hbefore, hgone, hend⟩ :=
        ih hrun ((answer_step hstep hm).trans hnone)
      exact ⟨m :: before, behind, e, rfl, run?_cons.2 ⟨d, hstep, hbefore⟩, hgone, hend⟩

/-! ## Every search ends -/

/-- One entry of a list, and the others in any order: what a change of the
entry does to anything that is gathered from the list. -/
theorem exists_others {α : Type} {xs : List α} {x : α} (h : xs[k]? = some x) :
    ∃ others, xs.Perm (x :: others) ∧ ∀ y, (xs.set k y).Perm (y :: others) := by
  obtain ⟨hk, rfl⟩ := List.getElem?_eq_some_iff.1 h
  exact ⟨xs.eraseIdx k, (List.getElem_cons_eraseIdx_perm hk).symm,
    fun y => List.set_perm_cons_eraseIdx hk y⟩

/-- How many steps a worker that stands there can take before it has to
claim another candidate. -/
def weight : Stage → Nat
  | .look => 2
  | .claim => 1
  | .search _ => 4
  | .report _ _ => 3
  | .gone => 0

/-- How many turns are left at most. -/
def turnsLeft (t : Task) (c : Crew) : Nat :=
  4 * (t.candidates.length - c.next) + (c.stages.map weight).sum +
    (!c.isCancelled).toNat + c.answer.isNone.toNat

theorem weight_next (h : c.nextStage? t st = some st') :
    4 * (t.candidates.length - (c.share st).next) + weight st' + 1 ≤
      4 * (t.candidates.length - c.next) + weight st := by
  cases st with
  | look =>
    cases h
    cases c.isCancelled <;> simp [share, weight]
  | claim =>
    cases h
    by_cases hlt : c.next < t.candidates.length
    · rw [if_pos hlt]
      simp only [share, weight]
      omega
    · rw [if_neg hlt]
      simp only [share, weight]
      omega
  | search i =>
    cases h
    cases t.found? i <;> simp [share, weight]
  | report i f =>
    cases h
    exact Nat.le_refl _
  | gone => cases h

/-- Every turn uses up one of those that are left. -/
theorem turnsLeft_step (h : c.step? t m = some c') : c'.turnsLeft t + 1 ≤ c.turnsLeft t := by
  obtain ⟨k, st, st', -, hst, hnext, rfl⟩ | ⟨-, hno, rfl⟩ | ⟨-, hnone, -, rfl⟩ := step?_cases h
  · obtain ⟨others, hold, hnew⟩ := exists_others hst
    have hsum : (c.stages.map weight).sum = weight st + (others.map weight).sum :=
      (hold.map weight).sum_nat.trans List.sum_cons
    have hsum' : ((c.stages.set k st').map weight).sum =
        weight st' + (others.map weight).sum :=
      ((hnew st').map weight).sum_nat.trans List.sum_cons
    have hweight := weight_next hnext
    simp only [turnsLeft, hsum, hsum', isCancelled_share, answer_share]
    omega
  · simp only [turnsLeft, hno, Bool.not_true, Bool.not_false, Bool.toNat_true, Bool.toNat_false]
    omega
  · simp only [turnsLeft, hnone, Option.isNone_some, Option.isNone_none, Bool.toNat_true,
      Bool.toNat_false]
    omega

theorem turnsLeft_run (h : c.run? t ms = some c') :
    c'.turnsLeft t + ms.length ≤ c.turnsLeft t := by
  induction ms generalizing c with
  | nil =>
    cases h
    exact Nat.le_refl _
  | cons m ms ih =>
    obtain ⟨d, hstep, hrun⟩ := run?_cons.1 h
    have hone := turnsLeft_step hstep
    have hrest := ih hrun
    rw [List.length_cons]
    omega

/-- **No search goes on for ever**, whoever takes the turns. -/
theorem length_le {n : Nat} (h : (start n).run? t ms = some c) :
    ms.length ≤ 4 * t.candidates.length + 2 * n + 2 := by
  have hleft := turnsLeft_run h
  have hstart : (start n).turnsLeft t = 4 * t.candidates.length + 2 * n + 2 := by
    simp [turnsLeft, start, weight]
    omega
  omega

/-- **No search is stuck**: as long as there is no answer, a worker has a
step to take or all have left. -/
theorem exists_step (hnone : c.answer = none) : ∃ m, m ≠ .cancel ∧ (c.step? t m).isSome := by
  by_cases hgone : ∀ st ∈ c.stages, st = .gone
  · refine ⟨.conclude, nofun, ?_⟩
    have hall : c.stages.all (· == .gone) = true :=
      List.all_eq_true.2 fun st hst => beq_iff_eq.2 (hgone st hst)
    rw [step?, hnone, hall]
    rfl
  · push Not at hgone
    obtain ⟨st, hst, hne⟩ := hgone
    obtain ⟨k, hk⟩ := List.mem_iff_getElem?.1 hst
    refine ⟨.work k, nofun, ?_⟩
    rw [step?, hk, Option.bind_some, Option.isSome_map]
    cases st with
    | gone => exact absurd rfl hne
    | _ => rfl

/-! ## Every candidate is accounted for -/

/-- What a worker has in hand: the entry of the candidate it has claimed
and not handed in yet. -/
def inHand (t : Task) : Stage → Option (Nat × FileResult)
  | .search i => t.entry? i
  | .report i f => some (i, f)
  | _ => none

/-- What holds of a crew at every point. -/
structure Consistent (t : Task) (c : Crew) : Prop where
  /-- What was handed in and what the workers have in hand is what the
  claimed candidates give, each of them once. -/
  accounted : (c.found ++ c.stages.filterMap (inHand t)).Perm (t.entries c.next)
  /-- A worker leaves when the search is cancelled or nothing is left to
  claim. -/
  gone : .gone ∈ c.stages → c.isCancelled = true ∨ t.candidates.length ≤ c.next

theorem consistent_start (n : Nat) : (start n).Consistent t where
  accounted := by
    have hnone : (start n).stages.filterMap (inHand t) = [] := by
      rw [List.filterMap_eq_nil_iff]
      intro st hst
      rw [List.eq_of_mem_replicate hst]
      rfl
    rw [hnone]
    exact List.Perm.refl _
  gone h := nomatch List.eq_of_mem_replicate h

theorem filterMap_cons_toList {α β : Type} (f : α → Option β) (x : α) (xs : List α) :
    (x :: xs).filterMap f = (f x).toList ++ xs.filterMap f := by
  rw [List.filterMap_cons]
  cases f x <;> rfl

theorem entries_succ (n : Nat) : t.entries (n + 1) = t.entries n ++ (t.entry? n).toList := by
  rw [Task.entries, List.range_succ, List.filterMap_append, filterMap_cons_toList,
    List.filterMap_nil, List.append_nil]
  rfl

theorem entry?_of_le {n : Nat} (h : t.candidates.length ≤ n) : t.entry? n = none := by
  rw [Task.entry?, Task.found?, List.getElem?_eq_none h]
  rfl

/-- A step of a worker moves the entry of a candidate from the open ones to
what is in hand, or from there to what was handed in. -/
theorem accounted_work (h : c.nextStage? t st = some st') (others : List (Nat × FileResult))
    (hc : (c.found ++ ((inHand t st).toList ++ others)).Perm (t.entries c.next)) :
    ((c.share st).found ++ ((inHand t st').toList ++ others)).Perm
      (t.entries (c.share st).next) := by
  cases st with
  | look =>
    cases h
    cases c.isCancelled <;> exact hc
  | claim =>
    cases h
    have hmoved : (c.found ++ ((t.entry? c.next).toList ++ others)).Perm
        (t.entries (c.next + 1)) := by
      rw [entries_succ]
      exact ((List.perm_append_comm.append_left c.found).trans
        (List.append_assoc _ _ _ ▸ List.Perm.refl _)).trans (hc.append_right _)
    by_cases hlt : c.next < t.candidates.length
    · rw [if_pos hlt]
      exact hmoved
    · rw [entry?_of_le (Nat.not_lt.1 hlt)] at hmoved
      rw [if_neg hlt]
      exact hmoved
  | search i =>
    cases h
    rw [inHand, Task.entry?] at hc
    cases hfound : t.found? i with
    | some f =>
      rw [hfound] at hc
      exact hc
    | none =>
      rw [hfound] at hc
      exact hc
  | report i f =>
    cases h
    rw [share, List.append_assoc]
    exact hc
  | gone => cases h

/-- A worker leaves for one of two reasons. -/
theorem gone_next (h : c.nextStage? t st = some .gone) :
    c.isCancelled = true ∨ t.candidates.length ≤ (c.share st).next := by
  cases st with
  | look =>
    rw [nextStage?] at h
    split at h
    · next hcancelled => exact .inl hcancelled
    · cases h
  | claim =>
    rw [nextStage?] at h
    split at h
    · cases h
    · next hle => exact .inr ((Nat.not_lt.1 hle).trans (Nat.le_succ _))
  | search i =>
    rw [nextStage?] at h
    split at h <;> cases h
  | report i f => cases h
  | gone => cases h

theorem Consistent.step (hc : c.Consistent t) (h : c.step? t m = some c') : c'.Consistent t := by
  obtain ⟨k, st, st', -, hst, hnext, rfl⟩ | ⟨-, -, rfl⟩ | ⟨-, -, -, rfl⟩ := step?_cases h
  · obtain ⟨others, hold, hnew⟩ := exists_others hst
    constructor
    · have hbefore := ((hold.filterMap (inHand t)).append_left c.found).symm.trans hc.accounted
      rw [filterMap_cons_toList] at hbefore
      have hafter := ((hnew st').filterMap (inHand t)).append_left (c.share st).found
      rw [filterMap_cons_toList] at hafter
      exact hafter.trans (accounted_work hnext _ hbefore)
    · intro hgone
      rw [isCancelled_share]
      rcases List.mem_or_eq_of_mem_set hgone with hgone | hgone
      · -- It had left before.
        refine (hc.gone hgone).imp_right fun hle => hle.trans ?_
        cases st <;> simp [share]
      · -- It leaves now.
        exact gone_next (hgone ▸ hnext)
  · exact ⟨hc.accounted, fun _ => .inl rfl⟩
  · exact ⟨hc.accounted, hc.gone⟩

theorem Consistent.run (hc : c.Consistent t) (h : c.run? t ms = some c') : c'.Consistent t :=
  keeps_run (fun _ _ _ hc hstep => hc.step hstep) hc h

/-! ## The answer -/

/-- The candidates that give something are numbered from the first to the
last. -/
theorem pairwise_entries (t : Task) (n : Nat) :
    (t.entries n).Pairwise fun a b => a.1 < b.1 := by
  refine List.Pairwise.filterMap t.entry? ?_ List.pairwise_lt_range
  intro i j hij a ha b hb
  obtain ⟨f, -, rfl⟩ := Option.map_eq_some_iff.1 ha
  obtain ⟨g, -, rfl⟩ := Option.map_eq_some_iff.1 hb
  exact hij

theorem entries_of_le {n : Nat} (h : t.candidates.length ≤ n) :
    t.entries n = t.entries t.candidates.length := by
  induction n, h using Nat.le_induction with
  | base => rfl
  | succ n hle ih => rw [entries_succ, entry?_of_le hle, ih, Option.toList_none, List.append_nil]

/-- All entries in order are what the candidates give one after the
other. -/
theorem map_snd_entries (t : Task) :
    (t.entries t.candidates.length).map Prod.snd = t.candidates.filterMap t.search := by
  have hall : (List.range t.candidates.length).map (t.candidates[·]?) =
      t.candidates.map some := by
    refine List.ext_getElem (by simp) fun i hi _ => ?_
    simp only [List.length_map, List.length_range] at hi
    simp [hi]
  calc (t.entries t.candidates.length).map Prod.snd
      = (List.range t.candidates.length).filterMap t.found? := by
        rw [Task.entries, List.map_filterMap]
        exact List.filterMap_congr fun i _ => by
          rw [Task.entry?]
          cases t.found? i <;> rfl
    _ = ((List.range t.candidates.length).map (t.candidates[·]?)).filterMap (·.bind t.search) := by
        rw [List.filterMap_map]
        rfl
    _ = t.candidates.filterMap t.search := by
        rw [hall, List.filterMap_map]
        rfl

/-- When all have left a search that was not cancelled, everything was
handed in. -/
theorem collected_eq (hc : c.Consistent t) (hgone : ∀ st ∈ c.stages, st = .gone)
    (hsome : c.stages ≠ []) (hno : c.isCancelled = false) :
    c.collected = t.candidates.filterMap t.search := by
  obtain ⟨st, hst⟩ := List.exists_mem_of_ne_nil _ hsome
  have hall : t.candidates.length ≤ c.next := by
    rcases hc.gone (hgone st hst ▸ hst) with hcancelled | hle
    · rw [hno] at hcancelled
      cases hcancelled
    · exact hle
  have hempty : c.stages.filterMap (inHand t) = [] := by
    rw [List.filterMap_eq_nil_iff]
    intro st hst
    rw [hgone st hst]
    rfl
  have hperm : c.found.Perm (t.entries t.candidates.length) := by
    have haccounted := hc.accounted
    rwa [hempty, List.append_nil, entries_of_le hall] at haccounted
  have hsorted : c.found.mergeSort (fun a b => decide (a.1 ≤ b.1)) =
      t.entries t.candidates.length := by
    have hascending : (c.found.mergeSort fun a b => decide (a.1 ≤ b.1)).Pairwise
        fun a b => a.1 ≤ b.1 :=
      (List.pairwise_mergeSort (fun a b c => by simpa using Nat.le_trans)
        (fun a b => by simpa using Nat.le_total a.1 b.1) c.found).imp of_decide_eq_true
    refine List.Perm.eq_of_pairwise (fun a b ha hb hab hba => ?_) hascending
      ((pairwise_entries t _).imp Nat.le_of_lt) ((List.mergeSort_perm _ _).trans hperm)
    -- Two entries with one number are the same.
    have hmem := hperm.mem_iff.1 (List.mem_mergeSort.1 ha)
    have hone : ∀ x ∈ t.entries t.candidates.length, t.entry? x.1 = some x := by
      intro x hx
      obtain ⟨i, -, hi⟩ := List.mem_filterMap.1 hx
      obtain ⟨f, -, rfl⟩ := Option.map_eq_some_iff.1 hi
      exact hi
    have heq : a.1 = b.1 := Nat.le_antisymm hab hba
    exact Option.some.inj ((hone a hmem).symm.trans (heq ▸ hone b hb))
  rw [collected, hsorted, map_snd_entries]

/-- Workers take steps, but none is added and none taken away. -/
theorem length_stages_run (h : c.run? t ms = some c') : c'.stages.length = c.stages.length := by
  refine keeps_run (P := fun d => d.stages.length = c.stages.length)
    (fun d m d' hlength hstep => ?_) rfl h
  obtain ⟨k, st, st', -, -, -, rfl⟩ | ⟨-, -, rfl⟩ | ⟨-, -, -, rfl⟩ := step?_cases hstep
  · exact List.length_set.trans hlength
  · exact hlength
  · exact hlength

/-- **The answer does not depend on who does what when**: it is the complete
one, unless the search was cancelled before the end. -/
theorem answer_eq {n : Nat} (hn : 0 < n) (h : (start n).run? t ms = some c)
    (hout : c.answer = some out) :
    ∃ before behind, ms = before ++ .conclude :: behind ∧
      out = if .cancel ∈ before then .error .cancelled else .ok t.results := by
  obtain ⟨before, behind, d, hms, hbefore, hgone, rfl⟩ := exists_conclude h rfl hout
  refine ⟨before, behind, hms, ?_⟩
  have hcancelled : d.isCancelled = true ↔ .cancel ∈ before := by
    rw [isCancelled_run hbefore]
    exact or_iff_right Bool.false_ne_true
  rw [conclusion]
  split
  · next hyes => rw [if_pos (hcancelled.1 hyes)]
  · next hno =>
    have hsome : d.stages ≠ [] := by
      rw [← List.length_pos_iff, length_stages_run hbefore]
      exact (List.length_replicate (a := Stage.look)).symm ▸ hn
    rw [if_neg fun hmem => hno (hcancelled.2 hmem),
      collected_eq ((consistent_start n).run hbefore) hgone hsome (Bool.not_eq_true _ ▸ hno)]
    rfl

end Crew
end Find
end CodeDesk
