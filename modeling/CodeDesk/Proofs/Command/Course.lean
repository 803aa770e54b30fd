import CodeDesk.Proofs.Command.Signalled
/-!
# Course — how far a run comes, and how it ends

What becomes of the programs of a run is given beforehand: each of them
cannot be started, or its process ends in some way if nothing ends it before
(`Fate`). `reference` reads off it how a run ends that nobody kills, and
`attempts` how many of its programs are tried.

A worker gets there stage by stage. `Run.Charted` says for every stage what
was tried so far, what failed so far and which processes there are, and
`Run.Fated` that the processes end as they were to, except for those that
the worker itself ended because a program could not be started. Every turn
of the worker keeps both (`Run.Charted.turn`, `Run.Fated.turn`).
-/

namespace CodeDesk
namespace Command

open Runner

/-- What becomes of a program. -/
inductive Fate where
  /-- It cannot be started. -/
  | refused (message : String)
  /-- It is started, and its process ends so if nothing ends it before. -/
  | ends (e : Machine.Exit)
  deriving DecidableEq, Repr, Inhabited

namespace Fate

/-- Whether it does what it should. -/
def isSuccess : Fate → Bool
  | refused _ => false
  | ends e => e.isSuccess

/-- Whether it cannot be started. -/
def isRefused : Fate → Bool
  | refused _ => true
  | ends _ => false

/-- How a run ends that fails with this program. -/
def blame (i : Nat) : Fate → Outcome
  | refused message => .spawnFailed i message
  | ends e => .failed i e.code?

/-- Whether no program is tried after it. -/
def stops (wait : Bool) (f : Fate) : Bool := if wait then !f.isSuccess else f.isRefused

end Fate

/-- The first of the programs that has such a fate. -/
def firstWith (q : Fate → Bool) (fate : Nat → Fate) (n : Nat) : Option Nat :=
  (List.range n).find? fun i => q (fate i)

/-- The first of the programs that does not do what it should. -/
def firstFailing (fate : Nat → Fate) (n : Nat) : Option Nat := firstWith (!·.isSuccess) fate n

/-- How many of the programs are tried. -/
def attempts (wait : Bool) (fate : Nat → Fate) (n : Nat) : Nat :=
  match firstWith (Fate.stops wait) fate n with
  | none => n
  | some i => i + 1

/-- How many of the programs are started. -/
def starts (wait : Bool) (fate : Nat → Fate) (n : Nat) : Nat :=
  match firstWith (Fate.stops wait) fate n with
  | none => n
  | some i => if (fate i).isRefused then i else i + 1

/-- How a run ends that nobody kills. -/
def reference (wait : Bool) (fate : Nat → Fate) (n : Nat) : Outcome :=
  match (firstWith (Fate.stops wait) fate n).or (firstFailing fate n) with
  | none => .success
  | some i => (fate i).blame i

section First

variable {q : Fate → Bool} {fate : Nat → Fate} {n i : Nat}

theorem firstWith_eq_none_iff : firstWith q fate n = none ↔ ∀ i < n, q (fate i) = false := by
  simp [firstWith]

theorem firstWith_eq_some_iff :
    firstWith q fate n = some i ↔ q (fate i) ∧ i < n ∧ ∀ j < i, q (fate j) = false := by
  simp [firstWith, List.find?_range_eq_some]

/-- One more program. -/
theorem firstWith_succ :
    firstWith q fate (n + 1) = (firstWith q fate n).or (if q (fate n) then some n else none) := by
  simp only [firstWith, List.range_succ, List.find?_append, List.find?_singleton]

end First

/-- No process goes on when it is ended. -/
theorem LiveProcess.isAlive_signal_forceEnd (p : LiveProcess) (now : Stamp) :
    (p.signal forceEnd now).isAlive = false := by
  have hends : (p.endures && forceEnd != forceEnd) = false := by simp
  unfold signal
  dsimp only
  rw [if_neg (by rw [hends]; exact Bool.false_ne_true)]
  show (p.ended.or (some (.signal forceEnd))).isNone = false
  cases p.ended <;> rfl

namespace Run

variable {run run' : Run} {fate : Nat → Fate} {tried : List Nat} {M : Machine} {d : Disk}
variable {now : Stamp} {i n : Nat} {o : Outcome}

/-! ## Where the worker is -/

/-- There are not more processes than programs, and only a program of the run
is started. -/
structure Bounded (run : Run) : Prop where
  length : run.processes.length ≤ run.plan.steps.length
  spawn : ∀ i, run.stage = .spawn i → i < run.plan.steps.length

/-- The programs before one were all tried. -/
def Passed (run : Run) (fate : Nat → Fate) (i : Nat) : Prop :=
  ∀ k < i, (fate k).stops run.plan.wait = false

/-- A program could not be started, and the processes of those before it are
ended. -/
structure GaveUp (run : Run) (fate : Nat → Fate) (tried : List Nat) (j : Nat) : Prop where
  wait : run.plan.wait = false
  within : j < run.plan.steps.length
  refused : (fate j).isRefused
  passed : run.Passed fate j
  tried : tried = List.range (j + 1)
  length : run.processes.length = j
  failure : run.failure = some ((fate j).blame j)

/-- All programs were started, and the first of them were waited for. -/
structure Judged (run : Run) (fate : Nat → Fate) (tried : List Nat) (i : Nat) : Prop where
  wait : run.plan.wait = false
  passed : run.Passed fate run.plan.steps.length
  tried : tried = List.range run.plan.steps.length
  length : run.processes.length = run.plan.steps.length
  failure : run.failure = (firstFailing fate i).map fun k => (fate k).blame k

/-- No process is at work. -/
def Still (run : Run) : Prop := ∀ p ∈ run.processes, p.isAlive = false

/-- The programs were carried out as they should be. -/
structure Completed (run : Run) (fate : Nat → Fate) (tried : List Nat) (o : Outcome) : Prop where
  outcome : o = reference run.plan.wait fate run.plan.steps.length
  tried : tried = List.range (attempts run.plan.wait fate run.plan.steps.length)
  length : run.processes.length = starts run.plan.wait fate run.plan.steps.length

/-- What the worker waits for: the process of the program it has just
started, those it has ended, or those of all programs. -/
def Awaiting (run : Run) (fate : Nat → Fate) (tried : List Nat) (i : Nat) : Prop :=
  (run.plan.wait ∧ tried = List.range (i + 1) ∧ run.Passed fate i ∧ run.failure = none) ∨
    (∃ j, run.GaveUp fate tried j ∧ run.Still) ∨ run.Judged fate tried i

/-- What was tried, failed and started up to a stage. -/
def Charted (run : Run) (fate : Nat → Fate) (tried : List Nat) : Prop :=
  match run.stage with
  | .idle => tried = [] ∧ run.failure = none
  | .decide i | .spawn i => tried = List.range i ∧ run.Passed fate i ∧ run.failure = none
  | .enlist i | .heed i => tried = List.range (i + 1) ∧ run.Passed fate i ∧ run.failure = none
  | .abandon k =>
    ∃ j, run.GaveUp fate tried j ∧ ∀ i < k, ∀ p, run.processes[i]? = some p → p.isAlive = false
  | .await i | .delist i | .collect i => run.Awaiting fate tried i
  | .report o | .settle o => run.Completed fate tried o
  | .strike o | .announce o => run.Completed fate tried o ∧ run.outcome = some o
  | .leave | .gone => ∃ o, run.Completed fate tried o ∧ run.outcome = some o

/-- The worker ends processes because a program cannot be started. -/
def GivesUp (run : Run) (fate : Nat → Fate) : Prop :=
  run.plan.wait = false ∧ ∃ j < run.plan.steps.length, (fate j).isRefused

/-- The processes are those of programs that can be started. Each ends as it
was to, unless the worker has ended it. -/
def Fated (run : Run) (fate : Nat → Fate) : Prop :=
  ∀ i p, run.processes[i]? = some p → ∃ e, fate i = .ends e ∧
    ∀ e', p.ended = some e' → e' = e ∨ (forceEnd ∈ p.signals ∧ run.GivesUp fate)

/-- Whether what comes of a try to start a program is what was to become of
it. -/
def meets (run : Run) (M : Machine) (d : Disk) (fate : Nat → Fate) : Bool :=
  match run.stage with
  | .spawn i =>
    match run.plan.steps[i]? with
    | none => true
    | some step =>
      match M.spawn d (run.job step) with
      | .error e => fate i == .refused (spawnMessage step.program e)
      | .ok _ => !(fate i).isRefused
  | _ => true

/-- The program that the worker tries to start by its next turn. -/
def trying (run : Run) : List Nat :=
  match run.stage with
  | .spawn i => if i < run.plan.steps.length then [i] else []
  | _ => []

/-! ## Nothing new for the worker -/

/-- Something happened to the processes, and nothing else. -/
structure Abides (run run' : Run) : Prop where
  plan : run'.plan = run.plan
  stage : run'.stage = run.stage
  failure : run'.failure = run.failure
  outcome : run'.outcome = run.outcome
  length : run'.processes.length = run.processes.length
  continues : Continues run run'

theorem abides_onProcess (run : Run) (i : Nat) {f : LiveProcess → LiveProcess}
    (hf : ∀ p : LiveProcess, p.Remains (f p)) : Abides run (run.onProcess i f) :=
  ⟨rfl, rfl, rfl, rfl, List.length_modify .., run.continues_onProcess i hf⟩

theorem Still.continues (h : run.Still) (hc : Continues run run') : run'.Still := by
  intro p' hp'
  obtain ⟨i, hi⟩ := List.mem_iff_getElem?.1 hp'
  obtain ⟨p, hp, hremains⟩ := hc i p' hi
  exact hremains.dead (h p (List.mem_of_getElem? hp))

theorem Passed.succ (h : run.Passed fate i) (hi : (fate i).stops run.plan.wait = false) :
    run.Passed fate (i + 1) := by
  intro k hk
  rcases Nat.lt_succ_iff_lt_or_eq.1 hk with hlt | rfl
  · exact h k hlt
  · exact hi

theorem Passed.congr (h : run.Passed fate i) (hplan : run'.plan = run.plan) :
    run'.Passed fate i := by
  intro k hk
  rw [hplan]
  exact h k hk

theorem GaveUp.congr {j : Nat} (h : run.GaveUp fate tried j) (hplan : run'.plan = run.plan)
    (hlength : run'.processes.length = run.processes.length)
    (hfailure : run'.failure = run.failure) : run'.GaveUp fate tried j where
  wait := hplan ▸ h.wait
  within := hplan ▸ h.within
  refused := h.refused
  passed := h.passed.congr hplan
  tried := h.tried
  length := hlength.trans h.length
  failure := hfailure.trans h.failure

theorem Judged.congr (h : run.Judged fate tried i) (hplan : run'.plan = run.plan)
    (hlength : run'.processes.length = run.processes.length)
    (hfailure : run'.failure = run.failure) : run'.Judged fate tried i where
  wait := hplan ▸ h.wait
  passed := by rw [hplan]; exact h.passed.congr hplan
  tried := by rw [hplan]; exact h.tried
  length := by rw [hplan, hlength]; exact h.length
  failure := hfailure.trans h.failure

theorem Completed.congr (h : run.Completed fate tried o) (hplan : run'.plan = run.plan)
    (hlength : run'.processes.length = run.processes.length) : run'.Completed fate tried o where
  outcome := by rw [hplan]; exact h.outcome
  tried := by rw [hplan]; exact h.tried
  length := by rw [hplan, hlength]; exact h.length

/-- The status line comes next. -/
theorem Completed.report (h : run.Completed fate tried o) :
    (run.goTo (.report o)).Charted fate tried := by
  have hnext : (run.goTo (.report o)).Completed fate tried o := h.congr rfl rfl
  exact hnext

theorem Awaiting.congr (h : run.Awaiting fate tried i) (hplan : run'.plan = run.plan)
    (hlength : run'.processes.length = run.processes.length)
    (hfailure : run'.failure = run.failure) (hc : Continues run run') :
    run'.Awaiting fate tried i := by
  rcases h with ⟨hwait, htried, hpassed, hnone⟩ | ⟨j, hgave, hstill⟩ | hjudged
  · exact Or.inl ⟨hplan ▸ hwait, htried, hpassed.congr hplan, hfailure.trans hnone⟩
  · exact Or.inr (Or.inl ⟨j, hgave.congr hplan hlength hfailure, hstill.continues hc⟩)
  · exact Or.inr (Or.inr (hjudged.congr hplan hlength hfailure))

/-- What happens to the processes leaves the worker where it is. -/
theorem Charted.abides (h : run.Charted fate tried) (ha : Abides run run') :
    run'.Charted fate tried := by
  have hpassed : ∀ {k : Nat}, run.Passed fate k → run'.Passed fate k := fun h => h.congr ha.plan
  have hcompleted : ∀ {o : Outcome}, run.Completed fate tried o → run'.Completed fate tried o :=
    fun h => h.congr ha.plan ha.length
  have hawaiting : ∀ {k : Nat}, run.Awaiting fate tried k → run'.Awaiting fate tried k :=
    fun h => h.congr ha.plan ha.length ha.failure ha.continues
  unfold Charted at h ⊢
  rw [ha.stage]
  cases hs : run.stage <;> rw [hs] at h <;> dsimp only at h ⊢
  case idle => exact ⟨h.1, ha.failure.trans h.2⟩
  case decide k | spawn k | enlist k | heed k =>
    exact ⟨h.1, hpassed h.2.1, ha.failure.trans h.2.2⟩
  case abandon k =>
    obtain ⟨j, hgave, hended⟩ := h
    refine ⟨j, hgave.congr ha.plan ha.length ha.failure, fun i hi p' hp' => ?_⟩
    obtain ⟨p, hp, hremains⟩ := ha.continues i p' hp'
    exact hremains.dead (hended i hi p hp)
  case await k | delist k | collect k => exact hawaiting h
  case report o | settle o => exact hcompleted h
  case strike o | announce o => exact ⟨hcompleted h.1, ha.outcome.trans h.2⟩
  case leave | gone =>
    obtain ⟨o, ho, hsome⟩ := h
    exact ⟨o, hcompleted ho, ha.outcome.trans hsome⟩

/-! ## How the processes end -/

theorem GaveUp.givesUp {j : Nat} (h : run.GaveUp fate tried j) : run.GivesUp fate :=
  ⟨h.wait, j, h.within, h.refused⟩

theorem Judged.not_givesUp (h : run.Judged fate tried i) : ¬ run.GivesUp fate := by
  rintro ⟨hwait, j, hj, hrefused⟩
  have hpassed := h.passed j hj
  rw [hwait, Fate.stops, if_neg Bool.false_ne_true, hrefused] at hpassed
  cases hpassed

/-- A process that has ended, with nothing but the worker against its end. -/
theorem Fated.ended {e : Machine.Exit} {p : LiveProcess} (h : run.Fated fate)
    (hgoes : ¬ run.GivesUp fate) (hp : run.processes[i]? = some p) (hended : p.ended = some e) :
    fate i = .ends e := by
  obtain ⟨e', he', hends⟩ := h i p hp
  rcases hends e hended with rfl | ⟨-, hgives⟩
  · exact he'
  · exact absurd hgives hgoes

theorem Fated.isRefused_eq_false (h : run.Fated fate) (hi : i < run.processes.length) :
    (fate i).isRefused = false := by
  obtain ⟨e, he, -⟩ := h i _ (List.getElem?_eq_getElem hi)
  rw [he]
  rfl

theorem Fated.of_eq (h : run.Fated fate) (hplan : run'.plan = run.plan)
    (hsame : run'.processes = run.processes) : run'.Fated fate := by
  unfold Fated GivesUp
  rw [hplan, hsame]
  exact h

/-- A process goes on, or ends as it may. -/
theorem Fated.onProcess {f : LiveProcess → LiveProcess} (h : run.Fated fate)
    (hf : ∀ p, run.processes[i]? = some p → (∀ n ∈ p.signals, n ∈ (f p).signals) ∧
      ∀ e, (f p).ended = some e → p.ended = some e ∨ fate i = .ends e ∨
        (forceEnd ∈ (f p).signals ∧ run.GivesUp fate)) :
    (run.onProcess i f).Fated fate := by
  intro j p' hp'
  rw [Run.onProcess, List.getElem?_modify] at hp'
  obtain ⟨p, hp, rfl⟩ := Option.map_eq_some_iff.1 hp'
  obtain ⟨e, he, hends⟩ := h j p hp
  refine ⟨e, he, fun e' he' => ?_⟩
  by_cases hij : i = j
  · subst hij
    rw [if_pos rfl] at he' ⊢
    obtain ⟨hsignals, hown⟩ := hf p hp
    rcases hown e' he' with hbefore | hfate | hforced
    · exact (hends e' hbefore).imp id fun hforced => ⟨hsignals _ hforced.1, hforced.2⟩
    · rw [he] at hfate
      cases hfate
      exact Or.inl rfl
    · exact Or.inr hforced
  · rw [if_neg hij] at he' ⊢
    exact hends e' he'

/-- A process goes on. -/
theorem Fated.idles {f : LiveProcess → LiveProcess} (h : run.Fated fate)
    (hf : LiveProcess.Idles f) (i : Nat) : (run.onProcess i f).Fated fate := by
  refine h.onProcess fun p _ => ?_
  obtain ⟨hended, hsignals⟩ := hf p
  rw [hended, hsignals]
  exact ⟨fun n => id, fun e => Or.inl⟩

/-- The worker ends a process because a program cannot be started. -/
theorem Fated.forced (h : run.Fated fate) (hgives : run.GivesUp fate) (i : Nat) (now : Stamp) :
    (run.onProcess i fun p => if p.isAlive then p.signal forceEnd now else p).Fated fate := by
  refine h.onProcess fun p _ => ?_
  split
  · refine ⟨(p.remains_signal _ _).signals, fun e _ => Or.inr (Or.inr ⟨?_, hgives⟩)⟩
    rw [LiveProcess.signals_signal]
    exact List.mem_cons_self
  · exact ⟨fun n => id, fun e => Or.inl⟩

theorem refused_of_meets {step : Step} {e : Machine.SpawnError} (h : run.meets M d fate)
    (hs : run.stage = .spawn i) (hstep : run.plan.steps[i]? = some step)
    (hfails : M.spawn d (run.job step) = .error e) :
    fate i = .refused (spawnMessage step.program e) := by
  rw [meets, hs] at h
  dsimp only at h
  rw [hstep] at h
  dsimp only at h
  rw [hfails] at h
  exact beq_iff_eq.1 h

theorem ends_of_meets {step : Step} {t : Machine.Trace} (h : run.meets M d fate)
    (hs : run.stage = .spawn i) (hstep : run.plan.steps[i]? = some step)
    (hstarts : M.spawn d (run.job step) = .ok t) : ∃ e, fate i = .ends e := by
  rw [meets, hs] at h
  dsimp only at h
  rw [hstep] at h
  dsimp only at h
  rw [hstarts] at h
  dsimp only at h
  cases hfate : fate i with
  | refused message =>
    rw [hfate] at h
    cases h
  | ends e => exact ⟨e, rfl⟩

/-- **A turn of the worker ends no process**, unless it gives up. -/
theorem Fated.turn (h : run.Fated fate) (hcharted : run.Charted fate tried) (hsound : run.Sound)
    (hmark : run.isCancelled = false) (hmeets : run.meets M d fate)
    (ht : run.Turn M d now run') : run'.Fated fate := by
  have hsteers : ∀ {next : Run}, Steers run next → next.Fated fate :=
    fun hs => h.of_eq hs.plan hs.processes
  cases ht with
  | decides i => exact hsteers (run.steers_decided i)
  | strays => exact h
  | refused i => exact hsteers (run.steers_afterSpawnFailure i _)
  | spawned i step t hs hstep ht =>
    obtain ⟨hlength, -⟩ : run.processes.length = i ∧ (run.plan.wait → run.Through i) :=
      hsound.at hs
    obtain ⟨e, he⟩ := ends_of_meets hmeets hs hstep ht
    intro j p hp
    dsimp only at hp
    rcases Nat.lt_or_ge j run.processes.length with hlt | hge
    · rw [List.getElem?_append_left hlt] at hp
      exact h j p hp
    · -- The new one has not ended.
      have hj := (List.getElem?_eq_some_iff.1 hp).1
      rw [List.length_append, List.length_singleton] at hj
      have hlast : j = i := by omega
      rw [List.getElem?_append_right hge, hlast, hlength, Nat.sub_self] at hp
      cases hp
      rw [hlast]
      exact ⟨e, he, fun e' he' => nomatch he'⟩
  | enlists => exact h.of_eq rfl rfl
  | heeds i =>
    rw [if_neg (hmark ▸ Bool.false_ne_true)]
    exact hsteers (run.steers_afterHeed i)
  | abandons i hs =>
    rw [Charted, hs] at hcharted
    obtain ⟨j, hgave, -⟩ := hcharted
    exact (h.forced hgave.givesUp i now).of_eq rfl rfl
  | abandoned => exact hsteers run.steers_awaitAll
  | reaps i => exact (h.idles LiveProcess.idles_reap i).of_eq rfl rfl
  | delists => exact h.of_eq rfl rfl
  | collects i =>
    have hs := Run.steers_afterCollect (run.onProcess i fun p => (p.keep [] .out).keep [] .err) i
    exact (h.idles LiveProcess.idles_keep_nil i).of_eq hs.plan hs.processes
  | reports | settles | strikes | announces => exact h.of_eq rfl rfl
  | leaves => exact h.of_eq rfl rfl

/-! ## From stage to stage, with the programs -/

theorem firstWith_of_passed (h : run.Passed fate n) :
    firstWith (Fate.stops run.plan.wait) fate n = none :=
  firstWith_eq_none_iff.2 h

/-- A run that ends with a program. -/
theorem completed_of_stops (hpassed : run.Passed fate i) (hi : i < run.plan.steps.length)
    (hstops : (fate i).stops run.plan.wait) (htried : tried = List.range (i + 1))
    (hlength : run.processes.length = if (fate i).isRefused then i else i + 1) :
    run.Completed fate tried ((fate i).blame i) := by
  have hfirst : firstWith (Fate.stops run.plan.wait) fate run.plan.steps.length = some i :=
    firstWith_eq_some_iff.2 ⟨hstops, hi, hpassed⟩
  constructor
  · rw [reference, hfirst]
    rfl
  · rw [attempts, hfirst]
    exact htried
  · rw [starts, hfirst]
    exact hlength

/-- A run that has started all its programs. -/
theorem completed_of_passed (hpassed : run.Passed fate run.plan.steps.length)
    (htried : tried = List.range run.plan.steps.length)
    (hlength : run.processes.length = run.plan.steps.length) :
    run.Completed fate tried
      (((firstFailing fate run.plan.steps.length).map fun k => (fate k).blame k).getD .success) := by
  have hfirst := firstWith_of_passed hpassed
  constructor
  · rw [reference, hfirst, Option.none_or]
    cases firstFailing fate run.plan.steps.length <;> rfl
  · rw [attempts, hfirst]
    exact htried
  · rw [starts, hfirst]
    exact hlength

theorem GaveUp.completed {j : Nat} (h : run.GaveUp fate tried j) :
    run.Completed fate tried (run.failure.getD .success) := by
  rw [h.failure, Option.getD_some]
  refine completed_of_stops h.passed h.within ?_ h.tried ?_
  · rw [Fate.stops, h.wait, if_neg Bool.false_ne_true, h.refused]
  · rw [if_pos h.refused, h.length]

theorem Judged.completed (h : run.Judged fate tried run.plan.steps.length) :
    run.Completed fate tried (run.failure.getD .success) := by
  rw [h.failure]
  exact completed_of_passed h.passed h.tried h.length

/-- Waiting for programs that were started at once. -/
theorem charted_awaitAll (h : (∃ j, run.GaveUp fate tried j ∧ run.Still) ∨ run.Judged fate tried 0) :
    run.awaitAll.Charted fate tried := by
  unfold awaitAll
  split
  · next hempty =>
    have hnone : run.processes.length = 0 := by rw [List.isEmpty_iff.1 hempty]; rfl
    rcases h with ⟨j, hgave, -⟩ | hjudged
    · exact hgave.completed.report
    · have hzero : run.plan.steps.length = 0 := hjudged.length.symm.trans hnone
      exact (hzero ▸ hjudged : run.Judged fate tried run.plan.steps.length).completed.report
  · rcases h with ⟨j, hgave, hstill⟩ | hjudged
    · exact Or.inr (Or.inl ⟨j, hgave.congr rfl rfl rfl, hstill⟩)
    · exact Or.inr (Or.inr (hjudged.congr rfl rfl rfl))

theorem charted_decided (htried : tried = List.range i) (hpassed : run.Passed fate i)
    (hfailure : run.failure = none) (hmark : run.isCancelled = false)
    (hlength : run.processes.length = i) (hbounded : run.Bounded) :
    (run.decided i).Charted fate tried := by
  unfold decided
  split
  · rw [hmark, Bool.and_false, if_neg Bool.false_ne_true]
    exact ⟨htried, hpassed, hfailure⟩
  · next hall =>
    -- No program is left, so all were tried.
    have hlast : i = run.plan.steps.length := by
      have := hbounded.length
      omega
    subst hlast
    split
    · next hwait =>
      have hnone : firstFailing fate run.plan.steps.length = none := by
        refine firstWith_eq_none_iff.2 fun k hk => ?_
        have hk := hpassed k hk
        rwa [Fate.stops, if_pos hwait] at hk
      have hcompleted := completed_of_passed hpassed htried hlength
      rw [hnone] at hcompleted
      exact hcompleted.report
    · next hwait =>
      exact charted_awaitAll
        (Or.inr ⟨Bool.eq_false_iff.2 hwait, hpassed, htried, hlength, hfailure⟩)

theorem charted_afterSpawnFailure {message : String} (htried : tried = List.range i)
    (hpassed : run.Passed fate i) (hi : i < run.plan.steps.length)
    (hlength : run.processes.length = i) (hfate : fate i = .refused message) :
    (run.afterSpawnFailure i message).Charted fate (tried ++ [i]) := by
  have hmore : tried ++ [i] = List.range (i + 1) := by rw [htried, List.range_succ]
  have hblame : (fate i).blame i = .spawnFailed i message := by rw [hfate]; rfl
  have hrefused : (fate i).isRefused := by rw [hfate]; rfl
  unfold afterSpawnFailure
  split
  · next hwait =>
    have hcompleted : run.Completed fate (tried ++ [i]) ((fate i).blame i) := by
      refine completed_of_stops hpassed hi ?_ hmore (by rw [if_pos hrefused, hlength])
      rw [Fate.stops, if_pos hwait, hfate]
      rfl
    rw [hblame] at hcompleted
    exact hcompleted.report
  · next hwait =>
    exact ⟨i, ⟨Bool.eq_false_iff.2 hwait, hi, hrefused, hpassed, hmore, hlength,
      congrArg some hblame.symm⟩, fun k hk => absurd hk (Nat.not_lt_zero k)⟩

theorem charted_afterHeed (htried : tried = List.range (i + 1)) (hpassed : run.Passed fate i)
    (hfailure : run.failure = none) (hstarted : (fate i).isRefused = false) :
    (run.afterHeed i).Charted fate tried := by
  unfold afterHeed
  split
  · next hwait => exact Or.inl ⟨hwait, htried, hpassed, hfailure⟩
  · next hwait =>
    have hgoes : (fate i).stops run.plan.wait = false := by
      rw [Fate.stops, if_neg hwait]
      exact hstarted
    exact ⟨htried, hpassed.succ hgoes, hfailure⟩

/-- What the end of a process means for the run. -/
theorem verdict_eq {e : Machine.Exit} {p : LiveProcess} (hmark : run.isCancelled = false)
    (hp : run.processes[i]? = some p) (hended : p.ended = some e) (hfate : fate i = .ends e) :
    run.verdict i = if (fate i).isSuccess then none else some ((fate i).blame i) := by
  rw [verdict, hp, Option.bind_some, hended, hmark, hfate]
  rfl

theorem charted_afterCollect {p : LiveProcess} (h : run.Awaiting fate tried i)
    (hfated : run.Fated fate) (hmark : run.isCancelled = false)
    (hlt : i < run.processes.length) (hp : run.processes[i]? = some p) (hended : p.ended.isSome)
    (halone : run.plan.wait → run.processes.length = i + 1) (hbounded : run.Bounded) :
    (run.afterCollect i).Charted fate tried := by
  obtain ⟨e, he⟩ := Option.isSome_iff_exists.1 hended
  have hi : i < run.plan.steps.length := Nat.lt_of_lt_of_le hlt hbounded.length
  unfold afterCollect
  rcases h with ⟨hwait, htried, hpassed, hfailure⟩ | ⟨j, hgave, hstill⟩ | hjudged
  · -- The next program is started if this one has succeeded.
    have hgoes : ¬ run.GivesUp fate := by
      rintro ⟨hwait', -⟩
      rw [hwait] at hwait'
      cases hwait'
    have hfate := hfated.ended hgoes hp he
    rw [if_pos hwait, verdict_eq hmark hp he hfate]
    cases hsuccess : (fate i).isSuccess
    · have hcompleted : run.Completed fate tried ((fate i).blame i) := by
        refine completed_of_stops hpassed hi ?_ htried ?_
        · rw [Fate.stops, if_pos hwait, hsuccess]
          rfl
        · rw [hfate]
          exact halone hwait
      exact hcompleted.report
    · have hpasses : (fate i).stops run.plan.wait = false := by
        rw [Fate.stops, if_pos hwait, hsuccess]
        rfl
      exact ⟨htried, hpassed.succ hpasses, hfailure⟩
  · -- The failure is known.
    rw [if_neg (hgave.wait ▸ Bool.false_ne_true), hgave.failure, Option.some_or]
    have hafter : ({ run with failure := some ((fate j).blame j) } : Run).GaveUp fate tried j :=
      hgave.congr rfl rfl hgave.failure.symm
    dsimp only
    split
    · exact Or.inr (Or.inl ⟨j, hafter.congr rfl rfl rfl, hstill⟩)
    · exact hafter.completed.report
  · have hfate := hfated.ended hjudged.not_givesUp hp he
    have hnext : run.failure.or (run.verdict i) =
        (firstFailing fate (i + 1)).map fun k => (fate k).blame k := by
      rw [verdict_eq hmark hp he hfate, hjudged.failure, firstFailing, firstFailing, firstWith_succ]
      cases firstWith (!·.isSuccess) fate i with
      | some k => rfl
      | none => cases (fate i).isSuccess <;> rfl
    rw [if_neg (hjudged.wait ▸ Bool.false_ne_true), hnext]
    have hafter : ({ run with failure := (firstFailing fate (i + 1)).map fun k => (fate k).blame k } :
        Run).Judged fate tried (i + 1) :=
      ⟨hjudged.wait, hjudged.passed, hjudged.tried, hjudged.length, rfl⟩
    dsimp only
    split
    · exact Or.inr (Or.inr (hafter.congr rfl rfl rfl))
    · next hmore =>
      have hall : i + 1 = run.plan.steps.length := by
        have := hjudged.length
        omega
      rw [hall] at hafter ⊢
      exact hafter.completed.report

theorem trying_of_lt (hs : run.stage = .spawn i) (hi : i < run.plan.steps.length) :
    run.trying = [i] := by
  rw [trying, hs]
  exact if_pos hi

theorem trying_of_not_lt (hs : run.stage = .spawn i) (hi : ¬ i < run.plan.steps.length) :
    run.trying = [] := by
  rw [trying, hs]
  exact if_neg hi

/-- **A turn of the worker keeps the chart.** It tries the programs one by one,
and what it finds is what was to become of them. -/
theorem Charted.turn (h : run.Charted fate tried) (hfated : run.Fated fate) (hsound : run.Sound)
    (hbounded : run.Bounded) (hmark : run.isCancelled = false) (hmeets : run.meets M d fate)
    (ht : run.Turn M d now run') : run'.Charted fate (tried ++ run.trying) := by
  -- Only at one stage something is tried.
  have hquiet : (∀ i, run.stage ≠ .spawn i) → run'.Charted fate tried →
      run'.Charted fate (tried ++ run.trying) := by
    intro hne hnext
    have hnone : run.trying = [] := by
      unfold trying
      split
      · next i hs => exact absurd hs (hne i)
      · rfl
    rwa [hnone, List.append_nil]
  cases ht with
  | decides i hs =>
    rw [Charted, hs] at h
    obtain ⟨htried, hpassed, hfailure⟩ := h
    obtain ⟨hlength, -⟩ : run.processes.length = i ∧ (run.plan.wait → run.Through i) :=
      hsound.at hs
    exact hquiet (by simp [hs]) (charted_decided htried hpassed hfailure hmark hlength hbounded)
  | strays i hs hbeyond =>
    have hi := List.getElem?_eq_none_iff.1 hbeyond
    rw [trying_of_not_lt hs (by omega), List.append_nil]
    exact h
  | refused i step e hs hstep hfails =>
    rw [Charted, hs] at h
    obtain ⟨htried, hpassed, -⟩ := h
    obtain ⟨hlength, -⟩ : run.processes.length = i ∧ (run.plan.wait → run.Through i) :=
      hsound.at hs
    have hi : i < run.plan.steps.length := hbounded.spawn i hs
    have hfate := refused_of_meets hmeets hs hstep hfails
    rw [trying_of_lt hs hi]
    exact charted_afterSpawnFailure htried hpassed hi hlength hfate
  | spawned i step t hs =>
    rw [Charted, hs] at h
    obtain ⟨htried, hpassed, hfailure⟩ := h
    rw [trying_of_lt hs (hbounded.spawn i hs)]
    exact ⟨by rw [htried, List.range_succ], hpassed.congr rfl, hfailure⟩
  | enlists i hs =>
    rw [Charted, hs] at h
    obtain ⟨htried, hpassed, hfailure⟩ := h
    exact hquiet (by simp [hs]) ⟨htried, hpassed.congr rfl, hfailure⟩
  | heeds i hs =>
    rw [Charted, hs] at h
    obtain ⟨htried, hpassed, hfailure⟩ := h
    obtain ⟨hlength, -⟩ : run.processes.length = i + 1 ∧ (run.plan.wait → run.Through i) :=
      hsound.at hs
    refine hquiet (by simp [hs]) ?_
    rw [if_neg (hmark ▸ Bool.false_ne_true)]
    exact charted_afterHeed htried hpassed hfailure (hfated.isRefused_eq_false (by omega))
  | abandons i hs =>
    rw [Charted, hs] at h
    obtain ⟨j, hgave, hended⟩ := h
    refine hquiet (by simp [hs]) ⟨j, hgave.congr rfl (List.length_modify ..) rfl, ?_⟩
    intro k hk p hp
    have hget : (run.processes.modify i fun p => if p.isAlive then p.signal forceEnd now else p)[k]? =
        some p := hp
    rw [List.getElem?_modify] at hget
    obtain ⟨q, hq, rfl⟩ := Option.map_eq_some_iff.1 hget
    rcases Nat.lt_succ_iff_lt_or_eq.1 hk with hlt | rfl
    · rw [if_neg (by omega)]
      exact hended k hlt q hq
    · rw [if_pos rfl]
      split
      · exact q.isAlive_signal_forceEnd now
      · next hdead => exact Bool.eq_false_iff.2 hdead
  | abandoned i hs hbeyond =>
    rw [Charted, hs] at h
    obtain ⟨j, hgave, hended⟩ := h
    refine hquiet (by simp [hs]) (charted_awaitAll (Or.inl ⟨j, hgave, fun p hp => ?_⟩))
    obtain ⟨k, hk⟩ := List.mem_iff_getElem?.1 hp
    have hlt := (List.getElem?_eq_some_iff.1 hk).1
    exact hended k (by omega) p hk
  | reaps i hs =>
    rw [Charted, hs] at h
    exact hquiet (by simp [hs]) (h.congr rfl (List.length_modify ..) rfl
      (run.continues_onProcess i LiveProcess.idles_reap.remains))
  | delists i hs =>
    rw [Charted, hs] at h
    exact hquiet (by simp [hs]) (h.congr rfl rfl rfl (continues_of_eq rfl))
  | collects i hs =>
    rw [Charted, hs] at h
    obtain ⟨hlt, -, halone, hwaited⟩ : i < run.processes.length ∧ run.Through i ∧
        (run.plan.wait → run.processes.length = i + 1) ∧ run.Waited i := hsound.at hs
    have hp := List.getElem?_eq_getElem hlt
    have hlength : (run.onProcess i fun p => (p.keep [] .out).keep [] .err).processes.length =
        run.processes.length := List.length_modify ..
    refine hquiet (by simp [hs]) ?_
    refine charted_afterCollect
      (p := (run.processes[i].keep [] .out).keep [] .err) ?_
      (hfated.idles LiveProcess.idles_keep_nil i) hmark ?_ ?_ ?_ ?_ ?_
    · exact h.congr rfl hlength rfl
        (run.continues_onProcess i LiveProcess.idles_keep_nil.remains)
    · rwa [hlength]
    · show (run.processes.modify i fun p => (p.keep [] .out).keep [] .err)[i]? = _
      rw [List.getElem?_modify_eq, hp]
      rfl
    · exact (hwaited _ hp).1
    · rw [hlength]
      exact halone
    · exact ⟨hlength ▸ hbounded.length, hbounded.spawn⟩
  | reports o hs =>
    rw [Charted, hs] at h
    have hnext : (run.goTo (.settle o)).Completed fate tried o := h.congr rfl rfl
    exact hquiet (by simp [hs]) hnext
  | settles o hs =>
    rw [Charted, hs] at h
    exact hquiet (by simp [hs]) ⟨h.congr rfl rfl, rfl⟩
  | strikes o hs =>
    rw [Charted, hs] at h
    obtain ⟨hcompleted, hsome⟩ := h
    exact hquiet (by simp [hs]) ⟨hcompleted.congr rfl rfl, hsome⟩
  | announces o hs =>
    rw [Charted, hs] at h
    obtain ⟨hcompleted, hsome⟩ := h
    exact hquiet (by simp [hs]) ⟨o, hcompleted.congr rfl rfl, hsome⟩
  | leaves hs =>
    rw [Charted, hs] at h
    obtain ⟨o, hcompleted, hsome⟩ := h
    exact hquiet (by simp [hs]) ⟨o, hcompleted.congr rfl rfl, hsome⟩

end Run
end Command
end CodeDesk
