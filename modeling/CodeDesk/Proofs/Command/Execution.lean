import CodeDesk.Proofs.Command.Pace
import CodeDesk.Proofs.Command.Told
/-!
# Execution — what a run does, from its beginning to its end

A history of a workshop follows the fates of the programs of a run if each
try to start one, and each process that ends by itself, comes out as they
say (`follows`). Whatever else happens, and in whatever order, the run comes
to what the fates ask for: `Chart` carries what its worker knows along the
history (`Chart.moves`), and `executed` reads off how the run has ended, what
was tried and started for it, and what was told about it.
-/

namespace CodeDesk
namespace Command
namespace Workshop

open Runner

variable {M : Machine} {s : Workshop} {m : Move} {id : RunId} {run run' : Run}
variable {fate : Nat → Fate} {tried : List Nat} {ms : List Move}

/-! ## Along a history -/

/-- The program of a run that is tried by a move. -/
def trying (s : Workshop) (id : RunId) : Move → List Nat
  | .work j => if j = id then (s.runner.runs[id]?).elim [] Run.trying else []
  | _ => []

/-- The programs of a run that are tried, one after the other. -/
def tries (M : Machine) (id : RunId) : Workshop → List Move → List Nat
  | _, [] => []
  | s, m :: ms => s.trying id m ++ tries M id (s.after M m) ms

/-- Whether a move is a turn of the worker of a run. -/
def isTurn (M : Machine) (s : Workshop) (id : RunId) : Move → Bool
  | .work j => j == id && (s.runner.work? M id).isSome
  | _ => false

/-- How many turns the worker of a run takes. -/
def turns (M : Machine) (id : RunId) : Workshop → List Move → Nat
  | _, [] => 0
  | s, m :: ms => (isTurn M s id m).toNat + turns M id (s.after M m) ms

/-- Whether a move brings about what was to become of a program of a run. -/
def conforms (M : Machine) (s : Workshop) (id : RunId) (fate : Nat → Fate) : Move → Bool
  | .work j => j != id || (s.runner.runs[id]?).all fun run => run.meets M s.runner.disk fate
  | .happen j i (.exits e) =>
    j != id || ((s.runner.runs[id]?).bind (·.processes[i]?)).all fun p =>
      !p.isAlive || fate i == .ends e
  | _ => true

/-- Whether a history brings about what was to become of the programs of a
run. -/
def follows (M : Machine) (id : RunId) (fate : Nat → Fate) : Workshop → List Move → Bool
  | _, [] => true
  | s, m :: ms => conforms M s id fate m && follows M id fate (s.after M m) ms

/-! ## Deeds that are no turns -/

/-- Nothing happens that the worker has to do. -/
structure Aside (M : Machine) (s : Workshop) (id : RunId) (run : Run) (m : Move) (run' : Run) :
    Prop where
  trying : s.trying id m = []
  isTurn : isTurn M s id m = false
  plan : run'.plan = run.plan
  length : run'.processes.length = run.processes.length
  toGo : run'.toGo = run.toGo
  tries : run'.trying = run.trying
  spawn : ∀ i, run'.stage = .spawn i → run.stage = .spawn i

theorem trying_work (hrun : s.runner.runs[id]? = some run) :
    s.trying id (.work id) = run.trying := by
  rw [trying, if_pos rfl, hrun]
  rfl

theorem trying_of_quiet (hrun : s.runner.runs[id]? = some run) (hquiet : Quiet M s id m) :
    s.trying id m = [] := by
  unfold trying
  split
  · next j =>
    split
    · next hj =>
      subst hj
      -- A worker that waits is not about to start a program.
      have hwaits := hquiet.1 rfl
      unfold work? at hwaits
      rw [hrun] at hwaits ⊢
      dsimp only at hwaits
      show run.trying = []
      unfold Run.trying
      split
      · next i hs =>
        rw [hs] at hwaits
        cases hwaits
      · rfl
    · rfl
  · rfl

theorem isTurn_of_quiet (hquiet : Quiet M s id m) : isTurn M s id m = false := by
  unfold isTurn
  split
  · next j =>
    by_cases hj : j = id
    · subst hj
      rw [hquiet.1 rfl]
      simp
    · simp [hj]
  · rfl

/-- **A deed is a turn of the worker, or leaves the worker where it is.** -/
theorem Deed.turn_or_aside (h : Deed M s id run m run') (hsane : s.Sane)
    (hrun : s.runner.runs[id]? = some run) :
    (m = .work id ∧ run.Turn M s.runner.disk s.runner.now run') ∨ Aside M s id run m run' := by
  have haside : ∀ {next : Run} {m : Move}, s.trying id m = [] → isTurn M s id m = false →
      next.plan = run.plan → next.stage = run.stage →
      next.processes.length = run.processes.length → Aside M s id run m next := by
    intro next m htrying hturn hplan hstage hlength
    refine ⟨htrying, hturn, hplan, hlength, Run.toGo_congr hplan hstage hlength, ?_, ?_⟩
    · rw [Run.trying, Run.trying, hstage, hplan]
    · intro i hs
      exact hstage.symm.trans hs
  have hsignal : ∀ n, run.Touched (run.signalListed n s.runner.now) :=
    fun n => run.touched_signalListed n _
  cases h with
  | rests _ hquiet =>
    exact Or.inr (haside (trying_of_quiet hrun hquiet) (isTurn_of_quiet hquiet) rfl rfl rfl)
  | works _ turn => exact Or.inl ⟨rfl, turn⟩
  | exits | goes => exact Or.inr (haside rfl rfl rfl rfl (List.length_modify ..))
  | marks => exact Or.inr (haside rfl rfl rfl rfl rfl)
  | terminates | forces =>
    exact Or.inr (haside rfl rfl (hsignal _).plan (hsignal _).stage (hsignal _).length)
  | begins k es head =>
    have hidle := hsane.idle_of_launch hrun head
    refine Or.inr ⟨rfl, rfl, rfl, rfl, ?_, ?_, fun i hs => ?_⟩
    · rw [Run.toGo.eq_def run, hidle]
      show run.turnsFrom 0 + 8 = 8 * run.plan.steps.length + 8
      simp [Run.turnsFrom]
    · rw [Run.trying.eq_def run, hidle]
      rfl
    · -- A run that has just begun is not about to start a program.
      cases hs

theorem Deed.plan_eq (h : Deed M s id run m run') (hsane : s.Sane)
    (hrun : s.runner.runs[id]? = some run) : run'.plan = run.plan := by
  rcases h.turn_or_aside hsane hrun with ⟨-, turn⟩ | haside
  · exact turn.plan_eq
  · exact haside.plan

theorem Deed.bounded (h : Deed M s id run m run') (hsane : s.Sane)
    (hrun : s.runner.runs[id]? = some run) (hbounded : run.Bounded) : run'.Bounded := by
  rcases h.turn_or_aside hsane hrun with ⟨-, turn⟩ | haside
  · exact hbounded.turn (hsane.consistent.sound run (List.mem_of_getElem? hrun)) turn
  · refine ⟨?_, fun i hs => ?_⟩
    · rw [haside.length, haside.plan]
      exact hbounded.length
    · rw [haside.plan]
      exact hbounded.spawn i (haside.spawn i hs)

/-! ## At every moment -/

/-- What holds of a workshop at every moment. -/
structure Steady (s : Workshop) : Prop where
  sane : s.Sane
  alert : s.Alert
  reported : s.Reported
  bounded : ∀ run ∈ s.runner.runs, run.Bounded

theorem Steady.ofDisk (d : Disk) (env : Table String String) : (Workshop.ofDisk d env).Steady :=
  ⟨.ofDisk d env, .ofDisk d env, .ofDisk d env, fun _ h => absurd h List.not_mem_nil⟩

theorem Steady.after (h : s.Steady) (M : Machine) (m : Move) : (s.after M m).Steady where
  sane := h.sane.after M m
  alert := h.alert.after h.sane M m
  reported := h.reported.after h.sane M m
  bounded := by
    refine forall_runs_after M m (fun p env now => ⟨Nat.zero_le _, nofun⟩) ?_ h.bounded
    exact fun id run run' hrun hbounded hdeed => hdeed.bounded h.sane hrun hbounded

theorem Steady.moves (h : s.Steady) (M : Machine) (ms : List Move) : (s.run M ms).Steady := by
  induction ms generalizing s with
  | nil => exact h
  | cons m ms ih => exact ih (h.after M m)

/-! ## How long it takes -/

/-- A run goes on under its plan. -/
theorem Steady.plan_run (h : s.Steady) (M : Machine) (ms : List Move)
    (hrun : s.runner.runs[id]? = some run) :
    ∃ run', (s.run M ms).runner.runs[id]? = some run' ∧ run'.plan = run.plan := by
  induction ms generalizing s run with
  | nil => exact ⟨run, hrun, rfl⟩
  | cons m ms ih =>
    obtain ⟨next, hnext, hdeed⟩ := deed_of_after M m hrun
    obtain ⟨last, hlast, hplan⟩ := ih (h.after M m) hnext
    exact ⟨last, hlast, hplan.trans (hdeed.plan_eq h.sane hrun)⟩

/-- **The turns that were taken and those that are left are not more than
there were.** -/
theorem Steady.turns_add_toGo_le (h : s.Steady) (M : Machine) (ms : List Move)
    (hrun : (s.run M ms).runner.runs[id]? = some run) :
    turns M id s ms + run.toGo ≤
      (s.runner.runs[id]?).elim (8 * run.plan.steps.length + 8) Run.toGo := by
  induction ms generalizing s with
  | nil =>
    have hrun' : s.runner.runs[id]? = some run := hrun
    rw [hrun', turns, Nat.zero_add]
    exact Nat.le_refl _
  | cons m ms ih =>
    have hrest := ih (h.after M m) hrun
    rw [turns]
    cases hold : s.runner.runs[id]? with
    | some old =>
      obtain ⟨next, hnext, hdeed⟩ := deed_of_after M m hold
      rw [hnext] at hrest
      have hmem := List.mem_of_getElem? hold
      show _ ≤ old.toGo
      have hrest' : turns M id (s.after M m) ms + run.toGo ≤ next.toGo := hrest
      rcases hdeed.turn_or_aside h.sane hold with ⟨-, turn⟩ | haside
      · have hless := turn.toGo_lt (h.sane.consistent.sound old hmem) (h.bounded old hmem)
        have hone := Bool.toNat_le (isTurn M s id m)
        omega
      · rw [haside.isTurn, ← haside.toGo]
        show 0 + _ + _ ≤ _
        omega
    | none =>
      -- A run that is not there takes no turn.
      have hnone : isTurn M s id m = false := by
        unfold isTurn
        split
        · unfold work?
          rw [hold]
          exact Bool.and_false _
        · rfl
      rw [hnone]
      show 0 + _ + _ ≤ 8 * run.plan.steps.length + 8
      cases hnext : (s.after M m).runner.runs[id]? with
      | none =>
        rw [hnext] at hrest
        have hrest' : turns M id (s.after M m) ms + run.toGo ≤ 8 * run.plan.steps.length + 8 := hrest
        omega
      | some next =>
        obtain ⟨p, rfl⟩ := exists_ofPlan_of_after M m hold hnext
        obtain ⟨last, hlast, hplan⟩ := (h.after M m).plan_run M ms hnext
        have hlast' : some last = some run := hlast.symm.trans hrun
        cases hlast'
        rw [hnext] at hrest
        have hrest' : turns M id (s.after M m) ms + run.toGo ≤ 8 * p.steps.length + 8 := hrest
        have hsame : run.plan.steps = p.steps := congrArg Plan.steps hplan
        rw [hsame]
        omega

/-- **A kill leaves at most one program to be tried**, with `wait` set. -/
theorem Steady.length_tries_le (h : s.Steady) (M : Machine) (ms : List Move)
    (hrun : s.runner.runs[id]? = some run) (hwait : run.plan.wait) (hmark : run.isCancelled) :
    (tries M id s ms).length ≤ run.trying.length := by
  induction ms generalizing s run with
  | nil => exact Nat.zero_le _
  | cons m ms ih =>
    obtain ⟨next, hnext, hdeed⟩ := deed_of_after M m hrun
    have hplan := hdeed.plan_eq h.sane hrun
    have hrest := ih (h.after M m) hnext (by rw [hplan]; exact hwait) (hdeed.isCancelled hmark)
    rw [tries, List.length_append]
    rcases hdeed.turn_or_aside h.sane hrun with ⟨rfl, turn⟩ | haside
    · rw [turn.trying_eq_nil hwait hmark] at hrest
      rw [trying_work hrun]
      have hzero : (tries M id (s.after M (.work id)) ms).length ≤ 0 := hrest
      omega
    · rw [haside.trying, ← haside.tries]
      show 0 + _ ≤ _
      omega

theorem length_trying_le (run : Run) : run.trying.length ≤ 1 := by
  unfold Run.trying
  split
  · split <;> simp
  · simp

/-! ## What the worker knows -/

/-- What is known of a run that nobody has killed. -/
structure Chart (s : Workshop) (id : RunId) (fate : Nat → Fate) (tried : List Nat) : Prop where
  unknown : s.runner.runs[id]? = none → tried = []
  charted : ∀ run, s.runner.runs[id]? = some run → run.isCancelled = false →
    run.Fated fate ∧ run.Charted fate tried

/-- Only a run that is marked is signalled. -/
theorem Alert.isCancelled_of_signalled {k : Nat} {e : Errand} {es : List Errand} (h : s.Alert)
    (head : s.callers[k]? = some (e :: es)) (hid : id ∈ signalled e)
    (hrun : s.runner.runs[id]? = some run) : run.isCancelled := by
  obtain ⟨marked, hmarked, hmark⟩ := (h.guarded _ (List.mem_of_getElem? head)).1 id hid
  rw [hrun] at hmarked
  cases hmarked
  exact hmark

/-- **Every deed keeps the chart**, if what comes of it is what the fates
say. -/
theorem Deed.charted (h : Deed M s id run m run') (hsteady : s.Steady)
    (hrun : s.runner.runs[id]? = some run) (hfated : run.Fated fate)
    (hcharted : run.Charted fate tried) (hconforms : conforms M s id fate m)
    (hmark : run'.isCancelled = false) :
    run'.Fated fate ∧ run'.Charted fate (tried ++ s.trying id m) := by
  have hmem := List.mem_of_getElem? hrun
  have hfree : run.isCancelled = false := h.unmarked hmark
  have hnotsignalled : ∀ {k : Nat} {e : Errand} {es : List Errand},
      s.callers[k]? = some (e :: es) → id ∈ signalled e → False := by
    intro k e es head hid
    rw [hsteady.alert.isCancelled_of_signalled head hid hrun] at hfree
    cases hfree
  cases h with
  | rests _ hquiet =>
    rw [trying_of_quiet hrun hquiet, List.append_nil]
    exact ⟨hfated, hcharted⟩
  | works _ turn =>
    have hmeets : run.meets M s.runner.disk fate := by
      rw [conforms, hrun, bne_self_eq_false, Bool.false_or] at hconforms
      exact hconforms
    have hsound := hsteady.sane.consistent.sound run hmem
    rw [trying_work hrun]
    exact ⟨hfated.turn hcharted hsound hfree hmeets turn,
      hcharted.turn hfated hsound (hsteady.bounded run hmem) hfree hmeets turn⟩
  | exits i e p hp halive =>
    have hfate : fate i = .ends e := by
      rw [conforms, hrun, Option.bind_some, hp, bne_self_eq_false, Bool.false_or, Option.all_some,
        halive] at hconforms
      exact beq_iff_eq.1 hconforms
    have hnone : s.trying id (.happen id i (.exits e)) = [] := rfl
    rw [hnone, List.append_nil]
    refine ⟨hfated.onProcess fun q _ => ⟨fun n hn => hn, fun e' he' => Or.inr (Or.inl ?_)⟩,
      hcharted.abides (run.abides_onProcess i fun q => q.remains_finish e)⟩
    cases he'
    exact hfate
  | goes i _ f hidles =>
    have hnone : ∀ h : Happening, s.trying id (.happen id i h) = [] := fun _ => rfl
    rw [hnone, List.append_nil]
    exact ⟨hfated.idles hidles i, hcharted.abides (run.abides_onProcess i hidles.remains)⟩
  | marks => cases hmark
  | terminates k es head => exact (hnotsignalled head (List.mem_singleton_self id)).elim
  | forces k es head => exact (hnotsignalled head (List.mem_singleton_self id)).elim
  | begins k es head =>
    have hidle := hsteady.sane.idle_of_launch hrun head
    rw [Run.Charted, hidle] at hcharted
    obtain ⟨rfl, hfailure⟩ := hcharted
    exact ⟨hfated.of_eq rfl rfl, rfl, fun k hk => absurd hk (Nat.not_lt_zero k), hfailure⟩

theorem Chart.after (h : s.Chart id fate tried) (hsteady : s.Steady)
    (hconforms : conforms M s id fate m) :
    (s.after M m).Chart id fate (tried ++ s.trying id m) := by
  cases hold : s.runner.runs[id]? with
  | some old =>
    obtain ⟨next, hnext, hdeed⟩ := deed_of_after M m hold
    refine ⟨fun hnone => ?_, fun run hrun hmark => ?_⟩
    · rw [hnext] at hnone
      cases hnone
    · rw [hnext] at hrun
      cases hrun
      obtain ⟨hfated, hcharted⟩ := h.charted old hold (hdeed.unmarked hmark)
      exact hdeed.charted hsteady hold hfated hcharted hconforms hmark
  | none =>
    have hnone : tried ++ s.trying id m = [] := by
      rw [h.unknown hold, List.nil_append]
      unfold trying
      split
      · rw [hold]
        split <;> rfl
      · rfl
    rw [hnone]
    refine ⟨fun _ => rfl, fun run hrun _ => ?_⟩
    obtain ⟨p, rfl⟩ := exists_ofPlan_of_after M m hold hrun
    exact ⟨fun i q hq => (nomatch hq), rfl, rfl⟩

/-- **A history that follows the fates keeps the chart.** -/
theorem Chart.moves (h : s.Chart id fate tried) (hsteady : s.Steady)
    (hfollows : follows M id fate s ms) :
    (s.run M ms).Chart id fate (tried ++ tries M id s ms) := by
  induction ms generalizing s tried with
  | nil =>
    rw [tries, List.append_nil]
    exact h
  | cons m ms ih =>
    obtain ⟨hfirst, hrest⟩ := Bool.and_eq_true_iff.1 hfollows
    rw [tries, ← List.append_assoc]
    exact ih (h.after hsteady hfirst) (hsteady.after M m) hrest

theorem Chart.ofDisk (d : Disk) (env : Table String String) (id : RunId) (fate : Nat → Fate) :
    (Workshop.ofDisk d env).Chart id fate [] :=
  ⟨fun _ => rfl, fun _ hrun => nomatch hrun⟩

/-! ## How a run has ended -/

/-- What a run does, from its beginning to its end, in a history from some
start on. Its programs are counted from 0, and what becomes of them is given
by their fates. -/
structure Executed (M : Machine) (start : Workshop) (ms : List Move) (id : RunId) (run : Run) :
    Prop where
  /-- With `wait` set a program is started only when the process of the one
  before it has ended, was waited for and has closed its output. -/
  inTurn : run.plan.wait → ∀ i p, i + 1 < run.processes.length → run.processes[i]? = some p →
    p.Finished
  /-- With `wait` set the programs are tried up to the first that does not
  succeed. -/
  waiting : ∀ fate, follows M id fate start ms → run.isCancelled = false → run.isOver →
    run.plan.wait →
    match firstFailing fate run.plan.steps.length with
    | none =>
      tries M id start ms = List.range run.plan.steps.length ∧
        run.processes.length = run.plan.steps.length ∧ run.outcome = some .success
    | some i =>
      tries M id start ms = List.range (i + 1) ∧
        run.processes.length = (if (fate i).isRefused then i else i + 1) ∧
        run.outcome = some ((fate i).blame i)
  /-- Otherwise, if all of them can be started, all are started and waited for,
  and the first that fails is to blame. -/
  atOnce : ∀ fate, follows M id fate start ms → run.isCancelled = false → run.isOver →
    run.plan.wait = false → (∀ i < run.plan.steps.length, (fate i).isRefused = false) →
    tries M id start ms = List.range run.plan.steps.length ∧
      run.processes.length = run.plan.steps.length ∧ (∀ p ∈ run.processes, p.Finished) ∧
      run.outcome = some (match firstFailing fate run.plan.steps.length with
        | none => .success
        | some i => (fate i).blame i)
  /-- If one cannot be started, those before it are ended before they are
  waited for, and those behind it are not tried. -/
  undone : ∀ fate j, follows M id fate start ms → run.isCancelled = false →
    run.plan.wait = false → j < run.plan.steps.length → (fate j).isRefused →
    (∀ i < j, (fate i).isRefused = false) →
    (∀ i, run.stage = .await i → ∀ p ∈ run.processes, p.isAlive = false) ∧
    (run.isOver → tries M id start ms = List.range (j + 1) ∧ run.processes.length = j ∧
      (∀ i p, run.processes[i]? = some p → p.Finished ∧
        (forceEnd ∈ p.signals ∨ ∃ e, fate i = .ends e ∧ p.ended = some e)) ∧
      run.outcome = some ((fate j).blame j))
  /-- Once the run is killed, at most one more program is tried, with `wait`
  set. -/
  killed : run.plan.wait → ∀ before after, ms = before ++ after →
    Marked (start.run M before).runner id → (tries M id (start.run M before) after).length ≤ 1
  /-- The events about it are those that its stage tells of. -/
  told : (start.run M ms).runner.events.filter (·.about == id) = run.told id
  /-- When it is over, it was announced once and its end once, and the last
  line it wrote is its status line. -/
  ended : run.isOver → ∃ o, run.outcome = some o ∧
    run.told id =
      [.started id run.plan.label run.plan.focus, .finished id run.plan.label o] ∧
    Concluded (start.run M ms).record id run o ∧ ∀ p ∈ run.processes, p.Finished
  /-- When its end is announced, it is off the running table. -/
  struck : ∀ label o, .finished id label o ∈ (start.run M ms).runner.events →
    ∀ name, (start.run M ms).runner.table.get? name ≠ some id
  /-- Its worker takes a limited number of turns. -/
  turns : turns M id start ms ≤ 8 * run.plan.steps.length + 8
  /-- Once it has begun, its worker waits only for a process to end or to close
  its output, until the run is over. -/
  waits : run.stage ≠ .idle → (start.run M ms).runner.work? M id = none →
    run.isOver ∨ ∃ p ∈ run.processes, p.isAlive ∨ p.closed = false

section Reading

variable {start : Workshop}

theorem stage_of_isOver (h : run.isOver) : run.stage = .gone := beq_iff_eq.1 h

/-- What the chart says of a run that is over. -/
theorem Chart.completed (h : s.Chart id fate tried) (hrun : s.runner.runs[id]? = some run)
    (hmark : run.isCancelled = false) (hover : run.isOver) :
    ∃ o, run.Completed fate tried o ∧ run.outcome = some o := by
  have hcharted := (h.charted run hrun hmark).2
  rwa [Run.Charted, stage_of_isOver hover] at hcharted

/-- All processes but the last are finished, with `wait` set. -/
theorem finished_of_wait (h : run.Sound) (hwait : run.plan.wait) {i : Nat} {p : LiveProcess}
    (hi : i + 1 < run.processes.length) (hp : run.processes[i]? = some p) : p.Finished := by
  have hmem := List.mem_of_getElem? hp
  by_cases hworking : run.stage.isWorking
  · unfold Run.Sound at h
    cases hs : run.stage <;> rw [hs] at h hworking <;> dsimp only at h
    case idle => omega
    case decide k | spawn k | enlist k | heed k =>
      obtain ⟨hlength, hthrough⟩ := h
      exact hthrough hwait i (by omega) p hp
    case abandon k =>
      rw [hwait] at h
      cases h
    case await k =>
      obtain ⟨-, hthrough, halone⟩ := h
      have := halone hwait
      exact hthrough i (by omega) p hp
    case delist k | collect k =>
      obtain ⟨-, hthrough, halone, -⟩ := h
      have := halone hwait
      exact hthrough i (by omega) p hp
    all_goals cases hworking
  · exact h.finished (Bool.eq_false_iff.2 hworking) p hmem

/-- With `wait` set a program stops the others if it does not succeed. -/
theorem stops_true : Fate.stops true = (!·.isSuccess) := by
  funext f
  rw [Fate.stops, if_pos rfl]

theorem stops_false : Fate.stops false = Fate.isRefused := by
  funext f
  rw [Fate.stops, if_neg Bool.false_ne_true]

/-- How a run is carried out that starts its programs one after the other. -/
theorem completed_waiting {o : Outcome} (h : run.Completed fate tried o) (hwait : run.plan.wait)
    (hsome : run.outcome = some o) :
    match firstFailing fate run.plan.steps.length with
    | none =>
      tried = List.range run.plan.steps.length ∧
        run.processes.length = run.plan.steps.length ∧ run.outcome = some .success
    | some i =>
      tried = List.range (i + 1) ∧
        run.processes.length = (if (fate i).isRefused then i else i + 1) ∧
        run.outcome = some ((fate i).blame i) := by
  obtain ⟨ho, htried, hlength⟩ := h
  rw [reference, hwait, stops_true, ← firstFailing, Option.or_self] at ho
  rw [attempts, hwait, stops_true, ← firstFailing] at htried
  rw [starts, hwait, stops_true, ← firstFailing] at hlength
  rw [hsome, ho]
  cases hfirst : firstFailing fate run.plan.steps.length with
  | none =>
    rw [hfirst] at htried hlength
    exact ⟨htried, hlength, rfl⟩
  | some i =>
    rw [hfirst] at htried hlength
    exact ⟨htried, hlength, rfl⟩

/-- How a run is carried out that starts all its programs at once. -/
theorem completed_atOnce {o : Outcome} (h : run.Completed fate tried o)
    (hwait : run.plan.wait = false)
    (hstarts : ∀ i < run.plan.steps.length, (fate i).isRefused = false) :
    tried = List.range run.plan.steps.length ∧ run.processes.length = run.plan.steps.length ∧
      o = match firstFailing fate run.plan.steps.length with
        | none => .success
        | some i => (fate i).blame i := by
  obtain ⟨ho, htried, hlength⟩ := h
  have hnone : firstWith (Fate.stops run.plan.wait) fate run.plan.steps.length = none := by
    rw [hwait, stops_false]
    exact firstWith_eq_none_iff.2 hstarts
  rw [reference, hnone, Option.none_or] at ho
  rw [attempts, hnone] at htried
  rw [starts, hnone] at hlength
  exact ⟨htried, hlength, ho⟩

/-- How a run is carried out that cannot start all its programs at once. -/
theorem completed_undone {o : Outcome} {j : Nat} (h : run.Completed fate tried o)
    (hwait : run.plan.wait = false) (hj : j < run.plan.steps.length) (hrefused : (fate j).isRefused)
    (hstarts : ∀ i < j, (fate i).isRefused = false) :
    tried = List.range (j + 1) ∧ run.processes.length = j ∧ o = (fate j).blame j := by
  obtain ⟨ho, htried, hlength⟩ := h
  have hsome : firstWith (Fate.stops run.plan.wait) fate run.plan.steps.length = some j := by
    rw [hwait, stops_false]
    exact firstWith_eq_some_iff.2 ⟨hrefused, hj, hstarts⟩
  rw [reference, hsome, Option.some_or] at ho
  rw [attempts, hsome] at htried
  rw [starts, hsome] at hlength
  dsimp only at hlength
  rw [if_pos hrefused] at hlength
  exact ⟨htried, hlength, ho⟩

/-- Nothing is at work when processes are waited for because a program could
not be started. -/
theorem still_of_await {i j : Nat} (h : run.Charted fate tried) (hs : run.stage = .await i)
    (hwait : run.plan.wait = false) (hj : j < run.plan.steps.length)
    (hrefused : (fate j).isRefused) : run.Still := by
  rw [Run.Charted, hs] at h
  rcases h with ⟨hwait', -⟩ | ⟨k, -, hstill⟩ | hjudged
  · rw [hwait] at hwait'
    cases hwait'
  · exact hstill
  · exact absurd ⟨hwait, j, hj, hrefused⟩ hjudged.not_givesUp

/-- A process that has ended did so as it was to, or was ended. -/
theorem forced_or_ended {i : Nat} {p : LiveProcess} (h : run.Fated fate)
    (hp : run.processes[i]? = some p) (hfinished : p.Finished) :
    forceEnd ∈ p.signals ∨ ∃ e, fate i = .ends e ∧ p.ended = some e := by
  obtain ⟨e, he, hends⟩ := h i p hp
  obtain ⟨e', he'⟩ := Option.isSome_iff_exists.1 hfinished.ended
  rcases hends e' he' with rfl | ⟨hforced, -⟩
  · exact Or.inr ⟨e', he, he'⟩
  · exact Or.inl hforced

/-- The end of a run is told of only when the run is off the table. -/
theorem Steady.struck (h : s.Steady) (hrun : s.runner.runs[id]? = some run) {label : String}
    {o : Outcome} (htold : .finished id label o ∈ s.runner.events) (name : String) :
    s.runner.table.get? name ≠ some id := by
  have hmem : .finished id label o ∈ run.told id := by
    have hfilter := h.reported id
    rw [hrun] at hfilter
    have hin : .finished id label o ∈ s.runner.events.filter (·.about == id) :=
      List.mem_filter.2 ⟨htold, beq_self_eq_true id⟩
    rwa [hfilter] at hin
  have hend : run.stage.isListed = false := by
    unfold Run.told at hmem
    split at hmem
    · cases hmem
    · next hs => rw [hs]; rfl
    · next hs => rw [hs]; rfl
    · cases List.mem_singleton.1 hmem
  intro hlisted
  obtain ⟨-, other, hother, -, hstands⟩ := (h.sane.consistent.books.listed name id).1 hlisted
  rw [hrun] at hother
  cases hother
  rw [hend] at hstands
  cases hstands

end Reading

/-- **A run does what its programs ask for, whatever the order of the steps.**
In every history of a workshop, with `wait` set or not, and for every list of
programs and whatever becomes of each: the programs are tried in order and as
far as they should be, the status is that of the first to blame, processes
that are not needed any more are ended and all are waited for, and the run is
announced once, and its end once, when it is off the running table. -/
theorem executed (M : Machine) (d : Disk) (env : Table String String) (ms : List Move) (id : RunId)
    (run : Run) (there : ((ofDisk d env).run M ms).runner.runs[id]? = some run) :
    Executed M (ofDisk d env) ms id run := by
  have hstart := Steady.ofDisk d env
  have hsteady := hstart.moves M ms
  have hmem := List.mem_of_getElem? there
  have hsound := hsteady.sane.consistent.sound run hmem
  have hchart : ∀ fate, follows M id fate (ofDisk d env) ms →
      ((ofDisk d env).run M ms).Chart id fate (tries M id (ofDisk d env) ms) :=
    fun fate hfollows => (Chart.ofDisk d env id fate).moves hstart hfollows
  have hfinished : run.isOver → ∀ p ∈ run.processes, p.Finished := by
    intro hover
    exact hsound.finished (by rw [stage_of_isOver hover]; rfl)
  constructor
  case inTurn => exact fun hwait i p hi hp => finished_of_wait hsound hwait hi hp
  case waiting =>
    intro fate hfollows hmark hover hwait
    obtain ⟨o, hcompleted, hsome⟩ := (hchart fate hfollows).completed there hmark hover
    exact completed_waiting hcompleted hwait hsome
  case atOnce =>
    intro fate hfollows hmark hover hwait hstarts
    obtain ⟨o, hcompleted, hsome⟩ := (hchart fate hfollows).completed there hmark hover
    obtain ⟨htried, hlength, ho⟩ := completed_atOnce hcompleted hwait hstarts
    exact ⟨htried, hlength, hfinished hover, by rw [hsome, ho]⟩
  case undone =>
    intro fate j hfollows hmark hwait hj hrefused hstarts
    obtain ⟨hfated, hcharted⟩ := (hchart fate hfollows).charted run there hmark
    refine ⟨fun i hs => still_of_await hcharted hs hwait hj hrefused, fun hover => ?_⟩
    obtain ⟨o, hcompleted, hsome⟩ := (hchart fate hfollows).completed there hmark hover
    obtain ⟨htried, hlength, ho⟩ := completed_undone hcompleted hwait hj hrefused hstarts
    refine ⟨htried, hlength, fun i p hp => ?_, by rw [hsome, ho]⟩
    have hp' := hfinished hover p (List.mem_of_getElem? hp)
    exact ⟨hp', forced_or_ended hfated hp hp'⟩
  case killed =>
    rintro hwait before after rfl ⟨old, hold, hmark⟩
    have hbefore := hstart.moves M before
    obtain ⟨last, hlast, hplan⟩ := hbefore.plan_run M after hold
    have hsame : ((ofDisk d env).run M before).run M after =
        (ofDisk d env).run M (before ++ after) := (List.foldl_append ..).symm
    rw [hsame, there] at hlast
    cases hlast
    have hmore := hbefore.length_tries_le M after hold (hplan ▸ hwait) hmark
    exact Nat.le_trans hmore (length_trying_le old)
  case told =>
    rw [hsteady.reported id, there]
    rfl
  case ended =>
    intro hover
    have hs := stage_of_isOver hover
    obtain ⟨o, hended, hline⟩ :=
      hsteady.sane.consistent.written.closed id run there (by rw [hs]; rfl)
    rw [Run.EndedAs, hs] at hended
    have hsome : run.outcome = some o := hended
    refine ⟨o, hsome, ?_, hline, hfinished hover⟩
    rw [Run.told, hs]
    dsimp only
    rw [hsome, Option.getD_some]
  case struck => exact fun label o htold name => hsteady.struck there htold name
  case turns =>
    have hle := hstart.turns_add_toGo_le M ms there
    have hle' : turns M id (ofDisk d env) ms + run.toGo ≤ 8 * run.plan.steps.length + 8 := hle
    omega
  case waits => exact fun hbegun hwaits => waits_of_work? hwaits there hbegun

/-- Of two programs that are started at once the second cannot be, so the
first is ended. -/
theorem executed_undone :
    let M : Machine := ⟨fun _ job =>
      if job.program = "serve" then .ok ⟨[], none, none, true⟩ else .error .missing⟩
    let p : Plan := ⟨"serve", [⟨"serve", []⟩, ⟨"open", []⟩], default, false, false, .plain, false⟩
    let ms := .dispatch p :: List.replicate 5 (.attend 0) ++ List.replicate 10 (.work 0) ++
      [.happen 0 0 .closes] ++ List.replicate 6 (.work 0)
    ∃ run message, ((ofDisk default Table.empty).run M ms).runner.runs[0]? = some run ∧
      Executed M (ofDisk default Table.empty) ms 0 run ∧ run.isOver ∧
      tries M 0 (ofDisk default Table.empty) ms = [0, 1] ∧ run.processes.length = 1 ∧
      run.outcome = some (.spawnFailed 1 message) := by
  intro M p ms
  let fate : Nat → Fate := fun i =>
    if i = 0 then .ends (.code 0) else .refused (spawnMessage "open" .missing)
  have hfollows : follows M 0 fate (ofDisk default Table.empty) ms := by decide +kernel
  have ready : (((ofDisk default Table.empty).run M ms).runner.runs[0]?).any (fun run =>
      run.isOver && !run.isCancelled && !run.plan.wait && run.plan.steps.length == 2) = true := by
    decide +kernel
  obtain ⟨run, there, hrun⟩ := (Option.any_eq_true _ _).1 ready
  simp only [Bool.and_eq_true, Bool.not_eq_true', beq_iff_eq] at hrun
  obtain ⟨⟨⟨hover, hmark⟩, hwait⟩, hsteps⟩ := hrun
  have hexecuted := executed M default Table.empty ms 0 run there
  have hbefore : ∀ i < 1, (fate i).isRefused = false := by decide
  obtain ⟨-, hend⟩ :=
    hexecuted.undone fate 1 hfollows hmark hwait (by omega) rfl hbefore
  obtain ⟨htries, hlength, -, houtcome⟩ := hend hover
  exact ⟨run, _, there, hexecuted, hover, htries, hlength, houtcome⟩

end Workshop
end Command
end CodeDesk
