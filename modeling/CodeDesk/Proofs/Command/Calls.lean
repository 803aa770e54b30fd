import CodeDesk.Proofs.Command.Consistent
/-!
# Calls — the steps that all callers have left

A caller that sets up a run goes on to register it and to tell its worker to
begin, and until then nobody else registers this run or makes it begin:
`Starts` says that the runs of different calls are different, that a run
that is still to begin has not begun, and that one that is still to be
registered was not. With this each call can rely on what its steps need
(`Calls`), and it can still do so when others have taken a step
(`Calls.onward`), when a call comes in (`Calls.call`) and when a caller has
taken a step (`Calls.attend`).
-/

namespace CodeDesk
namespace Command
namespace Workshop

open Runner

variable {r r' : Runner} {runs : List Run} {roll new : List RunId}
variable {callers : List (List Errand)} {es es' other : List Errand} {id : RunId} {k : Nat}

/-- The runs that callers have set up and not yet made begin. -/
structure Starts (runs : List Run) (roll : List RunId) (callers : List (List Errand)) : Prop where
  /-- Each of them belongs to one call. -/
  apart : ∀ (j k : Nat) (es es' : List Errand) (id : RunId), callers[j]? = some es →
    callers[k]? = some es' → .launch id ∈ es → .launch id ∈ es' → j = k
  /-- A run that is still to begin has not begun. -/
  launch : ∀ es ∈ callers, ∀ id, .launch id ∈ es →
    ∃ run : Run, runs[id]? = some run ∧ run.stage = .idle
  /-- A run that is still to be registered was not, and has the label. -/
  register : ∀ es ∈ callers, ∀ name id, .register name id ∈ es →
    id ∉ roll ∧ Labelled runs id name

/-- The calls can rely on what their steps need. -/
structure Calls (r : Runner) (roll : List RunId) (callers : List (List Errand)) : Prop where
  starts : Starts r.runs roll callers
  orderly : ∀ es ∈ callers, Orderly (Holds r roll) es

/-- The steps a caller has left after one of them, or those of another. -/
theorem of_getElem?_set {j : Nat} (h : (callers.set k es')[j]? = some other) :
    (j = k ∧ other = es') ∨ (j ≠ k ∧ callers[j]? = some other) := by
  by_cases hjk : j = k
  · rw [hjk, List.getElem?_set, if_pos rfl] at h
    split at h <;> cases h
    exact Or.inl ⟨hjk, rfl⟩
  · rw [List.getElem?_set_ne (Ne.symm hjk)] at h
    exact Or.inr ⟨hjk, h⟩

theorem of_mem_set (h : other ∈ callers.set k es') :
    other = es' ∨ ∃ j, j ≠ k ∧ callers[j]? = some other := by
  obtain ⟨j, hj⟩ := List.mem_iff_getElem?.1 h
  exact (of_getElem?_set hj).imp And.right fun hold => ⟨j, hold⟩

namespace Starts

theorem nil : Starts [] [] [] :=
  ⟨fun _ _ _ _ _ h => (nomatch h), fun _ h => absurd h List.not_mem_nil,
    fun _ h => absurd h List.not_mem_nil⟩

/-- A caller that takes a step has no new run to start by it. -/
theorem replace (h : Starts runs roll callers) (hk : callers[k]? = some es)
    (hstarts : ∀ e ∈ es', e.isStart → e ∈ es) : Starts runs roll (callers.set k es') := by
  have hmem : es ∈ callers := List.mem_of_getElem? hk
  have hback : ∀ {j : Nat} {other : List Errand} {e : Errand}, (callers.set k es')[j]? = some other →
      e ∈ other → e.isStart → ∃ before, callers[j]? = some before ∧ e ∈ before := by
    intro j other e hj he hstart
    rcases of_getElem?_set hj with ⟨rfl, rfl⟩ | ⟨-, hj⟩
    · exact ⟨es, hk, hstarts e he hstart⟩
    · exact ⟨other, hj, he⟩
  refine ⟨fun i j first second id hi hj hid hid' => ?_, fun other hother id hid => ?_,
    fun other hother name id hid => ?_⟩
  · obtain ⟨before, hbefore, hold⟩ := hback hi hid rfl
    obtain ⟨before', hbefore', hold'⟩ := hback hj hid' rfl
    exact h.apart i j before before' id hbefore hbefore' hold hold'
  · obtain ⟨j, hj⟩ := List.mem_iff_getElem?.1 hother
    obtain ⟨before, hbefore, hold⟩ := hback hj hid rfl
    exact h.launch before (List.mem_of_getElem? hbefore) id hold
  · obtain ⟨j, hj⟩ := List.mem_iff_getElem?.1 hother
    obtain ⟨before, hbefore, hold⟩ := hback hj hid rfl
    exact h.register before (List.mem_of_getElem? hbefore) name id hold

/-- Runs go on and are registered, but not those that are still to begin. -/
theorem onward (h : Starts r.runs roll callers) (honward : Onward r r')
    (hidle : ∀ es ∈ callers, ∀ (id : RunId) (run : Run), .launch id ∈ es → r.runs[id]? = some run →
      run.stage = .idle → ∃ run' : Run, r'.runs[id]? = some run' ∧ run'.stage = .idle)
    (hnew : ∀ es ∈ callers, ∀ name, ∀ id ∈ new, .register name id ∉ es) :
    Starts r'.runs (roll ++ new) callers where
  apart := h.apart
  launch es hes id hmem := by
    obtain ⟨run, hrun, hstage⟩ := h.launch es hes id hmem
    exact hidle es hes id run hmem hrun hstage
  register es hes name id hmem := by
    obtain ⟨hfree, run, hrun, hlabel⟩ := h.register es hes name id hmem
    obtain ⟨run', hrun', hplan, -⟩ := honward.runs id run hrun
    refine ⟨fun hin => ?_, run', hrun', by rw [hplan]; exact hlabel⟩
    rcases List.mem_append.1 hin with hin | hin
    · exact hfree hin
    · exact hnew es hes name id hin hmem

/-- A run that is set up belongs to the call that sets it up. -/
theorem found (h : Starts runs roll callers) (hroll : ∀ id ∈ roll, id < runs.length) (run : Run)
    (hidle : run.stage = .idle) :
    Starts (runs ++ [run]) roll
      (callers.set k [.register run.plan.label runs.length, .launch runs.length]) := by
  have hlast : (runs ++ [run])[runs.length]? = some run := List.getElem?_concat_length
  have hkept : ∀ {id : RunId} {old : Run}, runs[id]? = some old → (runs ++ [run])[id]? = some old := by
    intro id old hold
    rw [List.getElem?_append_left (List.getElem?_eq_some_iff.1 hold).1]
    exact hold
  have hbefore : ∀ {j : Nat} {other : List Errand} {id : RunId}, callers[j]? = some other →
      .launch id ∈ other → id ≠ runs.length := by
    intro j other id hj hid heq
    obtain ⟨old, hold, -⟩ := h.launch other (List.mem_of_getElem? hj) id hid
    exact absurd (List.getElem?_eq_some_iff.1 hold).1 (heq ▸ Nat.lt_irrefl _)
  have hown : ∀ {id : RunId}, Errand.launch id ∈
      [Errand.register run.plan.label runs.length, .launch runs.length] → id = runs.length := by
    intro id hid
    rcases List.mem_cons.1 hid with hid | hid
    · cases hid
    · cases List.mem_singleton.1 hid
      rfl
  refine ⟨fun i j first second id hi hj hid hid' => ?_, fun other hother id hid => ?_,
    fun other hother name id hid => ?_⟩
  · rcases of_getElem?_set hi with ⟨hik, rfl⟩ | ⟨-, hfirst⟩
    · rcases of_getElem?_set hj with ⟨hjk, -⟩ | ⟨-, hsecond⟩
      · exact hik.trans hjk.symm
      · exact absurd (hown hid) (hbefore hsecond hid')
    · rcases of_getElem?_set hj with ⟨-, rfl⟩ | ⟨-, hsecond⟩
      · exact absurd (hown hid') (hbefore hfirst hid)
      · exact h.apart i j first second id hfirst hsecond hid hid'
  · rcases of_mem_set hother with rfl | ⟨j, -, hj⟩
    · rw [hown hid]
      exact ⟨run, hlast, hidle⟩
    · obtain ⟨old, hold, hstage⟩ := h.launch other (List.mem_of_getElem? hj) id hid
      exact ⟨old, hkept hold, hstage⟩
  · rcases of_mem_set hother with rfl | ⟨j, -, hj⟩
    · rcases List.mem_cons.1 hid with hid | hid
      · cases hid
        exact ⟨fun hin => absurd (hroll _ hin) (Nat.lt_irrefl _), run, hlast, rfl⟩
      · cases List.mem_singleton.1 hid
    · obtain ⟨hfree, old, hold, hlabel⟩ := h.register other (List.mem_of_getElem? hj) name id hid
      exact ⟨hfree, old, hkept hold, hlabel⟩

/-- A call that comes in has set up no run. -/
theorem call (h : Starts runs roll callers) (hes : ∀ e ∈ es, e.isStart = false) :
    Starts runs roll (callers ++ [es]) := by
  have hback : ∀ {j : Nat} {other : List Errand} {e : Errand}, (callers ++ [es])[j]? = some other →
      e ∈ other → e.isStart → callers[j]? = some other := by
    intro j other e hj he hstart
    rw [List.getElem?_append] at hj
    split at hj
    · exact hj
    · rw [List.mem_singleton.1 (List.mem_of_getElem? hj)] at he
      rw [hes e he] at hstart
      cases hstart
  have hold : ∀ {other : List Errand} {e : Errand}, other ∈ callers ++ [es] → e ∈ other →
      e.isStart → other ∈ callers := by
    intro other e hother he hstart
    obtain ⟨j, hj⟩ := List.mem_iff_getElem?.1 hother
    exact List.mem_of_getElem? (hback hj he hstart)
  refine ⟨fun i j first second id hi hj hid hid' => ?_, fun other hother id hid => ?_,
    fun other hother name id hid => ?_⟩
  · exact h.apart i j first second id (hback hi hid rfl) (hback hj hid' rfl) hid hid'
  · exact h.launch other (hold hother hid rfl) id hid
  · exact h.register other (hold hother hid rfl) name id hid

end Starts

namespace Calls

/-- **What others do leaves a call its grounds**, when they make no run begin
that the call is to make begin. -/
theorem onward (h : Calls r roll callers) (honward : Onward r r')
    (hidle : ∀ (id : RunId) (run : Run), r.runs[id]? = some run → run.stage = .idle →
      ∃ run' : Run, r'.runs[id]? = some run' ∧ run'.stage = .idle) : Calls r' roll callers := by
  refine ⟨?_, fun es hes => ?_⟩
  · have hstarts : Starts r'.runs (roll ++ []) callers :=
      h.starts.onward honward (fun _ _ id run _ => hidle id run)
        fun _ _ _ _ hin => absurd hin List.not_mem_nil
    rwa [List.append_nil] at hstarts
  · refine (h.orderly es hes).mono fun f hf => ?_
    have hlater := honward.holds [] hf
    rwa [List.append_nil] at hlater

theorem call (h : Calls r roll callers) (horderly : Orderly (Holds r roll) es)
    (hes : ∀ e ∈ es, e.isStart = false) : Calls r roll (callers ++ [es]) := by
  refine ⟨h.starts.call hes, fun other hother => ?_⟩
  rcases List.mem_append.1 hother with hold | hnew
  · exact h.orderly other hold
  · rw [List.mem_singleton.1 hnew]
    exact horderly

/-- What a call relies on when it begins a run. -/
theorem launch_idle (h : Calls r roll callers) (hmem : es ∈ callers) {id : RunId} {run : Run}
    (hid : .launch id ∈ es) (hrun : r.runs[id]? = some run) : run.stage = .idle := by
  obtain ⟨run', hrun', hidle⟩ := h.starts.launch es hmem id hid
  rw [hrun] at hrun'
  cases hrun'
  exact hidle

/-- The runs that are set up when a caller has taken a step. -/
theorem starts_attends (h : Calls r roll callers) (hbooks : Books r.runs r.table roll)
    (hk : callers[k]? = some es) (ha : Attends r es r' es' new) :
    Starts r'.runs (roll ++ new) (callers.set k es') := by
  have hmem : es ∈ callers := List.mem_of_getElem? hk
  have horderly := h.orderly es hmem
  have honward := ha.onward fun id run hid hrun => h.launch_idle hmem hid hrun
  have hapart : ∀ {j : Nat} {other : List Errand} {id : RunId}, j ≠ k → callers[j]? = some other →
      .launch id ∈ es → .launch id ∉ other :=
    fun hjk hj hid hid' => hjk (h.starts.apart _ k _ es _ hj hk hid' hid)
  cases ha with
  | looks hstarts =>
    rw [List.append_nil]
    exact h.starts.replace hk hstarts
  | touches id f _ htouched hstarts =>
    have hreplaced := h.starts.replace hk fun e he hstart => List.mem_cons_of_mem _ (hstarts e he hstart)
    refine hreplaced.onward honward (fun _ _ j run _ hrun hidle => ?_) fun _ _ _ _ hin =>
      absurd hin List.not_mem_nil
    refine ⟨_, by rw [onRun, List.getElem?_modify, hrun]; rfl, ?_⟩
    dsimp only
    split
    · exact (htouched run).stage.trans hidle
    · exact hidle
  | strikes name id =>
    rw [strike_runs, List.append_nil]
    exact h.starts.replace hk fun e he _ => List.mem_cons_of_mem _ he
  | prepares p =>
    rw [List.append_nil]
    exact h.starts.replace hk fun e he _ => List.mem_cons_of_mem _ he
  | founds p rest =>
    have hrest : rest = [] := horderly.2.1
    subst hrest
    rw [List.append_nil]
    exact h.starts.found hbooks.known (Run.ofPlan p r.env r.now) rfl
  | registers name id =>
    have hrest : es' = [.launch id] := horderly.2.1
    subst hrest
    have hreplaced := h.starts.replace hk fun e he _ => List.mem_cons_of_mem _ he
    refine hreplaced.onward honward (fun _ _ j run _ hrun hidle => ⟨run, hrun, hidle⟩) ?_
    intro other hother label j hj hregister
    rw [List.mem_singleton.1 hj] at hregister
    -- A run that is registered by another call would also begin by that call.
    rcases of_mem_set hother with rfl | ⟨i, hik, hi⟩
    · cases List.mem_singleton.1 hregister
    · have hlaunch := (h.orderly other (List.mem_of_getElem? hi)).launch_mem hregister
      exact hapart hik hi (List.mem_cons_of_mem _ (List.mem_singleton_self _)) hlaunch
  | launches id run _ hrun =>
    have hrest : es' = [] := horderly.2.1
    subst hrest
    have hreplaced := h.starts.replace hk fun e he _ => List.mem_cons_of_mem _ he
    refine hreplaced.onward honward ?_ fun _ _ _ _ hin => absurd hin List.not_mem_nil
    intro other hother j old hlaunch hold hidle
    rcases of_mem_set hother with rfl | ⟨i, hik, hi⟩
    · cases hlaunch
    · have hne : id ≠ j := fun heq => hapart hik hi List.mem_cons_self (heq ▸ hlaunch)
      exact ⟨old, by rw [List.getElem?_set_ne hne]; exact hold, hidle⟩

/-- **A caller that takes a step leaves all calls their grounds**, itself
included. -/
theorem attend (h : Calls r roll callers) (hbooks : Books r.runs r.table roll)
    (hk : callers[k]? = some es) (ha : r.attend? es = some (r', es')) :
    Calls r' (roll ++ registering r es) (callers.set k es') := by
  have hmem : es ∈ callers := List.mem_of_getElem? hk
  have hattends := attends_of_attend? ha
  have honward := hattends.onward fun id run hid hrun => h.launch_idle hmem hid hrun
  have horderly := (h.orderly es hmem).attend ha (fun name id => hbooks.lt_of_get?) honward
  refine ⟨h.starts_attends hbooks hk hattends, fun other hother => ?_⟩
  rcases of_mem_set hother with rfl | ⟨j, -, hj⟩
  · exact horderly
  · exact (h.orderly other (List.mem_of_getElem? hj)).mono fun f => honward.holds _

end Calls

end Workshop
end Command
end CodeDesk
