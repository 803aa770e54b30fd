import CodeDesk.Proofs.Command.Workshop
/-!
# Errands — what a caller can rely on when it takes a step

A caller strikes a run off the running table only when the run is over, sets
up a run only when there is a sink for it, and tells a worker to begin only
when its run was registered. It never looks: an earlier step of its own has
seen to that, and what was so then stays so, whatever others do. `Orderly`
says this of the steps that a caller has left, by the facts that a step
needs and those that it gives, and `Orderly.attend` says that every step of
the caller keeps it.

`Attends` says what the step of a caller does to the runner.
-/

namespace CodeDesk
namespace Command
namespace Runner

variable {r r' : Runner} {es es' : List Errand} {roll roll' new : List RunId} {id : RunId}

/-- What stays so when it is so. -/
inductive Fact where
  /-- There is a run. -/
  | known (id : RunId)
  /-- A run is over. -/
  | ended (id : RunId)
  /-- There is a sink. -/
  | housed (name : String)
  /-- A run was registered. -/
  | enrolled (id : RunId)

namespace Errand

/-- What a step relies on. -/
def needs : Errand → List Fact
  | mark id => [.known id]
  | terminate id => [.known id]
  | spare id _ => [.known id]
  | force id => [.known id]
  | await id => [.known id]
  | strike _ id => [.ended id]
  | found p => [.housed p.label]
  | launch id => [.enrolled id]
  | _ => []

/-- What is so when a step is done, with the steps that it leads to. -/
def gives : Errand → List Fact
  | terminate id => [.ended id]
  | spare id _ => [.ended id]
  | await id => [.ended id]
  | prepare p => [.housed p.label]
  | register _ id => [.enrolled id]
  | _ => []

/-- Whether a list of steps may follow: a run that is set up is registered
and begins, and that is the end. -/
def leadsTo : Errand → List Errand → Prop
  | found _, es => es = []
  | register _ id, es => es = [launch id]
  | launch _, es => es = []
  | _, _ => True

/-- Whether it is one of the steps of a run that is set up already. -/
def isStart : Errand → Bool
  | register _ _ => true
  | launch _ => true
  | _ => false

end Errand

variable {K K' : Fact → Prop}

/-- Each of the steps can rely on what it needs. -/
def Orderly (K : Fact → Prop) : List Errand → Prop
  | [] => True
  | e :: es => (∀ f ∈ e.needs, K f) ∧ e.leadsTo es ∧ Orderly (fun f => K f ∨ f ∈ e.gives) es

theorem Orderly.mono (h : Orderly K es) (hK : ∀ f, K f → K' f) : Orderly K' es := by
  induction es generalizing K K' with
  | nil => trivial
  | cons e es ih =>
    obtain ⟨hneeds, hleads, hrest⟩ := h
    exact ⟨fun f hf => hK f (hneeds f hf), hleads, ih hrest fun f => Or.imp_left (hK f)⟩

theorem orderly_evict (names : List String) : Orderly K (names.map .evict) := by
  induction names generalizing K with
  | nil => trivial
  | cons name names ih => exact ⟨fun _ hf => absurd hf List.not_mem_nil, trivial, ih⟩

/-- What a step has given is known afterwards. -/
theorem Orderly.done {e : Errand} (h : Orderly K (e :: es)) (hK : ∀ f, K f → K' f)
    (hgives : ∀ f ∈ e.gives, K' f) : Orderly K' es :=
  h.2.2.mono fun f hf => hf.elim (hK f) (hgives f)

/-- A run that is registered begins next. -/
theorem Orderly.launch_mem (h : Orderly K es) {name : String}
    (hmem : Errand.register name id ∈ es) : .launch id ∈ es := by
  induction es generalizing K with
  | nil => cases hmem
  | cons e es ih =>
    obtain ⟨-, hleads, hrest⟩ := h
    rcases List.mem_cons.1 hmem with rfl | hmem
    · have hnext : es = [.launch id] := hleads
      rw [hnext]
      exact List.mem_cons_of_mem _ (List.mem_singleton_self _)
    · exact List.mem_cons_of_mem _ (ih hrest hmem)

/-! ## The facts at a time -/

/-- Whether something is so now. -/
def Holds (r : Runner) (roll : List RunId) : Fact → Prop
  | .known id => id < r.runs.length
  | .ended id => ∃ run, r.runs[id]? = some run ∧ run.isOver
  | .housed name => (r.sinks.get? name).isSome
  | .enrolled id => id ∈ roll

theorem ended_of_isOver (hknown : Holds r roll (.known id)) (h : r.isOver id) :
    Holds r roll' (.ended id) := by
  have hlt : id < r.runs.length := hknown
  have hrun := List.getElem?_eq_getElem hlt
  rw [isOver, hrun] at h
  exact ⟨_, hrun, h⟩

/-- A runner and the same runner later. -/
structure Onward (r r' : Runner) : Prop where
  runs : ∀ (id : RunId) (run : Run), r.runs[id]? = some run →
    ∃ run', r'.runs[id]? = some run' ∧ run'.plan = run.plan ∧ (run.isOver → run'.isOver)
  sinks : ∀ name, (r.sinks.get? name).isSome → (r'.sinks.get? name).isSome

theorem Onward.refl (r : Runner) : Onward r r :=
  ⟨fun _ run hrun => ⟨run, hrun, rfl, id⟩, fun _ h => h⟩

/-- One run goes on, and the others are as they were. -/
theorem onward_set {run run' : Run} (hrun : r.runs[id]? = some run)
    (hruns : r'.runs = r.runs.set id run') (hplan : run'.plan = run.plan)
    (hover : run.isOver → run'.isOver)
    (hsinks : ∀ name, (r.sinks.get? name).isSome → (r'.sinks.get? name).isSome) :
    Onward r r' := by
  refine ⟨fun j old hold => ?_, hsinks⟩
  rw [hruns, List.getElem?_set]
  split
  · next heq =>
    subst heq
    rw [hrun] at hold
    cases hold
    rw [if_pos (List.getElem?_eq_some_iff.1 hrun).1]
    exact ⟨run', rfl, hplan, hover⟩
  · exact ⟨old, hold, rfl, fun h => h⟩

/-- A worker works only on a run that has begun and is not over. -/
theorem Labour.underway {run : Run} (h : Labour r id run r') :
    run.stage ≠ .idle ∧ run.stage ≠ .gone := by
  cases h with
  | proceeds _ _ _ hbusy => constructor <;> intro hs <;> rw [hs] at hbusy <;> cases hbusy
  | reports o hs | settles o hs | strikes o hs | announces o hs =>
    rw [hs]
    exact ⟨Stage.noConfusion, Stage.noConfusion⟩
  | leaves hs =>
    rw [hs]
    exact ⟨Stage.noConfusion, Stage.noConfusion⟩

/-- A worker undoes nothing. -/
theorem Labour.onward {run : Run} (h : Labour r id run r') (hrun : r.runs[id]? = some run)
    (hhoused : (r.sinks.get? run.plan.label).isSome) : Onward r r' := by
  have hover : ∀ {run' : Run}, run.isOver → run'.isOver :=
    fun hgone => absurd (eq_of_beq hgone) h.underway.2
  cases h with
  | proceeds run' sinks new _ hgoes hadds => exact onward_set hrun rfl hgoes.plan hover hadds.keeps
  | reports o =>
    exact onward_set hrun rfl rfl hover (Sinks.adds_append hhoused .status none _).keeps
  | strikes o =>
    refine onward_set hrun rfl rfl hover ?_
    rw [strike_sinks]
    exact fun _ h => h
  | settles o | announces o => exact onward_set hrun rfl rfl hover fun _ h => h
  | leaves => exact onward_set hrun rfl rfl hover fun _ h => h

/-- Whatever happens to a process undoes nothing. -/
theorem Passes.onward {run : Run} {events : List SinkEvent} (h : Passes r id run events r')
    (hrun : r.runs[id]? = some run) : Onward r r' := by
  cases h with
  | intro run' sinks disk ht hadds =>
    have hover : run.isOver → run'.isOver := by
      rw [Run.isOver, Run.isOver, ht.stage]
      exact fun h => h
    exact onward_set hrun rfl ht.plan hover hadds.keeps

/-- What is so stays so. -/
theorem Onward.holds (h : Onward r r') (new : List RunId) {f : Fact} (hf : Holds r roll f) :
    Holds r' (roll ++ new) f := by
  cases f with
  | known id =>
    have hlt : id < r.runs.length := hf
    obtain ⟨run', hrun', -⟩ := h.runs id _ (List.getElem?_eq_getElem hlt)
    exact (List.getElem?_eq_some_iff.1 hrun').1
  | ended id =>
    obtain ⟨run, hrun, hover⟩ := hf
    obtain ⟨run', hrun', -, hstill⟩ := h.runs id run hrun
    exact ⟨run', hrun', hstill hover⟩
  | housed name => exact h.sinks name hf
  | enrolled id => exact List.mem_append_left _ hf

/-! ## The step of a caller -/

/-- What the step of a caller does: the runner and the steps that are left
then, and the runs that are registered by it. -/
inductive Attends (r : Runner) :
    List Errand → Runner → List Errand → (new : List RunId) → Prop where
  /-- It finds out what to do next. -/
  | looks {es es' : List Errand} (starts : ∀ e ∈ es', e.isStart → e ∈ es) : Attends r es r es' []
  /-- It signals the processes of a run, or marks it. -/
  | touches (id : RunId) (f : Run → Run) {e : Errand} {es es' : List Errand}
    (known : .known id ∈ e.needs) (touched : ∀ run : Run, run.Touched (f run))
    (starts : ∀ e ∈ es', e.isStart → e ∈ es) : Attends r (e :: es) (r.onRun id f) es' []
  /-- It strikes a run off the running table. -/
  | strikes (name : String) (id : RunId) (es : List Errand) :
    Attends r (.strike name id :: es) (r.strike name id) es []
  /-- It makes the sink of a run. -/
  | prepares (p : Plan) (es : List Errand) :
    Attends r (.prepare p :: es) { r with sinks := r.sinks.create p.label p.clear } es []
  /-- It sets up a run. -/
  | founds (p : Plan) (es : List Errand) :
    Attends r (.found p :: es) { r with runs := r.runs ++ [Run.ofPlan p r.env r.now] }
      (.register p.label r.runs.length :: .launch r.runs.length :: es) []
  /-- It registers a run. -/
  | registers (name : String) (id : RunId) (es : List Errand) (free : r.table.get? name = none) :
    Attends r (.register name id :: es) { r with table := r.table.set name id } es [id]
  /-- It tells the worker of a run to begin. -/
  | launches (id : RunId) (run : Run) (es : List Errand) (there : r.runs[id]? = some run) :
    Attends r (.launch id :: es)
      { r with
        runs := r.runs.set id (run.begin r.env r.now)
        events := r.events ++ [.started id run.plan.label run.plan.focus] } es []

/-- Killing a run takes no step that starts one. -/
theorem isStart_kill {name : String} {e : Errand}
    (he : e ∈ killing id ++ .strike name id :: es) (hstart : e.isStart) : e ∈ es := by
  simp only [killing, List.cons_append, List.nil_append, List.mem_cons] at he
  rcases he with rfl | rfl | rfl | hmem
  · cases hstart
  · cases hstart
  · cases hstart
  · exact hmem

theorem attends_of_attend? (h : r.attend? es = some (r', es')) :
    Attends r es r' es' (Workshop.registering r es) := by
  cases es with
  | nil => cases h
  | cons e rest =>
    have hbehind : ∀ e' ∈ rest, e'.isStart → e' ∈ e :: rest :=
      fun e' he' _ => List.mem_cons_of_mem e he'
    cases e <;> dsimp only [attend?] at h
    case evict name =>
      split at h <;> cases h
      · exact .looks hbehind
      · exact .looks fun e he hstart => List.mem_cons_of_mem _ (isStart_kill he hstart)
    case mark id =>
      cases h
      exact .touches id _ (List.mem_singleton_self _) (fun run => ⟨rfl, rfl, rfl, rfl, fun _ p hp =>
        ⟨p, hp, .refl p⟩⟩) fun _ he _ => he
    case terminate id =>
      cases h
      refine .touches id _ (List.mem_singleton_self _)
        (fun run => run.touched_signalListed _ _) fun e he hstart => ?_
      rcases List.mem_cons.1 he with rfl | he
      · cases hstart
      · exact he
    case spare id deadline =>
      split at h
      · cases h
        exact .looks hbehind
      · split at h <;> cases h
        refine .looks fun e he hstart => ?_
        rcases List.mem_cons.1 he with rfl | he
        · cases hstart
        · rcases List.mem_cons.1 he with rfl | he
          · cases hstart
          · exact List.mem_cons_of_mem _ he
    case force id =>
      cases h
      exact .touches id _ (List.mem_singleton_self _)
        (fun run => run.touched_signalListed _ _) fun _ he _ => he
    case await id =>
      split at h <;> cases h
      exact .looks hbehind
    case awaitUntil id deadline =>
      split at h <;> cases h
      exact .looks hbehind
    case strike name id =>
      cases h
      exact .strikes name id _
    case prepare p =>
      cases h
      exact .prepares p _
    case found p =>
      cases h
      exact .founds p _
    case register name id =>
      split at h
      · next hfree =>
        have hnew : Workshop.registering r (.register name id :: rest) = [id] := by
          rw [Workshop.registering, Table.contains, hfree]
          rfl
        rw [hnew]
        cases h
        exact .registers name id _ hfree
      · next other hother =>
        have hnew : Workshop.registering r (.register name id :: rest) = [] := by
          rw [Workshop.registering, Table.contains, hother]
          rfl
        rw [hnew]
        cases h
        exact .looks fun e he hstart => isStart_kill he hstart
    case launch id =>
      split at h
      · cases h
        exact .looks hbehind
      · next run hrun =>
        cases h
        rw [onRun_eq (r := r.tell _) hrun]
        exact .launches id run _ hrun

/-- A caller that launches only what has not begun undoes nothing. -/
theorem Attends.onward (h : Attends r es r' es' new)
    (hidle : ∀ id run, Errand.launch id ∈ es → r.runs[id]? = some run → run.stage = .idle) :
    Onward r r' := by
  cases h with
  | looks => exact .refl r
  | touches id f _ htouched =>
    cases hrun : r.runs[id]? with
    | none =>
      have hsame : r.onRun id f = r := by
        have hlen : r.runs.length ≤ id := List.getElem?_eq_none_iff.1 hrun
        exact congrArg (fun runs => { r with runs := runs }) (List.modify_eq_self hlen)
      rw [hsame]
      exact .refl r
    | some run => exact (passes_onRun hrun (htouched run)).onward hrun
  | strikes name id =>
    refine ⟨?_, ?_⟩
    · rw [strike_runs]
      exact (Onward.refl r).runs
    · rw [strike_sinks]
      exact (Onward.refl r).sinks
  | prepares p =>
    obtain ⟨-, new, hgrows, -⟩ := Sinks.grows_create r.sinks p.label p.clear
    exact ⟨(Onward.refl r).runs, hgrows.keeps⟩
  | founds p =>
    refine ⟨fun id run hrun => ⟨run, ?_, rfl, fun h => h⟩, fun _ h => h⟩
    rw [List.getElem?_append_left (List.getElem?_eq_some_iff.1 hrun).1]
    exact hrun
  | registers => exact ⟨(Onward.refl r).runs, (Onward.refl r).sinks⟩
  | launches id run _ hrun =>
    have hover : run.isOver → (run.begin r.env r.now).isOver := by
      rw [Run.isOver, hidle id run List.mem_cons_self hrun]
      exact fun h => nomatch h
    exact onward_set hrun rfl rfl hover fun _ h => h

/-- The steps that kill a run see to it that the run is over when it is struck
off. -/
theorem Orderly.kill (h : Orderly K es) {name : String} (hknown : K (.known id)) :
    Orderly K (killing id ++ .strike name id :: es) := by
  have hneeds : ∀ f ∈ [Fact.known id], K f := by
    intro f hf
    rw [List.mem_singleton.1 hf]
    exact hknown
  refine ⟨hneeds, trivial, fun f hf => Or.inl (hneeds f hf), trivial, ?_, trivial, ?_⟩
  · exact fun f hf => Or.inr hf
  · exact h.mono fun f hf => Or.inl (Or.inl (Or.inl hf))

/-- **Every step of a caller leaves it with steps that can rely on what they
need**, at whatever time it is taken. -/
theorem Orderly.attend (h : Orderly (Holds r roll) es) (ha : r.attend? es = some (r', es'))
    (hlisted : ∀ name id, r.table.get? name = some id → id < r.runs.length)
    (honward : Onward r r') : Orderly (Holds r' (roll ++ Workshop.registering r es)) es' := by
  have hnow : ∀ f, Holds r roll f → Holds r' (roll ++ Workshop.registering r es) f :=
    fun f => honward.holds _
  cases es with
  | nil => cases ha
  | cons e rest =>
    have hsingle : ∀ {f}, Holds r' (roll ++ Workshop.registering r (e :: rest)) f →
        ∀ g ∈ [f], Holds r' (roll ++ Workshop.registering r (e :: rest)) g := by
      intro f hf g hg
      rw [List.mem_singleton.1 hg]
      exact hf
    cases e <;> dsimp only [attend?] at ha
    case evict name =>
      have hrest : Orderly (Holds r' (roll ++ [])) rest := h.done hnow fun _ hf => nomatch hf
      split at ha
      · cases ha
        exact hrest
      · next id hid =>
        cases ha
        exact hrest.kill (hnow _ (hlisted name id hid))
    case mark id =>
      cases ha
      exact h.done hnow fun _ hf => nomatch hf
    case terminate id =>
      cases ha
      exact ⟨fun f hf => hnow f (h.1 f hf), trivial, h.2.2.mono fun f => Or.imp_left (hnow f)⟩
    case spare id deadline =>
      have hknown : Holds r roll (.known id) := h.1 _ (List.mem_singleton_self _)
      split at ha
      · next hover =>
        cases ha
        exact h.done hnow (hsingle (ended_of_isOver hknown hover))
      · split at ha <;> cases ha
        -- The time is up: its processes are forced to end, and then waited for.
        have hnext : Holds r (roll ++ []) (.known id) := hnow _ hknown
        refine ⟨hsingle hnext, trivial, ?_, trivial, ?_⟩
        · exact fun f hf => Or.inl (hsingle hnext f hf)
        · exact h.2.2.mono fun f => Or.imp_left fun hf => Or.inl (hnow f hf)
    case force id =>
      cases ha
      exact h.done hnow fun _ hf => nomatch hf
    case await id =>
      split at ha <;> cases ha
      next hover =>
      exact h.done hnow (hsingle (ended_of_isOver (h.1 _ (List.mem_singleton_self _)) hover))
    case awaitUntil id deadline =>
      split at ha <;> cases ha
      exact h.done hnow fun _ hf => nomatch hf
    case strike name id =>
      cases ha
      exact h.done hnow fun _ hf => nomatch hf
    case prepare p =>
      cases ha
      exact h.done hnow (hsingle (Sinks.grows_create r.sinks p.label p.clear).1)
    case found p =>
      cases ha
      have hlast : rest = [] := h.2.1
      subst hlast
      -- The run is registered before its worker is told to begin.
      exact ⟨fun _ hf => absurd hf List.not_mem_nil, rfl, fun f hf => Or.inr hf, rfl, trivial⟩
    case register name id =>
      split at ha
      · next hfree =>
        have hnew : Workshop.registering r (.register name id :: rest) = [id] := by
          rw [Workshop.registering, Table.contains, hfree]
          rfl
        rw [hnew] at hnow hsingle ⊢
        cases ha
        have henrolled : id ∈ roll ++ [id] := List.mem_append_right _ (List.mem_singleton_self id)
        exact h.done hnow (hsingle henrolled)
      · next other hother =>
        cases ha
        have hsame : Orderly (Holds r _) (.register name id :: rest) := h.mono hnow
        exact hsame.kill (hnow _ (hlisted name other hother))
    case launch id =>
      split at ha <;> cases ha <;> exact h.done hnow fun _ hf => nomatch hf

end Runner
end Command
end CodeDesk
