import CodeDesk.Desk.Events
/-!
# Batches — what one reading returns

The closed forms of gathering and sorting. A batch that is gathered while
nothing is sent holds all there is, source by source (`gather_eq`); a batch
that was sorted holds the same events `bySource`, each source in its own
order (`sort_eq`).
-/

namespace CodeDesk

/-- The output among events. -/
def outputsOf (es : List DeskEvent) : List Command.SinkEvent :=
  es.filterMap fun
    | .output e => some e
    | _ => none

/-- The events of runs among events. -/
def runsOf (es : List DeskEvent) : List Command.RunEvent :=
  es.filterMap fun
    | .run e => some e
    | _ => none

/-- The events of the debugger among events. -/
def debugsOf (es : List DeskEvent) : List Debug.Event :=
  es.filterMap fun
    | .debug e => some e
    | _ => none

/-- Events source by source: output, then runs, then the debugger. -/
def bySource (es : List DeskEvent) : List DeskEvent :=
  (outputsOf es).map .output ++ (runsOf es).map .run ++ (debugsOf es).map .debug

section Sources

@[simp] theorem outputsOf_nil : outputsOf [] = [] := rfl
@[simp] theorem runsOf_nil : runsOf [] = [] := rfl
@[simp] theorem debugsOf_nil : debugsOf [] = [] := rfl

@[simp] theorem outputsOf_append (es fs : List DeskEvent) :
    outputsOf (es ++ fs) = outputsOf es ++ outputsOf fs := List.filterMap_append

@[simp] theorem runsOf_append (es fs : List DeskEvent) :
    runsOf (es ++ fs) = runsOf es ++ runsOf fs := List.filterMap_append

@[simp] theorem debugsOf_append (es fs : List DeskEvent) :
    debugsOf (es ++ fs) = debugsOf es ++ debugsOf fs := List.filterMap_append

variable (o : Command.SinkEvent) (r : Command.RunEvent) (d : Debug.Event) (es : List DeskEvent)

@[simp] theorem outputsOf_output : outputsOf (.output o :: es) = o :: outputsOf es := rfl
@[simp] theorem outputsOf_run : outputsOf (.run r :: es) = outputsOf es := rfl
@[simp] theorem outputsOf_debug : outputsOf (.debug d :: es) = outputsOf es := rfl
@[simp] theorem runsOf_output : runsOf (.output o :: es) = runsOf es := rfl
@[simp] theorem runsOf_run : runsOf (.run r :: es) = r :: runsOf es := rfl
@[simp] theorem runsOf_debug : runsOf (.debug d :: es) = runsOf es := rfl
@[simp] theorem debugsOf_output : debugsOf (.output o :: es) = debugsOf es := rfl
@[simp] theorem debugsOf_run : debugsOf (.run r :: es) = debugsOf es := rfl
@[simp] theorem debugsOf_debug : debugsOf (.debug d :: es) = d :: debugsOf es := rfl

theorem outputsOf_map_output (os : List Command.SinkEvent) :
    outputsOf (os.map .output) = os := by
  induction os with
  | nil => rfl
  | cons o os ih => rw [List.map_cons, outputsOf_output, ih]

end Sources

/-! ## Sorted batches -/

section Sorting

/-- Whether an event may stand before another one in a batch. -/
abbrev notAfter (a b : DeskEvent) : Bool := decide (a.source.rank ≤ b.source.rank)

theorem notAfter_trans (a b c : DeskEvent) (hab : notAfter a b) (hbc : notAfter b c) :
    notAfter a c := by
  rw [decide_eq_true_eq] at hab hbc ⊢
  exact Nat.le_trans hab hbc

theorem notAfter_total (a b : DeskEvent) : notAfter a b || notAfter b a := by
  rw [Bool.or_eq_true, decide_eq_true_eq, decide_eq_true_eq]
  exact Nat.le_total _ _

/-- **Sorting keeps the order of each source**, and what is read off the
events of one source. -/
theorem filterMap_sort {α : Type} (f : DeskEvent → Option α) (s : EventSource)
    (hf : ∀ e : DeskEvent, e.source ≠ s → f e = none) (es : List DeskEvent) :
    (Channels.sort es).filterMap f = es.filterMap f := by
  induction es with
  | nil => rw [Channels.sort, List.mergeSort_nil]
  | cons e es ih =>
    obtain ⟨front, back, hsort, hrest, hfront⟩ :=
      List.mergeSort_cons notAfter_trans notAfter_total e es
    rw [Channels.sort, hrest, List.filterMap_append] at ih
    rw [Channels.sort, hsort, List.filterMap_append, List.filterMap_cons, List.filterMap_cons,
      ← ih]
    by_cases he : e.source = s
    · -- What stands before `e` comes from a source before that of `e`.
      have hnone : front.filterMap f = [] := by
        rw [List.filterMap_eq_nil_iff]
        intro b hb
        refine hf b fun hbs => ?_
        have := hfront b hb
        rw [Bool.not_eq_true', decide_eq_false_iff_not, he, hbs] at this
        exact this (Nat.le_refl _)
      rw [hnone]
      rfl
    · rw [hf e he]

theorem outputsOf_sort (es : List DeskEvent) : outputsOf (Channels.sort es) = outputsOf es :=
  filterMap_sort _ .output (fun e he => by cases e <;> first | rfl | exact absurd rfl he) es

theorem runsOf_sort (es : List DeskEvent) : runsOf (Channels.sort es) = runsOf es :=
  filterMap_sort _ .run (fun e he => by cases e <;> first | rfl | exact absurd rfl he) es

theorem debugsOf_sort (es : List DeskEvent) : debugsOf (Channels.sort es) = debugsOf es :=
  filterMap_sort _ .debug (fun e he => by cases e <;> first | rfl | exact absurd rfl he) es

/-- Events that come after the output hold none. -/
theorem outputsOf_of_rank {es : List DeskEvent} (h : ∀ b ∈ es, 0 < b.source.rank) :
    outputsOf es = [] := by
  rw [outputsOf, List.filterMap_eq_nil_iff]
  intro b hb
  cases b with
  | output o => exact absurd (h _ hb) (Nat.lt_irrefl 0)
  | run r => rfl
  | debug d => rfl

/-- Events that come after those of runs hold none of them. -/
theorem runsOf_of_rank {es : List DeskEvent} (h : ∀ b ∈ es, 1 < b.source.rank) :
    runsOf es = [] := by
  rw [runsOf, List.filterMap_eq_nil_iff]
  intro b hb
  cases b with
  | output o => rfl
  | run r => exact absurd (h _ hb) (Nat.lt_irrefl 1)
  | debug d => rfl

/-- A batch in order is one source after the other. -/
theorem eq_bySource {es : List DeskEvent} (h : es.Pairwise fun a b => notAfter a b) :
    es = bySource es := by
  induction es with
  | nil => rfl
  | cons e es ih =>
    obtain ⟨he, hes⟩ := List.pairwise_cons.1 h
    have hrank : ∀ b ∈ es, e.source.rank ≤ b.source.rank := fun b hb =>
      of_decide_eq_true (he b hb)
    have hrest := ih hes
    cases e with
    | output o =>
      rw [bySource, outputsOf_output, runsOf_output, debugsOf_output]
      exact congrArg _ hrest
    | run r =>
      have houtputs := outputsOf_of_rank fun b hb => hrank b hb
      rw [bySource, houtputs] at hrest
      rw [bySource, outputsOf_run, runsOf_run, debugsOf_run, houtputs]
      exact congrArg _ hrest
    | debug d =>
      have houtputs := outputsOf_of_rank fun b hb => Nat.lt_of_lt_of_le Nat.zero_lt_two (hrank b hb)
      have hruns := runsOf_of_rank fun b hb => hrank b hb
      rw [bySource, houtputs, hruns] at hrest
      rw [bySource, outputsOf_debug, runsOf_debug, debugsOf_debug, houtputs, hruns]
      exact congrArg _ hrest

/-- **A sorted batch is one source after the other**, each in its own
order. -/
theorem sort_eq (es : List DeskEvent) : Channels.sort es = bySource es := by
  have hsorted : (Channels.sort es).Pairwise fun a b => notAfter a b :=
    List.pairwise_mergeSort notAfter_trans notAfter_total es
  rw [eq_bySource hsorted, bySource, outputsOf_sort, runsOf_sort, debugsOf_sort, bySource]

end Sorting

/-! ## Gathering while nothing is sent -/

section Gather

open Gathering

/-- Several steps are some steps and then the others. -/
theorem steps_add (m n : Nat) (g : Gathering) (c : Channels) :
    steps (m + n) g c = steps n (steps m g c).1 (steps m g c).2 := by
  induction m generalizing g c with
  | zero => rw [Nat.zero_add]; rfl
  | succ m ih =>
    rw [Nat.add_right_comm, steps, steps]
    exact ih _ _

/-- A pass takes all the output and turns to the runs. -/
theorem steps_output (taken : List DeskEvent) (c : Channels) :
    steps (c.output.length + 1) ⟨taken, some .output⟩ c =
      (⟨taken ++ c.output.map .output, some .run⟩, { c with output := [] }) := by
  obtain ⟨os, rs, ds⟩ := c
  induction os generalizing taken with
  | nil => rw [List.map_nil, List.append_nil]; rfl
  | cons o os ih =>
    rw [List.length_cons, steps]
    simp only [step, Channels.receive?]
    rw [ih, List.map_cons, List.append_assoc, List.singleton_append]

/-- A pass takes all events of runs and turns to the debugger. -/
theorem steps_run (taken : List DeskEvent) (c : Channels) :
    steps (c.runs.length + 1) ⟨taken, some .run⟩ c =
      (⟨taken ++ c.runs.map .run, some .debug⟩, { c with runs := [] }) := by
  obtain ⟨os, rs, ds⟩ := c
  induction rs generalizing taken with
  | nil => rw [List.map_nil, List.append_nil]; rfl
  | cons r rs ih =>
    rw [List.length_cons, steps]
    simp only [step, Channels.receive?]
    rw [ih, List.map_cons, List.append_assoc, List.singleton_append]

/-- A pass takes all events of the debugger and is the last one. -/
theorem steps_debug (taken : List DeskEvent) (c : Channels) :
    steps (c.debug.length + 1) ⟨taken, some .debug⟩ c =
      (⟨taken ++ c.debug.map .debug, none⟩, { c with debug := [] }) := by
  obtain ⟨os, rs, ds⟩ := c
  induction ds generalizing taken with
  | nil => rw [List.map_nil, List.append_nil]; rfl
  | cons d ds ih =>
    rw [List.length_cons, steps]
    simp only [step, Channels.receive?]
    rw [ih, List.map_cons, List.append_assoc, List.singleton_append]

/-- The steps of a reading leave nothing behind. -/
theorem steps_size (taken : List DeskEvent) (c : Channels) :
    steps (c.size + 3) ⟨taken, some .output⟩ c =
      (⟨taken ++ c.output.map .output ++ c.runs.map .run ++ c.debug.map .debug, none⟩,
        .empty) := by
  have hsize : c.size + 3 =
      (c.output.length + 1) + ((c.runs.length + 1) + (c.debug.length + 1)) := by
    rw [Channels.size]
    omega
  rw [hsize, steps_add, steps_output, steps_add]
  simp only
  rw [steps_run _ { c with output := [] }]
  simp only
  rw [steps_debug _ { c with output := [], runs := [] }]
  rfl

/-- **A batch gathered while nothing is sent holds all there is**, source by
source. -/
theorem gather_eq (taken : List DeskEvent) (c : Channels) :
    c.gather taken =
      (taken ++ c.output.map .output ++ c.runs.map .run ++ c.debug.map .debug, .empty) := by
  rw [Channels.gather, steps_size]

end Gather

end CodeDesk
