import CodeDesk.Proofs.Desk.Reader
import Mathlib.Data.List.Induction
/-!
# Output first — when a run's output comes before its end

A run sends its output and then that it is finished, on two channels. A
reader empties them one after the other, output first, so what a run sends
between the two passes is torn apart: the end of the run is returned with
this batch and its last output with the next one (`not_outputFirst_torn`).

The exact condition is `Overtakes`: the reader takes the end of a run while
output of that run waits. A history returns all output of every run before
the end of the run just when that happens in no batch that was returned
(`outputFirst_iff`). The argument follows the ends that are `settled`,
those whose place among the output is known: an action adds to them or
leaves them as they are, and only an end that overtakes is added late
(`late_step`).
-/

namespace CodeDesk
namespace Reader

open Command

/-- Who sent the output of a history, one entry for each event. -/
def senders (h : List ReaderAction) : List (Option RunId) :=
  h.filterMap fun
    | .send sender (.output _) => some sender
    | _ => none

/-- The second action sends output of a run whose end the first one
sent. -/
def tardy : ReaderAction → ReaderAction → Bool
  | .send _ (.run (.finished id _ _)), .send (some sender) (.output _) => sender == id
  | _, _ => false

/-- Runs send no output after they said that they are finished. -/
def Orderly (h : List ReaderAction) : Prop := h.Pairwise fun a b => ¬ tardy a b

instance (h : List ReaderAction) : Decidable (Orderly h) :=
  inferInstanceAs (Decidable (h.Pairwise fun a b => ¬ tardy a b))

/-- All output of a run is returned before the end of the run. Output is
returned in the order it was sent, so output number `i` is returned before
the end just when it is among what comes before it. -/
def OutputFirst (h : List ReaderAction) : Prop :=
  ∀ before id name o behind,
    (run h).returned = before ++ .run (.finished id name o) :: behind →
      ∀ i, (senders h)[i]? = some (some id) → i < (outputsOf before).length

/-- The run whose end the next receive takes. -/
def ending? (q : Reader) : Option RunId :=
  match q.source?, q.channels.runs with
  | some .run, .finished id _ _ :: _ => some id
  | _, _ => none

/-- How much output was received. -/
def received (q : Reader) : Nat := (outputsOf q.returned).length + (outputsOf q.taken).length

/-- The next receive takes the end of a run while output of the run
waits. -/
def Overtakes (h : List ReaderAction) : Prop :=
  ∃ id ∈ ending? (run h), some id ∈ (senders h).drop (run h).received

instance (h : List ReaderAction) : Decidable (Overtakes h) :=
  inferInstanceAs (Decidable (∃ id ∈ ending? (run h), _))

/-! ## Ends and the output before them -/

/-- The runs that are finished according to events. -/
def finishedOf (rs : List RunEvent) : List RunId :=
  rs.filterMap fun
    | .finished id _ _ => some id
    | .started _ _ _ => none

/-- The runs that are finished according to events, each with how much
output came before its end; `n` came before all of these events. -/
def finishes (n : Nat) : List DeskEvent → List (RunId × Nat)
  | [] => []
  | .output _ :: es => finishes (n + 1) es
  | .run (.finished id _ _) :: es => (id, n) :: finishes n es
  | .run (.started _ _ _) :: es => finishes n es
  | .debug _ :: es => finishes n es

section Finishes

variable {n v : Nat} {id : RunId}

theorem finishes_append (n : Nat) (es fs : List DeskEvent) :
    finishes n (es ++ fs) = finishes n es ++ finishes (n + (outputsOf es).length) fs := by
  induction es generalizing n with
  | nil => rfl
  | cons e es ih =>
    cases e with
    | output o =>
      rw [List.cons_append, finishes, ih, finishes, outputsOf_output, List.length_cons,
        Nat.add_right_comm, Nat.add_assoc]
    | run r =>
      cases r with
      | started _ _ _ => rw [List.cons_append, finishes, ih, finishes, outputsOf_run]
      | finished _ _ _ =>
        rw [List.cons_append, finishes, ih, finishes, outputsOf_run, List.cons_append]
    | debug d => rw [List.cons_append, finishes, ih, finishes, outputsOf_debug]

theorem finishes_map_output (n : Nat) (os : List SinkEvent) : finishes n (os.map .output) = [] := by
  induction os generalizing n with
  | nil => rfl
  | cons o os ih => rw [List.map_cons, finishes, ih]

theorem finishes_map_run (n : Nat) (rs : List RunEvent) :
    finishes n (rs.map .run) = (finishedOf rs).map fun id => (id, n) := by
  induction rs with
  | nil => rfl
  | cons r rs ih =>
    cases r with
    | started _ _ _ => rw [List.map_cons, finishes, ih]; rfl
    | finished _ _ _ => rw [List.map_cons, finishes, ih]; rfl

theorem finishes_map_debug (n : Nat) (ds : List Debug.Event) : finishes n (ds.map .debug) = [] := by
  induction ds with
  | nil => rfl
  | cons d ds ih => rw [List.map_cons, finishes, ih]

/-- In a batch all output comes before every end. -/
theorem finishes_bySource (n : Nat) (es : List DeskEvent) :
    finishes n (bySource es) =
      (finishedOf (runsOf es)).map fun id => (id, n + (outputsOf es).length) := by
  rw [bySource, finishes_append, finishes_append, finishes_map_output, finishes_map_run,
    finishes_map_debug, outputsOf_map_output, List.nil_append, List.append_nil]

/-- An end has its place among the output. -/
theorem mem_finishes {es : List DeskEvent} :
    (id, v) ∈ finishes n es ↔ ∃ before name o behind,
      es = before ++ .run (.finished id name o) :: behind ∧
        v = n + (outputsOf before).length := by
  constructor
  · intro h
    induction es generalizing n with
    | nil => cases h
    | cons e es ih =>
      -- An end in the rest counts the first event if that is output.
      have hlater : ∀ m, (id, v) ∈ finishes m es → m = n + (outputsOf [e]).length →
          ∃ before name o behind, e :: es = before ++ .run (.finished id name o) :: behind ∧
            v = n + (outputsOf before).length := by
        intro m hm hmn
        obtain ⟨before, name, o, behind, rfl, rfl⟩ := ih hm
        refine ⟨e :: before, name, o, behind, rfl, ?_⟩
        rw [show e :: before = [e] ++ before from rfl, outputsOf_append, List.length_append, hmn,
          Nat.add_assoc]
      cases e with
      | output o => exact hlater _ h rfl
      | debug d => exact hlater _ h rfl
      | run r =>
        cases r with
        | started _ _ _ => exact hlater _ h rfl
        | finished id' name o =>
          rcases List.mem_cons.1 h with heq | h
          · cases heq
            exact ⟨[], name, o, es, rfl, rfl⟩
          · exact hlater _ h rfl
  · rintro ⟨before, name, o, behind, rfl, rfl⟩
    rw [finishes_append]
    exact List.mem_append_right _ List.mem_cons_self

end Finishes

/-! ## Settled ends -/

/-- The runs whose ends were received, each with how much output comes
before its end. While the output is taken that is not known yet of an end
that is in the batch. -/
def settled (q : Reader) : List (RunId × Nat) :=
  finishes 0 q.returned ++
    if q.source? = some .output then []
    else (finishedOf (runsOf q.taken)).map fun id =>
      (id, (outputsOf q.returned).length + (outputsOf q.taken).length)

/-- The place of one of the ends is before output of its run. -/
def Late (ends : List (RunId × Nat)) (h : List ReaderAction) : Prop :=
  ∃ id v i, (id, v) ∈ ends ∧ (senders h)[i]? = some (some id) ∧ v ≤ i

section Settled

variable {h : List ReaderAction} {q : Reader} {id : RunId} {v : Nat}

variable {c : Channels} {es : List DeskEvent} {s : EventSource} {sorts : Bool}
  {batches : List (List DeskEvent)}

theorem settled_rest (hrest : q.gathering = none) : settled q = finishes 0 q.returned := by
  obtain ⟨c, gathering, sorts, batches⟩ := q
  cases hrest
  exact List.append_nil _

theorem settled_output :
    settled ⟨c, some ⟨es, some .output⟩, sorts, batches⟩ = finishes 0 batches.flatten :=
  List.append_nil _

theorem settled_behind (hs : s ≠ .output) :
    settled ⟨c, some ⟨es, some s⟩, sorts, batches⟩ =
      finishes 0 batches.flatten ++ (finishedOf (runsOf es)).map fun id =>
        (id, (outputsOf batches.flatten).length + (outputsOf es).length) := by
  have hne : ¬ source? ⟨c, some ⟨es, some s⟩, sorts, batches⟩ = some .output :=
    fun heq => hs (Option.some.inj heq)
  rw [settled, if_neg hne]
  rfl

theorem senders_append (h k : List ReaderAction) : senders (h ++ k) = senders h ++ senders k :=
  List.filterMap_append

/-- Each output that is sent has a sender. -/
theorem length_senders (h : List ReaderAction) :
    (senders h).length = (outputsOf (sent h)).length := by
  induction h with
  | nil => rfl
  | cons a h ih =>
    cases a with
    | send sender e =>
      cases e with
      | output o => exact congrArg (· + 1) ih
      | run r => exact ih
      | debug d => exact ih
    | drain => exact ih
    | wait first => exact ih
    | receive => exact ih

/-- A settled end was sent. -/
theorem sent_of_mem_settled (hmem : (id, v) ∈ settled (run h)) :
    ∃ name o, RunEvent.finished id name o ∈ runsOf (sent h) := by
  have hruns := (faithful_run h).runs
  rw [settled, List.mem_append] at hmem
  rcases hmem with hmem | hmem
  · obtain ⟨before, name, o, behind, heq, -⟩ := mem_finishes.1 hmem
    refine ⟨name, o, ?_⟩
    rw [← hruns, heq, runsOf_append, runsOf_run]
    simp
  · split at hmem
    · cases hmem
    · obtain ⟨id', hid', heq⟩ := List.mem_map.1 hmem
      cases heq
      obtain ⟨r, hr, hfinished⟩ := List.mem_filterMap.1 hid'
      cases r with
      | started _ _ _ => cases hfinished
      | finished id' name o =>
        cases hfinished
        refine ⟨name, o, ?_⟩
        rw [← hruns]
        simp [hr]

/-- An event of a run that was sent was sent by some action. -/
theorem exists_send_of_mem_runs {r : RunEvent} (hr : r ∈ runsOf (sent h)) :
    ∃ sender, .send sender (.run r) ∈ h := by
  obtain ⟨e, he, heq⟩ := List.mem_filterMap.1 hr
  obtain ⟨a, ha, hae⟩ := List.mem_filterMap.1 he
  cases e with
  | output o => cases heq
  | debug d => cases heq
  | run r' =>
    cases heq
    cases a with
    | send sender e =>
      cases hae
      exact ⟨sender, ha⟩
    | drain => cases hae
    | wait first => cases hae
    | receive => cases hae

/-- **A send makes no end late** that was received before, since no run
sends output after its end. -/
theorem late_send {sender : Option RunId} {e : DeskEvent} {ends : List (RunId × Nat)}
    (horderly : Orderly (h ++ [.send sender e])) (hends : ends ⊆ settled (run h)) :
    Late ends (h ++ [.send sender e]) ↔ Late ends h := by
  rw [Late, senders_append]
  constructor
  · rintro ⟨id, v, i, hmem, hi, hvi⟩
    refine ⟨id, v, i, hmem, ?_, hvi⟩
    by_cases hlt : i < (senders h).length
    · rwa [List.getElem?_append_left hlt] at hi
    · -- The new output is of a run that has said that it is finished.
      exfalso
      rw [List.getElem?_append_right (Nat.not_lt.1 hlt)] at hi
      have hin := List.mem_of_getElem? hi
      cases e with
      | output o =>
        have hsender : some id = sender := List.mem_singleton.1 hin
        subst hsender
        obtain ⟨name, out, hfinished⟩ := sent_of_mem_settled (hends hmem)
        obtain ⟨sender', hsend⟩ := exists_send_of_mem_runs hfinished
        refine (List.pairwise_append.1 horderly).2.2 _ hsend _ List.mem_cons_self ?_
        exact beq_self_eq_true id
      | run r => cases hin
      | debug d => cases hin
  · rintro ⟨id, v, i, hmem, hi, hvi⟩
    refine ⟨id, v, i, hmem, ?_, hvi⟩
    rw [List.getElem?_append_left (List.getElem?_eq_some_iff.1 hi).1]
    exact hi

/-- Starting a batch settles nothing. -/
theorem settled_start (hrest : q.gathering = none) (c : Channels) (es : List DeskEvent)
    (sorts : Bool) :
    settled ⟨c, some ⟨es, some .output⟩, sorts, q.batches⟩ = settled q := by
  rw [settled_output, settled_rest hrest, returned]

theorem settled_drain (q : Reader) : settled (q.step .drain) = settled q := by
  rw [step]
  split
  · next hrest => exact settled_start hrest _ _ _
  · rfl

theorem settled_wait (q : Reader) (first : EventSource) :
    settled (q.step (.wait first)) = settled q := by
  rw [step]
  split
  · next hrest _ => exact settled_start hrest _ _ _
  · rfl

/-- An end overtakes just when output of its run has a number from the
count of what was received on. -/
theorem mem_drop_senders {n : Nat} :
    some id ∈ (senders h).drop n ↔ ∃ i, (senders h)[i]? = some (some id) ∧ n ≤ i := by
  rw [List.mem_iff_getElem?]
  constructor
  · rintro ⟨i, hi⟩
    rw [List.getElem?_drop] at hi
    exact ⟨n + i, hi, Nat.le_add_right n i⟩
  · rintro ⟨i, hi, hle⟩
    refine ⟨i - n, ?_⟩
    rw [List.getElem?_drop, Nat.add_sub_cancel' hle]
    exact hi

/-- **What a receive settles**: nothing, the end that it takes, or, at the
end of the pass over the output, the end that a wait began with. -/
theorem settled_receive (hf : Faithful h q) :
    (settled (q.step .receive) = settled q ∧ ending? q = none) ∨
    (∃ id, ending? q = some id ∧ settled (q.step .receive) = settled q ++ [(id, received q)]) ∨
    (q.channels.output = [] ∧ ending? q = none ∧ settled (q.step .receive) =
      settled q ++ (finishedOf (runsOf q.taken)).map fun id => (id, received q)) := by
  obtain ⟨c, gathering, sorts, batches⟩ := q
  rcases hf.receive_cases with ⟨hrest, hstep⟩ | ⟨es, s, e, c', hg, hreceive, hstep⟩ |
    ⟨es, s, s', hg, hreceive, hnext, hstep⟩ | ⟨es, hg, -, hstep⟩
  · cases hrest
    exact Or.inl ⟨by rw [hstep], rfl⟩
  · cases hg
    obtain ⟨hes, -, hruns, -⟩ := receive?_some hreceive
    rw [hstep]
    cases e with
    | output o =>
      cases hes
      exact Or.inl ⟨settled_output.trans settled_output.symm, rfl⟩
    | debug d =>
      cases hes
      refine Or.inl ⟨?_, rfl⟩
      refine (settled_behind (s := .debug) nofun).trans
        (Eq.trans ?_ (settled_behind (s := .debug) nofun).symm)
      rw [runsOf_append, outputsOf_append, runsOf_debug, outputsOf_debug, runsOf_nil,
        outputsOf_nil, List.append_nil, List.append_nil]
    | run r =>
      cases hes
      have hhead : c.runs = r :: c'.runs := hruns.symm
      cases r with
      | started _ _ _ =>
        refine Or.inl ⟨?_, by simp only [ending?, hhead]; rfl⟩
        refine (settled_behind (s := .run) nofun).trans
          (Eq.trans ?_ (settled_behind (s := .run) nofun).symm)
        simp [finishedOf]
      | finished id name o =>
        refine Or.inr (Or.inl ⟨id, by simp only [ending?, hhead]; rfl, ?_⟩)
        refine (settled_behind (s := .run) nofun).trans
          (Eq.trans ?_ (congrArg (· ++ _) (settled_behind (s := .run) nofun).symm))
        simp [finishedOf, received, taken, returned]
  · cases hg
    rw [hstep]
    cases s with
    | debug => cases hnext
    | run =>
      cases hnext
      have hempty : c.runs = [] := runs_nil_of_receive? hreceive
      refine Or.inl ⟨?_, by simp only [ending?, hempty]; rfl⟩
      rw [settled_behind (s := .run) nofun, settled_behind (s := .debug) nofun]
    | output =>
      cases hnext
      refine Or.inr (Or.inr ⟨output_nil_of_receive? hreceive, rfl, ?_⟩)
      rw [settled_behind (s := .run) nofun, settled_output]
      rfl
  · cases hg
    rw [hstep]
    refine Or.inl ⟨?_, rfl⟩
    -- The batch is returned source by source, and `settled` has counted all its output already.
    rw [settled_rest rfl, settled_behind (s := .debug) nofun]
    simp only [returned, List.flatten_append, List.flatten_singleton, finishes_append,
      finishes_bySource, Nat.zero_add]

/-- **A receive makes an end late just when the end overtakes.** -/
theorem late_receive :
    Late (settled (run (h ++ [.receive]))) (h ++ [.receive]) ↔
      Late (settled (run h)) h ∨ Overtakes h := by
  have hf := faithful_run h
  have hsenders : senders (h ++ [.receive]) = senders h :=
    (senders_append h [.receive]).trans (List.append_nil _)
  rw [Late, Late, hsenders, run_append_singleton]
  rcases settled_receive hf with ⟨hsettled, hnone⟩ | ⟨id, hends, hsettled⟩ |
    ⟨hempty, hnone, hsettled⟩
  · rw [hsettled, Overtakes, hnone, or_iff_left]
    rintro ⟨id, hends, -⟩
    cases hends
  · rw [hsettled, Overtakes, hends]
    constructor
    · rintro ⟨id', v, i, hmem, hi, hvi⟩
      rcases List.mem_append.1 hmem with hmem | hmem
      · exact Or.inl ⟨id', v, i, hmem, hi, hvi⟩
      · cases List.mem_singleton.1 hmem
        exact Or.inr ⟨id, rfl, mem_drop_senders.2 ⟨i, hi, hvi⟩⟩
    · rintro (⟨id', v, i, hmem, hi, hvi⟩ | ⟨id', hid', hwaits⟩)
      · exact ⟨id', v, i, List.mem_append_left _ hmem, hi, hvi⟩
      · cases hid'
        obtain ⟨i, hi, hvi⟩ := mem_drop_senders.1 hwaits
        exact ⟨id, _, i, List.mem_append_right _ List.mem_cons_self, hi, hvi⟩
  · -- All output that was sent was received, so nothing can come late.
    have hall : received (run h) = (senders h).length := by
      rw [length_senders, ← hf.outputs, hempty, List.append_nil, List.length_append, received]
    rw [hsettled, hall, Overtakes, hnone, or_iff_left]
    · constructor
      · rintro ⟨id, v, i, hmem, hi, hvi⟩
        rcases List.mem_append.1 hmem with hmem | hmem
        · exact ⟨id, v, i, hmem, hi, hvi⟩
        · obtain ⟨id', -, heq⟩ := List.mem_map.1 hmem
          cases heq
          exact absurd (List.getElem?_eq_some_iff.1 hi).1 (Nat.not_lt.2 hvi)
      · rintro ⟨id, v, i, hmem, hi, hvi⟩
        exact ⟨id, v, i, List.mem_append_left _ hmem, hi, hvi⟩
    · rintro ⟨id, hends, -⟩
      cases hends

/-- Starting to read makes no end late. -/
theorem late_of_senders {a : ReaderAction} {ends : List (RunId × Nat)} (ha : senders [a] = []) :
    Late ends (h ++ [a]) ↔ Late ends h := by
  rw [Late, Late, senders_append, ha, List.append_nil]

/-- **One action**: only a receive can make an end late, and only one that
overtakes. -/
theorem late_step {a : ReaderAction} (horderly : Orderly (h ++ [a])) :
    Late (settled (run (h ++ [a]))) (h ++ [a]) ↔
      Late (settled (run h)) h ∨ (a = .receive ∧ Overtakes h) := by
  cases a with
  | send sender e =>
    rw [late_send horderly, run_append_singleton, or_iff_left fun hor => nomatch hor.1]
    · rfl
    · rw [run_append_singleton]
      exact fun _ hmem => hmem
  | drain =>
    rw [late_of_senders rfl, run_append_singleton, settled_drain,
      or_iff_left fun hor => nomatch hor.1]
  | wait first =>
    rw [late_of_senders rfl, run_append_singleton, settled_wait,
      or_iff_left fun hor => nomatch hor.1]
  | receive =>
    rw [late_receive, and_iff_right rfl]

end Settled

/-! ## Whole histories -/

section History

variable {h k : List ReaderAction}

theorem Orderly.of_append (horderly : Orderly (h ++ k)) : Orderly h :=
  (List.pairwise_append.1 horderly).1

/-- A place in a history is in its first part, or it is the end. -/
theorem exists_receive_append {a : ReaderAction} {p : List ReaderAction → Prop} :
    (∃ h₁ h₂, h ++ [a] = h₁ ++ .receive :: h₂ ∧ p h₁) ↔
      (∃ h₁ h₂, h = h₁ ++ .receive :: h₂ ∧ p h₁) ∨ (a = .receive ∧ p h) := by
  constructor
  · rintro ⟨h₁, h₂, heq, hp⟩
    rcases List.eq_nil_or_concat h₂ with rfl | ⟨h₂, b, rfl⟩
    · obtain ⟨rfl, hab⟩ := List.append_inj' heq rfl
      cases hab
      exact Or.inr ⟨rfl, hp⟩
    · rw [List.concat_eq_append, ← List.cons_append, ← List.append_assoc] at heq
      exact Or.inl ⟨h₁, h₂, (List.append_inj' heq rfl).1, hp⟩
  · rintro (⟨h₁, h₂, rfl, hp⟩ | ⟨rfl, hp⟩)
    · exact ⟨h₁, h₂ ++ [a], by rw [List.append_assoc, List.cons_append], hp⟩
    · exact ⟨h, [], rfl, hp⟩

/-- **An end is late just when one overtook.** -/
theorem late_settled_iff (horderly : Orderly h) :
    Late (settled (run h)) h ↔ ∃ h₁ h₂, h = h₁ ++ .receive :: h₂ ∧ Overtakes h₁ := by
  induction h using List.reverseRecOn with
  | nil =>
    constructor
    · rintro ⟨id, v, i, hmem, -⟩
      cases hmem
    · rintro ⟨h₁, h₂, heq, -⟩
      cases h₁ <;> cases heq
  | append_singleton h a ih =>
    rw [late_step horderly, ih horderly.of_append, exists_receive_append]

/-- An action returns no batch, or the last receive of a batch returns
it. -/
theorem batches_step (q : Reader) (a : ReaderAction) :
    (q.step a).batches = q.batches ∨
      ((q.step a).gathering = none ∧ ∃ es, (q.step a).batches = q.batches ++ [es]) := by
  cases a with
  | send sender e => exact Or.inl rfl
  | drain =>
    rw [step]
    split <;> exact Or.inl rfl
  | wait first =>
    rw [step]
    split <;> exact Or.inl rfl
  | receive =>
    rw [step]
    split
    · exact Or.inl rfl
    · rw [proceed]
      split
      · exact Or.inl rfl
      · exact Or.inr ⟨rfl, _, rfl⟩

/-- Batches are never taken back. -/
theorem length_batches_le (h k : List ReaderAction) :
    (run h).batches.length ≤ (run (h ++ k)).batches.length := by
  induction k using List.reverseRecOn with
  | nil => simp only [List.append_nil, Nat.le_refl]
  | append_singleton k a ih =>
    rw [← List.append_assoc, run_append_singleton]
    rcases batches_step (run (h ++ k)) a with hsame | ⟨-, es, hnew⟩
    · rwa [hsame]
    · rw [hnew, List.length_append]
      exact Nat.le_add_right_of_le ih

/-- **An end was returned late just when one overtook** in a batch that
was returned. -/
theorem late_returned_iff (horderly : Orderly h) :
    Late (finishes 0 (run h).returned) h ↔ ∃ h₁ h₂, h = h₁ ++ .receive :: h₂ ∧
      Overtakes h₁ ∧ (run h).batches ≠ (run h₁).batches := by
  induction h using List.reverseRecOn with
  | nil =>
    constructor
    · rintro ⟨id, v, i, hmem, -⟩
      cases hmem
    · rintro ⟨h₁, h₂, heq, -⟩
      cases h₁ <;> cases heq
  | append_singleton h a ih =>
    -- While no batch is returned nothing changes, and a returned batch leaves none to be gathered.
    rcases batches_step (run h) a with hsame | ⟨hrest, es, hnew⟩
    · rw [← run_append_singleton] at hsame
      have hlate : Late (finishes 0 (run h).returned) (h ++ [a]) ↔
          Late (finishes 0 (run h).returned) h := by
        cases a with
        | send sender e => exact late_send horderly (List.subset_append_left _ _)
        | drain => exact late_of_senders rfl
        | wait first => exact late_of_senders rfl
        | receive => exact late_of_senders rfl
      rw [exists_receive_append (p := fun h₁ => Overtakes h₁ ∧ (run (h ++ [a])).batches ≠
        (run h₁).batches), hsame, returned, hsame, ← returned, hlate, ih horderly.of_append]
      exact (or_iff_left fun hor => hor.2.2 rfl).symm
    · rw [← run_append_singleton] at hrest hnew
      rw [← settled_rest hrest, late_settled_iff horderly]
      constructor
      · rintro ⟨h₁, h₂, heq, hover⟩
        refine ⟨h₁, h₂, heq, hover, fun hsame => ?_⟩
        -- The batch that is returned now was not returned when the end overtook.
        have hlength : h₁.length ≤ h.length := by
          have := congrArg List.length heq
          simp only [List.length_append, List.length_cons, List.length_nil] at this
          omega
        obtain ⟨k, rfl⟩ :=
          List.prefix_of_prefix_length_le ⟨_, heq.symm⟩ (List.prefix_append h [a]) hlength
        have hle := length_batches_le h₁ k
        rw [← hsame, hnew, List.length_append] at hle
        exact Nat.not_succ_le_self _ hle
      · rintro ⟨h₁, h₂, heq, hover, -⟩
        exact ⟨h₁, h₂, heq, hover⟩

/-- **Output comes first just when no end overtakes.** A history of sends
and single receives, in which runs say last that they are finished, returns
all output of every run before its end, exactly if the reader took no end
of a returned batch while output of that run waited. -/
theorem outputFirst_iff (horderly : Orderly h) :
    OutputFirst h ↔ ∀ h₁ h₂, h = h₁ ++ .receive :: h₂ → Overtakes h₁ →
      (run h).batches = (run h₁).batches := by
  have hfirst : OutputFirst h ↔ ¬ Late (finishes 0 (run h).returned) h := by
    constructor
    · rintro hfirst ⟨id, v, i, hmem, hi, hvi⟩
      obtain ⟨before, name, o, behind, heq, rfl⟩ := mem_finishes.1 hmem
      rw [Nat.zero_add] at hvi
      exact absurd (hfirst before id name o behind heq i hi) (Nat.not_lt.2 hvi)
    · intro hlate before id name o behind heq i hi
      refine Nat.lt_of_not_le fun hle => hlate ⟨id, (outputsOf before).length, i, ?_, hi, hle⟩
      exact mem_finishes.2 ⟨before, name, o, behind, heq, (Nat.zero_add _).symm⟩
  rw [hfirst, late_returned_iff horderly]
  constructor
  · intro hnone h₁ h₂ heq hover
    exact Classical.byContradiction fun hne => hnone ⟨h₁, h₂, heq, hover, hne⟩
  · rintro hall ⟨h₁, h₂, heq, hover, hne⟩
    exact hne (hall h₁ h₂ heq hover)

/-- What a run sends last: a line and that it is finished. -/
def lastWords : List ReaderAction :=
  [.send (some 0) (.output (.line "Build" ⟨.stdout, "done", "done"⟩)),
    .send (some 0) (.run (.finished 0 "Build" .success))]

/-- A reading that a number of receives completes. -/
def reading (receives : Nat) : List ReaderAction := .drain :: List.replicate receives .receive

/-- What was sent before a reading is returned in order. -/
theorem outputFirst_reading :
    Orderly (lastWords ++ reading 5) ∧ OutputFirst (lastWords ++ reading 5) := by
  have horderly : Orderly (lastWords ++ reading 5) := by decide
  have hnot : ∀ n < 8, ¬ Overtakes ((lastWords ++ reading 5).take n) := by decide
  refine ⟨horderly, (outputFirst_iff horderly).2 fun h₁ h₂ heq hover => ?_⟩
  have hlength : 8 = h₁.length + (h₂.length + 1) := by
    rw [← List.length_cons, ← List.length_append, ← heq]
    rfl
  have htake : (lastWords ++ reading 5).take h₁.length = h₁ := by rw [heq, List.take_left]
  exact absurd (htake.symm ▸ hover) (hnot h₁.length (by omega))

/-- A run that says its last words while a reader turns from the output to
the runs; a second reading finds the line. -/
def torn : List ReaderAction :=
  .drain :: .receive :: lastWords ++ .receive :: .receive :: .receive :: reading 4

/-- The two events of a run are torn apart when they are sent between the
two passes of a reading. -/
theorem not_outputFirst_torn : Orderly torn ∧ ¬ OutputFirst torn := by
  refine ⟨by decide, fun hfirst => ?_⟩
  have hreturned : (run torn).returned = [] ++ .run (.finished 0 "Build" .success) ::
      [.output (.line "Build" ⟨.stdout, "done", "done"⟩)] := rfl
  exact absurd (hfirst _ _ _ _ _ hreturned 0 rfl) (Nat.not_lt_zero 0)

end History

end Reader
end CodeDesk
