import CodeDesk.Command.Dispatch
import CodeDesk.Proofs.Template.Values
/-!
# Settling — what is asked before a command runs, and what a refusal leaves

A command is refused before anything is done for it: the runner stays as it
is, with the live run of the same label, the sinks and the events. Until then
the user is asked to confirm, then for the slots without an answer, in
ascending order and up to the first that is refused; the answers stay with
the values (`considerate_dispatch`).

Nothing is asked twice, so whatever the user goes by, what they say is a
function of the question.
-/

namespace CodeDesk
namespace Command

open Template Template.Values

/-! ## Asking for slots -/

/-- Slots are asked for in turn, up to the first that is refused. -/
inductive Asks (answer? : Nat → Option String) : List Nat → List Nat → Prop where
  /-- There are no more slots. -/
  | done : Asks answer? [] []
  /-- A slot is refused, and the rest is not asked for. -/
  | refused {n : Nat} {ns : List Nat} (h : answer? n = none) : Asks answer? (n :: ns) [n]
  /-- A slot is answered, and the next one is asked for. -/
  | given {n : Nat} {ns asked : List Nat} {text : String} (h : answer? n = some text)
      (rest : Asks answer? ns asked) : Asks answer? (n :: ns) (n :: asked)

/-- The answers to questions for slots. -/
def answersTo (answer? : Nat → Option String) (slots : List Nat) : List (Nat × String) :=
  slots.filterMap fun n => (answer? n).map (n, ·)

variable {answer? : Nat → Option String} {ns asked before after : List Nat} {n : Nat}
variable {text : String}

theorem mem_answersTo {a : Nat × String} :
    a ∈ answersTo answer? asked ↔ a.1 ∈ asked ∧ answer? a.1 = some a.2 := by
  rw [answersTo, List.mem_filterMap]
  constructor
  · rintro ⟨n, hn, ha⟩
    obtain ⟨text, htext, rfl⟩ := Option.map_eq_some_iff.1 ha
    exact ⟨hn, htext⟩
  · rintro ⟨hn, htext⟩
    exact ⟨a.1, hn, Option.map_eq_some_iff.2 ⟨a.2, htext, rfl⟩⟩

/-- Asking for slots that there are records the answers, and nothing fails. -/
theorem askSlots_eq (h : ∀ n ∈ ns, 1 ≤ n ∧ n ≤ promptSlots) (v : Values) :
    ∃ asked, Asks answer? ns asked ∧
      askSlots answer? ns v = (.ok (), v.answered (answersTo answer? asked), asked) := by
  induction ns generalizing v with
  | nil => exact ⟨[], .done, rfl⟩
  | cons n ns ih =>
    obtain ⟨hn, hns⟩ := List.forall_mem_cons.1 h
    rw [askSlots]
    cases hanswer : answer? n with
    | none => exact ⟨[n], .refused hanswer, by simp [answersTo, answered, hanswer]⟩
    | some text =>
      obtain ⟨asked, hasks, heq⟩ := ih hns (v.set (promptName n) text)
      refine ⟨n :: asked, .given hanswer hasks, ?_⟩
      have hanswers : answersTo answer? (n :: asked) = (n, text) :: answersTo answer? asked := by
        rw [answersTo, List.filterMap_cons_some (by rw [hanswer]; rfl)]
        rfl
      simp only [setPrompt_eq_ok v text hn, heq, hanswers, answered_cons, if_pos hn]

theorem Asks.isPrefix (h : Asks answer? ns asked) : asked <+: ns := by
  induction h with
  | done => exact List.prefix_refl _
  | refused => exact (List.prefix_cons_inj _).2 (List.nil_prefix)
  | given _ _ ih => exact (List.prefix_cons_inj _).2 ih

/-- After a refusal nothing more is asked for. -/
theorem Asks.eq_nil_of_refused (h : Asks answer? ns asked) (hasked : asked = before ++ n :: after)
    (hn : answer? n = none) : after = [] := by
  induction h generalizing before with
  | done => simp at hasked
  | refused =>
    obtain ⟨-, -, rfl⟩ | ⟨_, -, h⟩ := List.cons_eq_append_iff.1 hasked
    · rfl
    · simp at h
  | given htext _ ih =>
    cases before with
    | nil =>
      obtain ⟨rfl, rfl⟩ := List.cons.inj hasked
      rw [htext] at hn
      cases hn
    | cons m before => exact ih (List.cons.inj hasked).2

/-- What is not asked for comes after a slot that is refused. -/
theorem Asks.mem_or_refused (h : Asks answer? ns asked) (hsorted : ns.Pairwise (· < ·))
    (hn : n ∈ ns) : n ∈ asked ∨ ∃ m ∈ asked, m < n ∧ answer? m = none := by
  induction h with
  | done => cases hn
  | refused hrefused =>
    rcases List.mem_cons.1 hn with rfl | hn
    · exact .inl List.mem_cons_self
    · exact .inr ⟨_, List.mem_cons_self, List.rel_of_pairwise_cons hsorted hn, hrefused⟩
  | given _ _ ih =>
    rcases List.mem_cons.1 hn with rfl | hn
    · exact .inl List.mem_cons_self
    · obtain hasked | ⟨m, hm, hlt, hrefused⟩ := ih hsorted.of_cons hn
      · exact .inl (List.mem_cons_of_mem _ hasked)
      · exact .inr ⟨m, List.mem_cons_of_mem _ hm, hlt, hrefused⟩

/-! ## Settling a command -/

/-- The slot that a question is for. -/
def Question.slot? : Question → Option Nat
  | confirm => none
  | slot n => some n

/-- The question that comes before those for slots. -/
def Spec.opening (c : Spec) : List Question := if c.confirm then [.confirm] else []

/-- A command is confirmed if it has to be, and it has the buffer that it
needs. -/
structure Spec.Admitted (c : Spec) (p : Prompter) (at_ : Circumstances) : Prop where
  /-- The user confirms it. -/
  confirmed : c.confirm = true → p.confirms c = true
  /-- There is a buffer. -/
  buffered : c.needsBuffer = true → at_.hasBuffer = true

/-- How a command is settled, with the slots that are asked for. -/
inductive Settles (c : Spec) (v : Values) (p : Prompter) (at_ : Circumstances) :
    List Nat → Settled → Prop where
  /-- The user does not confirm it. -/
  | unconfirmed (hconfirm : c.confirm = true) (h : p.confirms c = false) :
      Settles c v p at_ [] ⟨.error (.notConfirmed c.label), v, c.opening⟩
  /-- It needs a buffer, and there is none. -/
  | bufferless (hconfirmed : c.confirm = true → p.confirms c = true)
      (hneeds : c.needsBuffer = true) (h : at_.hasBuffer = false) :
      Settles c v p at_ [] ⟨.error (.noActiveBuffer c.label), v, c.opening⟩
  /-- Slots without an answer count as empty. -/
  | unasked (hadmitted : c.Admitted p at_) (h : at_.noPrompt = true) :
      Settles c v p at_ [] ⟨.ok (c.plan v at_), v, c.opening⟩
  /-- Some slot is refused, and the error names those that are missing. -/
  | refused {slots : List Nat} {v' : Values} (hadmitted : c.Admitted p at_)
      (hasks : at_.noPrompt = false)
      (h : Asks (p.answer? c) (v.missingPromptsOf c.templates) slots)
      (hvalues : v' = v.answered (answersTo (p.answer? c) slots))
      (hrefused : ∃ n ∈ slots, p.answer? c n = none) :
      Settles c v p at_ slots
        ⟨.error (.badTemplate (.missingPrompts (v'.missingPromptsOf c.templates))), v',
          c.opening ++ slots.map .slot⟩
  /-- Every slot is answered. -/
  | answered {slots : List Nat} {v' : Values} (hadmitted : c.Admitted p at_)
      (hasks : at_.noPrompt = false)
      (h : Asks (p.answer? c) (v.missingPromptsOf c.templates) slots)
      (hvalues : v' = v.answered (answersTo (p.answer? c) slots))
      (hanswered : ∀ n ∈ slots, p.answer? c n ≠ none) :
      Settles c v p at_ slots ⟨.ok (c.plan v' at_), v', c.opening ++ slots.map .slot⟩

/-- The slots that were asked for. -/
def Dispatched.slots (d : Dispatched) : List Nat := d.asked.filterMap Question.slot?

/-- What a dispatched command may ask and change. -/
structure Considerate (c : Spec) (v : Values) (p : Prompter) (at_ : Circumstances) (r : Runner)
    (d : Dispatched) : Prop where
  /-- A command that is refused leaves the runner as it was: the runs and their
  processes, the running table, the sinks and the events. -/
  untouched : ∀ e, d.run = .error e → d.runner = r
  /-- The question whether to run comes before those for slots. -/
  order : d.asked = c.opening ++ d.slots.map .slot
  /-- Slots are asked for only if the command was confirmed and has its buffer. -/
  admitted : d.slots ≠ [] → c.Admitted p at_ ∧ at_.noPrompt = false
  /-- They are slots that a template refers to and that have no answer. -/
  missing : ∀ n ∈ d.slots, Refer c.templates n ∧ v.get? (promptName n) = none
  /-- They are asked for in ascending order, each once. -/
  ascending : d.slots.Pairwise (· < ·)
  /-- After the first refusal nothing more is asked. -/
  stops : ∀ before n after, d.slots = before ++ n :: after → p.answer? c n = none → after = []
  /-- Up to it every missing slot is asked for. -/
  thorough : c.Admitted p at_ → at_.noPrompt = false → ∀ n, Refer c.templates n →
    v.get? (promptName n) = none → n ∈ d.slots ∨ ∃ m ∈ d.slots, m < n ∧ p.answer? c m = none
  /-- The answers are recorded. -/
  recorded : ∀ n ∈ d.slots, ∀ text, p.answer? c n = some text →
    d.values.get? (promptName n) = some text
  /-- Every other value is what it was. -/
  kept : ∀ name, (∀ n ∈ d.slots, p.answer? c n ≠ none → name ≠ promptName n) →
    d.values.get? name = v.get? name
  /-- The command runs exactly if it is admitted and no slot was refused. -/
  runs_iff : (∃ id, d.run = .ok id) ↔
    c.Admitted p at_ ∧ ∀ n ∈ d.slots, p.answer? c n ≠ none
  /-- With every question answered it is not refused for its templates. -/
  served : (∀ n ∈ d.slots, p.answer? c n ≠ none) → ∀ e, d.run ≠ .error (.badTemplate e)

variable {c : Spec} {v : Values} {p : Prompter} {at_ : Circumstances} {s : Settled}
variable {slots : List Nat} {templates : List String}

theorem not_admitted_unconfirmed (hconfirm : c.confirm = true) (h : p.confirms c = false) :
    ¬ c.Admitted p at_ := by
  intro hadmitted
  rw [hadmitted.confirmed hconfirm] at h
  cases h

theorem not_admitted_bufferless (hneeds : c.needsBuffer = true) (h : at_.hasBuffer = false) :
    ¬ c.Admitted p at_ := by
  intro hadmitted
  rw [hadmitted.buffered hneeds] at h
  cases h

/-- A slot that was answered has the answer. -/
theorem get?_answersTo_of_mem (h : ∀ n ∈ slots, 1 ≤ n ∧ n ≤ promptSlots) (hn : n ∈ slots)
    (htext : answer? n = some text) :
    (v.answered (answersTo answer? slots)).get? (promptName n) = some text := by
  refine get?_answered_of_mem (h n hn) (mem_answersTo.2 ⟨hn, htext⟩) ?_
  rintro ⟨_, text'⟩ ha rfl
  have htext' := (mem_answersTo.1 ha).2
  rw [htext, Option.some.injEq] at htext'
  exact htext'.symm

/-- What is not the own name of a slot that was answered keeps its value. -/
theorem get?_answersTo_of_ne {name : String}
    (h : ∀ n ∈ slots, answer? n ≠ none → name ≠ promptName n) :
    (v.answered (answersTo answer? slots)).get? name = v.get? name := by
  refine get?_answered_of_ne fun a ha _ _ => ?_
  obtain ⟨hmem, htext⟩ := mem_answersTo.1 ha
  exact h a.1 hmem (by rw [htext]; exact Option.some_ne_none _)

/-- After the questions no answer is missing exactly if no slot was refused. -/
theorem missingPromptsOf_answersTo_eq_nil_iff
    (h : Asks answer? (v.missingPromptsOf templates) slots) :
    (v.answered (answersTo answer? slots)).missingPromptsOf templates = [] ↔
      ∀ n ∈ slots, answer? n ≠ none := by
  have hvalid : ∀ n ∈ slots, 1 ≤ n ∧ n ≤ promptSlots := fun n hn =>
    (mem_missingPromptsOf_iff.1 (h.isPrefix.mem hn)).1.le
  rw [List.eq_nil_iff_forall_not_mem]
  constructor
  · intro hnil n hn hrefused
    obtain ⟨hrefer, hnone⟩ := mem_missingPromptsOf_iff.1 (h.isPrefix.mem hn)
    refine hnil n (mem_missingPromptsOf_iff.2 ⟨hrefer, ?_⟩)
    rw [get?_answersTo_of_ne, hnone]
    intro m hm hm' heq
    rw [promptName_inj (hvalid n hn) (hvalid m hm)] at heq
    exact hm' (heq ▸ hrefused)
  · intro hall n hn
    obtain ⟨hrefer, hnone⟩ := mem_missingPromptsOf_iff.1 hn
    by_cases hasked : n ∈ slots
    · obtain ⟨text, htext⟩ := Option.ne_none_iff_exists'.1 (hall n hasked)
      rw [get?_answersTo_of_mem hvalid hasked htext] at hnone
      cases hnone
    · -- It was missing from the start, and all of those were asked for.
      rw [get?_answersTo_of_ne] at hnone
      · have hmissing := mem_missingPromptsOf_iff.2 ⟨hrefer, hnone⟩
        obtain hmem | ⟨m, hm, -, hrefused⟩ := h.mem_or_refused (pairwise_ascending _) hmissing
        · exact hasked hmem
        · exact hall m hm hrefused
      · intro m hm _ heq
        rw [promptName_inj hrefer.le (hvalid m hm)] at heq
        exact hasked (heq ▸ hm)

theorem settles_settleAnswers (hadmitted : c.Admitted p at_) :
    ∃ slots, Settles c v p at_ slots (c.settleAnswers v p at_ c.opening) := by
  rw [Spec.settleAnswers]
  split
  · next hno => exact ⟨[], .unasked hadmitted hno⟩
  · next hno =>
    rw [Bool.not_eq_true] at hno
    have hvalid : ∀ n ∈ v.missingPromptsOf c.templates, 1 ≤ n ∧ n ≤ promptSlots :=
      fun _ hn => (mem_missingPromptsOf_iff.1 hn).1.le
    obtain ⟨slots, hasks, heq⟩ := askSlots_eq hvalid v
    have hmissing := missingPromptsOf_answersTo_eq_nil_iff hasks
    refine ⟨slots, ?_⟩
    rw [heq]
    dsimp only
    by_cases hanswered : ∀ n ∈ slots, p.answer? c n ≠ none
    · -- The check that comes last finds what was asked for all answered.
      rw [checkPrompts_eq_ok.2 (hmissing.2 hanswered)]
      exact .answered hadmitted hno hasks rfl hanswered
    · rw [checkPrompts_eq_error (mt hmissing.1 hanswered)]
      refine .refused hadmitted hno hasks rfl ?_
      simpa only [ne_eq, Classical.not_forall, Classical.not_not, exists_prop] using hanswered

/-- Every command is settled in one of these ways. -/
theorem settles_settle (c : Spec) (v : Values) (p : Prompter) (at_ : Circumstances) :
    ∃ slots, Settles c v p at_ slots (c.settle v p at_) := by
  rw [Spec.settle]
  split
  · next h =>
    rw [Bool.and_eq_true, Bool.not_eq_true'] at h
    have hopening : [.confirm] = c.opening := by rw [Spec.opening, if_pos h.1]
    exact ⟨[], hopening ▸ .unconfirmed h.1 h.2⟩
  · next h =>
    have hconfirmed : c.confirm = true → p.confirms c = true := by simpa using h
    dsimp only
    rw [← Spec.opening]
    split
    · next h =>
      rw [Bool.and_eq_true, Bool.not_eq_true'] at h
      exact ⟨[], .bufferless hconfirmed h.1 h.2⟩
    · next h => exact settles_settleAnswers ⟨hconfirmed, by simpa using h⟩

/-- A command about which there is nothing to ask is not refused. -/
theorem settle_of_unasked (hconfirm : c.confirm = false) (hbuffer : c.needsBuffer = false)
    (hslots : ∀ slot, ¬ Refer c.templates slot) (v : Values) (p : Prompter) (at_ : Circumstances) :
    (c.settle v p at_).plan = .ok (c.plan v at_) := by
  have hmissing : v.missingPromptsOf c.templates = [] :=
    List.eq_nil_iff_forall_not_mem.2 fun n hn => hslots n (mem_missingPromptsOf_iff.1 hn).1
  rw [Spec.settle, hconfirm, hbuffer, Bool.false_and, if_neg Bool.false_ne_true]
  dsimp only
  rw [Bool.false_and, if_neg Bool.false_ne_true, Spec.settleAnswers, hmissing]
  split
  · rfl
  · simp only [askSlots, checkPrompts_eq_ok.2 hmissing]

namespace Settles

/-- The question whether to run comes before those for slots. -/
theorem asked_eq (h : Settles c v p at_ slots s) : s.asked = c.opening ++ slots.map .slot := by
  cases h <;> simp

/-- The values are those from before with the answers. -/
theorem values_eq (h : Settles c v p at_ slots s) :
    s.values = v.answered (answersTo (p.answer? c) slots) := by
  cases h with
  | unconfirmed | bufferless | unasked => rfl
  | refused _ _ _ hvalues | answered _ _ _ hvalues => exact hvalues

/-- Only a command that is admitted has slots asked for, from the first that
is missing on. -/
theorem asks (h : Settles c v p at_ slots s) : slots = [] ∨
    c.Admitted p at_ ∧ at_.noPrompt = false ∧
      Asks (p.answer? c) (v.missingPromptsOf c.templates) slots := by
  cases h with
  | unconfirmed | bufferless | unasked => exact .inl rfl
  | refused hadmitted hno hasks | answered hadmitted hno hasks =>
    exact .inr ⟨hadmitted, hno, hasks⟩

theorem slots_eq (h : Settles c v p at_ slots s) : s.asked.filterMap Question.slot? = slots := by
  have hopening : c.opening.filterMap Question.slot? = [] := by
    rw [Spec.opening]
    split <;> rfl
  rw [h.asked_eq, List.filterMap_append, hopening, List.nil_append, List.filterMap_map]
  exact List.filterMap_some

theorem missing (h : Settles c v p at_ slots s) (hn : n ∈ slots) :
    Refer c.templates n ∧ v.get? (promptName n) = none := by
  rcases h.asks with rfl | ⟨-, -, hasks⟩
  · cases hn
  · exact mem_missingPromptsOf_iff.1 (hasks.isPrefix.mem hn)

theorem ascending (h : Settles c v p at_ slots s) : slots.Pairwise (· < ·) := by
  rcases h.asks with rfl | ⟨-, -, hasks⟩
  · exact .nil
  · exact (pairwise_ascending _).sublist hasks.isPrefix.sublist

theorem thorough (h : Settles c v p at_ slots s) (hadmitted : c.Admitted p at_)
    (hasks : at_.noPrompt = false) (hrefer : Refer c.templates n)
    (hnone : v.get? (promptName n) = none) :
    n ∈ slots ∨ ∃ m ∈ slots, m < n ∧ p.answer? c m = none := by
  have hmissing := mem_missingPromptsOf_iff.2 ⟨hrefer, hnone⟩
  cases h with
  | unconfirmed hconfirm hno => exact absurd hadmitted (not_admitted_unconfirmed hconfirm hno)
  | bufferless _ hneeds hno => exact absurd hadmitted (not_admitted_bufferless hneeds hno)
  | unasked _ hno =>
    rw [hasks] at hno
    cases hno
  | refused _ _ h | answered _ _ h => exact h.mem_or_refused (pairwise_ascending _) hmissing

/-- A command that is admitted and whose slots were answered has a plan. -/
theorem plan_iff (h : Settles c v p at_ slots s) : (∃ plan, s.plan = .ok plan) ↔
    c.Admitted p at_ ∧ ∀ n ∈ slots, p.answer? c n ≠ none := by
  constructor
  · rintro ⟨plan, hplan⟩
    cases h with
    | unconfirmed | bufferless | refused => cases hplan
    | unasked hadmitted => exact ⟨hadmitted, fun _ hn => absurd hn List.not_mem_nil⟩
    | answered hadmitted _ _ _ hanswered => exact ⟨hadmitted, hanswered⟩
  · rintro ⟨hadmitted, hanswered⟩
    cases h with
    | unconfirmed hconfirm hno => exact absurd hadmitted (not_admitted_unconfirmed hconfirm hno)
    | bufferless _ hneeds hno => exact absurd hadmitted (not_admitted_bufferless hneeds hno)
    | refused _ _ _ _ hrefused =>
      obtain ⟨n, hn, hnone⟩ := hrefused
      exact absurd hnone (hanswered n hn)
    | unasked | answered => exact ⟨_, rfl⟩

/-- Only a slot that is refused makes the templates fail. -/
theorem exists_refused {e : BindError} (h : Settles c v p at_ slots s)
    (hplan : s.plan = .error (.badTemplate e)) : ∃ n ∈ slots, p.answer? c n = none := by
  cases h with
  | unconfirmed | bufferless | unasked | answered => cases hplan
  | refused _ _ _ _ hrefused => exact hrefused

end Settles

/-! ## Dispatching -/

section
variable (M : Machine) (r : Runner) (c : Spec) (v : Values) (p : Prompter) (at_ : Circumstances)

theorem dispatch_values : (r.dispatch M c v p at_).values = (c.settle v p at_).values := by
  rw [Runner.dispatch]
  dsimp only
  split <;> rfl

theorem dispatch_asked : (r.dispatch M c v p at_).asked = (c.settle v p at_).asked := by
  rw [Runner.dispatch]
  dsimp only
  split <;> rfl

/-- A command is started when it has a plan, as the next run. -/
theorem dispatch_run :
    (r.dispatch M c v p at_).run = (c.settle v p at_).plan.map fun _ => r.runs.length := by
  rw [Runner.dispatch]
  dsimp only
  split
  · next hplan => rw [hplan, Except.map]
  · next hplan =>
    rw [hplan, Except.map]
    rfl

theorem dispatch_runner {e : CommandError} (h : (r.dispatch M c v p at_).run = .error e) :
    (r.dispatch M c v p at_).runner = r := by
  rw [Runner.dispatch] at h ⊢
  dsimp only at h ⊢
  split
  · rfl
  · next hplan =>
    rw [hplan] at h
    cases h

/-- **A command that is refused changes nothing.** And whether it is refused or
started, the user is asked for no more than it needs, and the values differ
by the answers alone. -/
theorem considerate_dispatch : Considerate c v p at_ r (r.dispatch M c v p at_) := by
  obtain ⟨slots, h⟩ := settles_settle c v p at_
  have hslots : (r.dispatch M c v p at_).slots = slots := by
    rw [Dispatched.slots, dispatch_asked, h.slots_eq]
  have hvalues : (r.dispatch M c v p at_).values = v.answered (answersTo (p.answer? c) slots) := by
    rw [dispatch_values, h.values_eq]
  have hrun := dispatch_run M r c v p at_
  constructor
  case untouched => exact fun e => dispatch_runner M r c v p at_
  case order => rw [hslots, dispatch_asked, h.asked_eq]
  all_goals rw [hslots]
  case admitted =>
    intro hsome
    obtain ⟨hadmitted, hasks, -⟩ := h.asks.resolve_left hsome
    exact ⟨hadmitted, hasks⟩
  case missing => exact fun n => h.missing
  case ascending => exact h.ascending
  case stops =>
    intro before n after hsplit hnone
    rcases h.asks with hnil | ⟨-, -, hasks⟩
    · simp [hnil] at hsplit
    · exact hasks.eq_nil_of_refused hsplit hnone
  case thorough => exact fun hadmitted hasks n => h.thorough hadmitted hasks
  case recorded =>
    intro n hn text htext
    rw [hvalues, get?_answersTo_of_mem (fun m hm => (h.missing hm).1.le) hn htext]
  case kept =>
    intro name hname
    rw [hvalues, get?_answersTo_of_ne hname]
  case runs_iff =>
    rw [hrun, ← h.plan_iff]
    cases (c.settle v p at_).plan <;> simp [Except.map]
  case served =>
    intro hanswered e he
    rw [hrun] at he
    cases hplan : (c.settle v p at_).plan with
    | ok plan => rw [hplan] at he; cases he
    | error e' =>
      rw [hplan] at he
      cases he
      obtain ⟨n, hn, hnone⟩ := h.exists_refused hplan
      exact hanswered n hn hnone

end

/-- While a commit is under way another one is dispatched; it is confirmed,
its author is given and its message is not. -/
theorem considerate_dispatch_commit :
    let c : Spec := ⟨"Git", "Commit", "", [], [], [⟨"git", ["commit", "--author",
      "\x7bPromptString1\x7d", "-m", "\x7bPromptString2\x7d"]⟩], "", true, false, true, .plain⟩
    let p : Prompter := ⟨fun _ => true, fun _ n => if n = 1 then some "ann" else none⟩
    let at_ : Circumstances := ⟨false, false, false, ⟨"/"⟩⟩
    let r : Runner := { Runner.ofDisk default with
      runs := [(Run.ofPlan (c.plan Values.empty at_) Table.empty 0).begin Table.empty 0]
      table := Table.empty.set c.label 0 }
    let d := r.dispatch ⟨fun _ _ => .error default⟩ c Values.empty p at_
    d.asked = [.confirm, .slot 1, .slot 2] ∧ d.values.get? "PromptString1" = some "ann" ∧
      (∃ e, d.run = .error e) ∧ d.runner.table.get? c.label = some 0 ∧ d.runner.runs = r.runs := by
  intro c p at_ r d
  have hd : Considerate c Values.empty p at_ r d := considerate_dispatch _ r c _ p at_
  have hasked : d.asked = [.confirm, .slot 1, .slot 2] := by decide +kernel
  have hslots : d.slots = [1, 2] := by
    rw [Dispatched.slots, hasked]
    rfl
  have hrefused : ∃ e, d.run = .error e := by
    cases hrun : d.run with
    | error e => exact ⟨e, rfl⟩
    | ok id =>
      have hanswered := (hd.runs_iff.1 ⟨id, hrun⟩).2 2 (by simp [hslots])
      exact absurd rfl hanswered
  obtain ⟨e, hrun⟩ := hrefused
  have hrunner := hd.untouched e hrun
  refine ⟨hasked, hd.recorded 1 (by simp [hslots]) "ann" rfl, ⟨e, hrun⟩, ?_, ?_⟩
  · rw [hrunner]
    exact Table.get?_set.trans (if_pos rfl)
  · rw [hrunner]

end Command
end CodeDesk
