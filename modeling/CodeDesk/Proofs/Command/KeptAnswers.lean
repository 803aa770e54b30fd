import CodeDesk.Command.Dispatch
import CodeDesk.Proofs.Template.Values
/-!
# Kept answers — whether a command gets what the user has answered

A command asks for the slots that its templates refer to, and an answer is
recorded under the slot's own name. Binding looks a reference up under the
name that is written in the template. So an answer gets into the command
wherever the slot is referred to by its own name, and it is left out where
the number has zeros in front (`keepsAnswers_iff`).
-/

namespace CodeDesk

namespace Template
namespace Values

variable {v : Values} {template name : String} {slot zeros : Nat}

/-- In what a template is bound to, every reference to a slot has given way
to the answer that is recorded for the slot. -/
def KeepsAnswers (v : Values) (template : String) : Prop :=
  ∀ before name after slot, segments template = before ++ .var name :: after →
    promptSlot? name = some slot →
    ∃ answer, v.get? (promptName slot) = some answer ∧
      v.bind template = fillAll v.get? before ++ answer ++ fillAll v.get? after

/-- A template keeps the answers if they are also what its own names for the
slots have as values. -/
theorem keepsAnswers_iff_textAt
    (hrecorded : ∀ slot, Refer [template] slot → ∃ answer, v.get? (promptName slot) = some answer) :
    v.KeepsAnswers template ↔ ∀ name ∈ names template, ∀ slot, promptSlot? name = some slot →
      v.textAt name = v.textAt (promptName slot) := by
  constructor
  · intro hkeeps name hname slot hslot
    obtain ⟨before, after, hsegments⟩ := List.append_of_mem (mem_names_iff.1 hname)
    obtain ⟨answer, hanswer, hbind⟩ := hkeeps before name after slot hsegments hslot
    rw [bind, bind_of_split hsegments, String.append_left_inj, String.append_right_inj] at hbind
    rw [textAt, textAt, hanswer, hbind, Option.getD_some]
  · intro htext before name after slot hsegments hslot
    have hname : name ∈ names template :=
      mem_names_iff.2 (hsegments ▸ List.mem_append_right before List.mem_cons_self)
    obtain ⟨answer, hanswer⟩ :=
      hrecorded slot ⟨template, List.mem_singleton_self template, name, hname, hslot⟩
    have hsame := htext name hname slot hslot
    rw [textAt, textAt, hanswer, Option.getD_some] at hsame
    exact ⟨answer, hanswer, by rw [bind, bind_of_split hsegments, hsame]⟩

/-- A padded name is not the own name of any slot. -/
theorem paddedName_ne (hone : 1 ≤ slot) (hslots : slot ≤ promptSlots) (slot' : Nat)
    (hone' : 1 ≤ slot') (hslots' : slot' ≤ promptSlots) :
    paddedName (zeros + 1) slot ≠ promptName slot' := by
  intro heq
  have hslot := promptSlot?_paddedName (zeros + 1) hone hslots
  rw [heq, ← paddedName_zero, promptSlot?_paddedName 0 hone' hslots', Option.some.injEq] at hslot
  have hlength := congrArg (fun s => s.toList.length) heq
  rw [hslot, ← paddedName_zero, toList_paddedName, toList_paddedName, List.length_append,
    List.length_append, List.length_append, List.length_append, List.length_replicate,
    List.length_replicate] at hlength
  omega

/-- Nobody gives a value to a padded name. -/
theorem textAt_paddedName (hone : 1 ≤ slot) (hslots : slot ≤ promptSlots) (file : Option Path)
    (project : ProjectPaths) (editor : Option EditorContext) (answers : List (Nat × String)) :
    ((resolve file project editor).answered answers).textAt (paddedName (zeros + 1) slot) = "" := by
  rw [textAt, get?_answered_of_ne fun a _ => paddedName_ne hone hslots a.1,
    get?_resolve_of_slot (promptSlot?_paddedName _ hone hslots), Option.getD_none]

end Values
end Template

namespace Command

open Template Template.Values

/-- Some template of a command refers to a slot with zeros in front of its
number, one more than `zeros`. -/
def Spec.Pads (c : Spec) (zeros slot : Nat) : Prop :=
  1 ≤ slot ∧ slot ≤ promptSlots ∧ ∃ t ∈ c.templates, paddedName (zeros + 1) slot ∈ names t

variable {c : Spec} {v : Values}

/-- **Which answers get into a command.** When no answer is missing, every
reference to a slot gives way to the answer recorded for it, exactly if what
the templates call a slot with zeros in front of its number has the answer as
its value, too. With values that follow from file, project and editor and the
answers of the user this is so only for answers without text. -/
theorem keepsAnswers_iff (c : Spec) (v : Values) (hcheck : v.checkPrompts c.templates = .ok ()) :
    ((∀ t ∈ c.templates, v.KeepsAnswers t) ↔
      ∀ zeros slot, c.Pads zeros slot →
        v.textAt (paddedName (zeros + 1) slot) = v.textAt (promptName slot)) ∧
    ∀ file project editor answers, v = (resolve file project editor).answered answers →
      ((∀ t ∈ c.templates, v.KeepsAnswers t) ↔
        ∀ zeros slot, c.Pads zeros slot → v.get? (promptName slot) = some "") := by
  have hrecorded := checkPrompts_eq_ok_iff.1 hcheck
  have hkeeps : (∀ t ∈ c.templates, v.KeepsAnswers t) ↔ ∀ zeros slot, c.Pads zeros slot →
      v.textAt (paddedName (zeros + 1) slot) = v.textAt (promptName slot) := by
    have htemplate : ∀ t ∈ c.templates, v.KeepsAnswers t ↔ ∀ name ∈ names t, ∀ slot,
        promptSlot? name = some slot → v.textAt name = v.textAt (promptName slot) := by
      intro t ht
      refine keepsAnswers_iff_textAt fun slot hrefer => hrecorded slot ?_
      obtain ⟨t', ht', hname⟩ := hrefer
      exact ⟨t, ht, List.mem_singleton.1 ht' ▸ hname⟩
    constructor
    · rintro hall zeros slot ⟨hone, hslots, t, ht, hname⟩
      exact (htemplate t ht).1 (hall t ht) _ hname slot (promptSlot?_paddedName _ hone hslots)
    · intro hpadded t ht
      refine (htemplate t ht).2 fun name hname slot hslot => ?_
      obtain ⟨hone, hslots, zeros, rfl⟩ :=
        (promptSlot?_eq_some_iff (isName_of_mem_names hname)).1 hslot
      cases zeros with
      | zero => rw [paddedName_zero]
      | succ zeros => exact hpadded zeros slot ⟨hone, hslots, t, ht, hname⟩
  refine ⟨hkeeps, ?_⟩
  rintro file project editor answers rfl
  rw [hkeeps]
  refine forall_congr' fun zeros => forall_congr' fun slot => forall_congr' fun hpads => ?_
  obtain ⟨hone, hslots, t, ht, hname⟩ := hpads
  obtain ⟨answer, hanswer⟩ :=
    hrecorded slot ⟨t, ht, _, hname, promptSlot?_paddedName _ hone hslots⟩
  rw [textAt_paddedName hone hslots, textAt, hanswer, Option.getD_some, Option.some.injEq]
  exact eq_comm

/-- A command with one reference of either kind; the answer for the padded
one has no text. -/
theorem keepsAnswers_iff_grep :
    let c : Spec := ⟨"File", "Grep", "", [], [],
      [⟨"grep", ["\x7bPromptString1\x7d", "\x7bPromptString02\x7d"]⟩], "", false, false, false,
      .plain⟩
    let v := (resolve none default none).answered [(1, "needle"), (2, "")]
    v.checkPrompts c.templates = .ok () ∧ (∀ t ∈ c.templates, v.KeepsAnswers t) := by
  intro c v
  have hcheck : v.checkPrompts c.templates = .ok () := checkPrompts_eq_ok.2 (by decide +kernel)
  refine ⟨hcheck, ((keepsAnswers_iff c v hcheck).2 none default none _ rfl).2 ?_⟩
  rintro zeros slot ⟨hone, hslots, t, ht, hname⟩
  have hnames : c.templates.flatMap names = ["PromptString1", "PromptString02"] := by
    decide +kernel
  have hmem : paddedName (zeros + 1) slot ∈ ["PromptString1", "PromptString02"] :=
    hnames ▸ List.mem_flatMap.2 ⟨t, ht, hname⟩
  rcases List.mem_cons.1 hmem with hown | hpadded
  · exact absurd hown (paddedName_ne hone hslots 1 (by decide) (by decide))
  · have hslot : promptSlot? "PromptString02" = some slot :=
      List.mem_singleton.1 hpadded ▸ promptSlot?_paddedName _ hone hslots
    rw [show promptSlot? "PromptString02" = some 2 by decide, Option.some.injEq] at hslot
    subst hslot
    decide +kernel

/-- The user is asked for slot 1 and answers, and the command runs without the
answer: its template calls the slot 01. -/
theorem not_keepsAnswers_padded :
    let c : Spec := ⟨"Run", "Echo", "", [], [], [⟨"echo", ["\x7bPromptString01\x7d"]⟩], "", false,
      false, false, .plain⟩
    let s := c.settle (resolve none default none) ⟨fun _ => true, fun _ _ => some "hello"⟩
      ⟨false, false, false, ⟨"/"⟩⟩
    s.asked = [.slot 1] ∧ s.values.get? (promptName 1) = some "hello" ∧
      s.values.checkPrompts c.templates = .ok () ∧
      s.plan.toOption.map (·.steps) = some [⟨"echo", [""]⟩] ∧
      ¬ ∀ t ∈ c.templates, s.values.KeepsAnswers t := by
  intro c s
  have hanswer : s.values.get? (promptName 1) = some "hello" := by decide +kernel
  have hcheck : s.values.checkPrompts c.templates = .ok () :=
    checkPrompts_eq_ok.2 (by decide +kernel)
  refine ⟨by decide +kernel, hanswer, hcheck, by decide +kernel, fun hkeeps => ?_⟩
  have hmem : "\x7bPromptString01\x7d" ∈ c.templates := by decide
  obtain ⟨answer, hsome, hbind⟩ := hkeeps _ hmem [] "PromptString01" [] 1 (by decide +kernel)
    (by decide)
  rw [hanswer, Option.some.injEq] at hsome
  rw [← hsome] at hbind
  exact absurd hbind (by decide +kernel)

end Command
end CodeDesk
