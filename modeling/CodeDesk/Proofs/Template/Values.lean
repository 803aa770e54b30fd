import CodeDesk.Proofs.Data.Table
import CodeDesk.Proofs.Template.Segmentation
import CodeDesk.Proofs.Text.Number
import CodeDesk.Template.Syntax
import CodeDesk.Template.Values
import CodeDesk.Template.Variable
/-!
# Values — the names of slots, what is looked up, and which answers are missing

A slot has one name of its own, `promptName`. It is not the only name that
means the slot: the number may have any number of zeros in front
(`paddedName`). Among the names that a template can contain there are no
others (`promptSlot?_eq_some_iff`).

Recording an answer changes what is looked up at the slot's own name, and
nothing else. A slot is missing when a template refers to it, under any of
the names that mean it, and nothing is recorded under its own name
(`mem_missingPromptsOf_iff`); the missing slots are listed in ascending
order, each once.
-/

namespace CodeDesk
namespace Template

/-! ## The names of a slot -/

section SlotName

variable {name : String} {slot : Nat}

/-- A name of a slot with zeros in front of its number. -/
def paddedName (zeros slot : Nat) : String :=
  promptStem ++ String.ofList (List.replicate zeros '0') ++ toString slot

/-- Without zeros it is the slot's own name. -/
theorem paddedName_zero (slot : Nat) : paddedName 0 slot = promptName slot := by
  rw [paddedName, promptName, List.replicate_zero, String.ofList_nil, String.append_empty]

theorem toList_paddedName (zeros slot : Nat) :
    (paddedName zeros slot).toList =
      promptStem.toList ++ (List.replicate zeros '0' ++ (toString slot).toList) := by
  rw [paddedName, String.toList_append, String.toList_append, String.toList_ofList,
    List.append_assoc]

theorem promptSlot?_of_toList {cs : List Char} (h : name.toList = promptStem.toList ++ cs) :
    promptSlot? name = (word? cs).filter fun slot => 1 ≤ slot && slot ≤ promptSlots := by
  rw [promptSlot?, dropLead?_eq_some_iff.2 h, Option.bind_some]
  cases word? cs with
  | none => rfl
  | some slot => rw [Option.filter_some]

/-- The number of a slot is a single digit. -/
theorem exists_digit (hone : 1 ≤ slot) (hslots : slot ≤ promptSlots) :
    ∃ d, (toString slot).toList = [d] ∧ isDigit d ∧ d.toNat - '0'.toNat = slot := by
  rw [promptSlots] at hslots
  obtain rfl | rfl | rfl : slot = 1 ∨ slot = 2 ∨ slot = 3 := by omega
  · exact ⟨'1', by decide, by decide, by decide⟩
  · exact ⟨'2', by decide, by decide, by decide⟩
  · exact ⟨'3', by decide, by decide, by decide⟩

/-- Every padded name means its slot. -/
theorem promptSlot?_paddedName (zeros : Nat) (hone : 1 ≤ slot) (hslots : slot ≤ promptSlots) :
    promptSlot? (paddedName zeros slot) = some slot := by
  obtain ⟨d, htext, hd, hvalue⟩ := exists_digit hone hslots
  have hdigits : ∀ c ∈ List.replicate zeros '0' ++ [d], isDigit c := by
    intro c hc
    rcases List.mem_append.1 hc with hzero | hlast
    · rw [List.eq_of_mem_replicate hzero]
      rfl
    · rwa [List.mem_singleton.1 hlast]
  have hplus : '+' ∉ List.replicate zeros '0' ++ [d] := fun h => absurd (hdigits '+' h) (by decide)
  have hlimit : slot < wordLimit := Nat.lt_of_le_of_lt hslots (by decide)
  have hword : word? (List.replicate zeros '0' ++ [d]) = some slot :=
    (word?_eq_some_iff hplus).2 ⟨by simp, hdigits, by
      rw [digitsValue_padded, digitsValue_cons, hvalue]; rfl, hlimit⟩
  rw [promptSlot?_of_toList (htext ▸ toList_paddedName zeros slot), hword, Option.filter_some,
    if_pos (by simp [hone, hslots])]

/-- **The names of slots in templates.** A name that means a slot has the
slot's number behind the stem, with zeros in front of it or without. -/
theorem promptSlot?_eq_some_iff (hname : isName name.toList) :
    promptSlot? name = some slot ↔
      1 ≤ slot ∧ slot ≤ promptSlots ∧ ∃ zeros, name = paddedName zeros slot := by
  constructor
  · intro h
    cases hlead : dropLead? promptStem.toList name.toList with
    | none =>
      rw [promptSlot?, hlead] at h
      cases h
    | some cs =>
      have htext := dropLead?_eq_some_iff.1 hlead
      rw [promptSlot?_of_toList htext, Option.filter_eq_some_iff, Bool.and_eq_true,
        decide_eq_true_eq, decide_eq_true_eq] at h
      obtain ⟨hword, hone, hslots⟩ := h
      have hplus : '+' ∉ cs := by
        intro hmem
        rw [isName, htext, Bool.and_eq_true, List.all_eq_true] at hname
        exact absurd (hname.2 '+' (List.mem_append_right _ hmem)) (by decide)
      obtain ⟨hne, hdigits, hvalue, -⟩ := (word?_eq_some_iff hplus).1 hword
      have hten : slot < 10 := Nat.lt_of_le_of_lt hslots (by decide)
      obtain ⟨zeros, d, hcs, hd, hlast⟩ := exists_padding hne hdigits (hvalue ▸ hten)
      obtain ⟨d', htext', hd', hvalue'⟩ := exists_digit hone hslots
      have hsame : d = d' := eq_of_value hd hd' (by rw [← hlast, hvalue, hvalue'])
      refine ⟨hone, hslots, zeros, String.toList_inj.1 ?_⟩
      rw [toList_paddedName, htext', ← hsame, ← hcs, htext]
  · rintro ⟨hone, hslots, zeros, rfl⟩
    exact promptSlot?_paddedName zeros hone hslots

end SlotName

/-- Some of the templates refer to a slot. -/
def Refer (templates : List String) (slot : Nat) : Prop :=
  ∃ t ∈ templates, ∃ name ∈ names t, promptSlot? name = some slot

theorem le_of_promptSlot? {name : String} {slot : Nat} (h : promptSlot? name = some slot) :
    1 ≤ slot ∧ slot ≤ promptSlots := by
  rw [promptSlot?] at h
  split at h
  · split at h
    · next hslot =>
      cases h
      rwa [Bool.and_eq_true, decide_eq_true_eq, decide_eq_true_eq] at hslot
    · cases h
  · cases h

theorem Refer.le {templates : List String} {slot : Nat} (h : Refer templates slot) :
    1 ≤ slot ∧ slot ≤ promptSlots := by
  obtain ⟨_, -, _, -, hslot⟩ := h
  exact le_of_promptSlot? hslot

/-- Slots are known by their names. -/
theorem promptName_inj {slot slot' : Nat} (h : 1 ≤ slot ∧ slot ≤ promptSlots)
    (h' : 1 ≤ slot' ∧ slot' ≤ promptSlots) : promptName slot = promptName slot' ↔ slot = slot' := by
  refine ⟨fun heq => ?_, congrArg promptName⟩
  have hslot := promptSlot?_paddedName 0 h.1 h.2
  rw [paddedName_zero, heq, ← paddedName_zero, promptSlot?_paddedName 0 h'.1 h'.2] at hslot
  exact (Option.some.inj hslot).symm

namespace Values

variable {v v' : Values} {name template : String} {templates : List String} {slot : Nat}

/-! ## Lookup -/

/-- What comes into a template for a name: its value, or no text. -/
def textAt (v : Values) (name : String) : String := (v.get? name).getD ""

theorem get?_set (v : Values) (key value : String) :
    (v.set key value).get? name = if name = key then some value else v.get? name :=
  Table.get?_set

theorem setPrompt_eq_ok (v : Values) (answer : String) (h : 1 ≤ slot ∧ slot ≤ promptSlots) :
    v.setPrompt slot answer = .ok (v.set (promptName slot) answer) := by
  rw [setPrompt, if_pos (by simp [h])]

/-! ## Ascending order -/

theorem le_of_mem_dropWhile {n m : Nat} {ns : List Nat} (hsorted : ns.Pairwise (· < ·))
    (h : m ∈ ns.dropWhile (· < n)) : n ≤ m := by
  induction ns with
  | nil => cases h
  | cons k ns ih =>
    rw [List.dropWhile_cons] at h
    split at h
    · exact ih hsorted.of_cons h
    · next hk =>
      rw [decide_eq_true_eq] at hk
      rcases List.mem_cons.1 h with rfl | hmem
      · omega
      · have := List.rel_of_pairwise_cons hsorted hmem
        omega

theorem ascending_cons (n : Nat) (ns : List Nat) :
    ascending (n :: ns) = (ascending ns).takeWhile (· < n) ++
      n :: ((ascending ns).dropWhile (· < n)).filter (· != n) := rfl

/-- Ascending numbers are all different and in order. -/
theorem pairwise_ascending (ns : List Nat) : (ascending ns).Pairwise (· < ·) := by
  induction ns with
  | nil => exact List.Pairwise.nil
  | cons n ns ih =>
    have hbelow : ∀ k ∈ (ascending ns).takeWhile (· < n), k < n := fun k hk =>
      of_decide_eq_true (List.all_eq_true.1 List.all_takeWhile k hk)
    have habove : ∀ m ∈ ((ascending ns).dropWhile (· < n)).filter (· != n), n < m := by
      intro m hm
      obtain ⟨hmem, hne⟩ := List.mem_filter.1 hm
      have := le_of_mem_dropWhile ih hmem
      have := bne_iff_ne.1 hne
      omega
    rw [ascending_cons, List.pairwise_append, List.pairwise_cons]
    refine ⟨ih.sublist (List.takeWhile_sublist _), ⟨habove, ?_⟩, fun k hk m hm => ?_⟩
    · exact (ih.sublist (List.dropWhile_sublist _)).filter _
    · rcases List.mem_cons.1 hm with rfl | hm
      · exact hbelow k hk
      · exact Nat.lt_trans (hbelow k hk) (habove m hm)

theorem mem_ascending {m : Nat} {ns : List Nat} : m ∈ ascending ns ↔ m ∈ ns := by
  induction ns with
  | nil => exact Iff.rfl
  | cons n ns ih =>
    have hparts : m ∈ ascending ns ↔ m ∈ (ascending ns).takeWhile (· < n) ∨
        m ∈ (ascending ns).dropWhile (· < n) := by
      rw [← List.mem_append, List.takeWhile_append_dropWhile]
    rw [ascending_cons, List.mem_append, List.mem_cons, List.mem_filter, List.mem_cons, ← ih,
      hparts, bne_iff_ne]
    by_cases hm : m = n
    · simp [hm]
    · simp [hm]

/-! ## Missing answers -/

theorem mem_missingPrompts_iff : slot ∈ v.missingPrompts template ↔
    (∃ name ∈ names template, promptSlot? name = some slot) ∧ v.get? (promptName slot) = none := by
  rw [missingPrompts, mem_ascending, List.mem_filter, List.mem_filterMap, Bool.not_eq_true',
    Table.contains, Option.isSome_eq_false_iff, Option.isNone_iff_eq_none]
  rfl

/-- A slot is missing when a template refers to it and it has no answer. -/
theorem mem_missingPromptsOf_iff : slot ∈ v.missingPromptsOf templates ↔
    Refer templates slot ∧ v.get? (promptName slot) = none := by
  rw [missingPromptsOf, mem_ascending, List.mem_flatMap]
  constructor
  · rintro ⟨t, ht, hmissing⟩
    obtain ⟨hname, hnone⟩ := mem_missingPrompts_iff.1 hmissing
    exact ⟨⟨t, ht, hname⟩, hnone⟩
  · rintro ⟨⟨t, ht, hname⟩, hnone⟩
    exact ⟨t, ht, mem_missingPrompts_iff.2 ⟨hname, hnone⟩⟩

/-- The check passes when no answer is missing. -/
theorem checkPrompts_eq_ok : v.checkPrompts templates = .ok () ↔
    v.missingPromptsOf templates = [] := by
  rw [checkPrompts]
  split
  · next h => exact ⟨fun _ => h, fun _ => rfl⟩
  · next h =>
    refine ⟨fun hok => ?_, fun hnil => absurd hnil h⟩
    cases hok

theorem checkPrompts_eq_error (h : v.missingPromptsOf templates ≠ []) :
    v.checkPrompts templates = .error (.missingPrompts (v.missingPromptsOf templates)) := by
  rw [checkPrompts]
  split
  · next hnil => exact absurd hnil h
  · rfl

/-- **The check passes when every slot that is referred to has an answer.** -/
theorem checkPrompts_eq_ok_iff : v.checkPrompts templates = .ok () ↔
    ∀ slot, Refer templates slot → ∃ answer, v.get? (promptName slot) = some answer := by
  rw [checkPrompts_eq_ok, List.eq_nil_iff_forall_not_mem]
  refine forall_congr' fun slot => ?_
  rw [mem_missingPromptsOf_iff, not_and, ← ne_eq, Option.ne_none_iff_exists']

/-! ## Values with answers -/

/-- The values after answers were recorded in turn; those for other slots are
refused. -/
def answered (v : Values) (answers : List (Nat × String)) : Values :=
  answers.foldl (fun v a => (v.setPrompt a.1 a.2).toOption.getD v) v

theorem answered_cons (v : Values) (a : Nat × String) (answers : List (Nat × String)) :
    v.answered (a :: answers) =
      (if 1 ≤ a.1 ∧ a.1 ≤ promptSlots then v.set (promptName a.1) a.2 else v).answered answers := by
  rw [answered, List.foldl_cons, answered]
  congr 1
  rw [setPrompt]
  by_cases h : 1 ≤ a.1 ∧ a.1 ≤ promptSlots
  · rw [if_pos h, if_pos (by simp [h])]
    rfl
  · rw [if_neg h, if_neg (by simpa using h)]
    rfl

/-- Answers come to the same whatever the other values are. -/
theorem get?_answered_congr (h : v.get? name = v'.get? name) (answers : List (Nat × String)) :
    (v.answered answers).get? name = (v'.answered answers).get? name := by
  induction answers generalizing v v' with
  | nil => exact h
  | cons a answers ih =>
    rw [answered_cons, answered_cons]
    split
    · exact ih (by rw [get?_set, get?_set, h])
    · exact ih h

/-- What is not the own name of an answered slot has the value that it had. -/
theorem get?_answered_of_ne {answers : List (Nat × String)}
    (h : ∀ a ∈ answers, 1 ≤ a.1 → a.1 ≤ promptSlots → name ≠ promptName a.1) :
    (v.answered answers).get? name = v.get? name := by
  induction answers generalizing v with
  | nil => rfl
  | cons a answers ih =>
    obtain ⟨ha, hanswers⟩ := List.forall_mem_cons.1 h
    rw [answered_cons, ih hanswers]
    split
    · next hslot => rw [get?_set, if_neg (ha hslot.1 hslot.2)]
    · rfl

/-- A slot has the answer that was given for it, if all that were given for it
are the same. -/
theorem get?_answered_of_mem {answers : List (Nat × String)} {answer : String}
    (hslot : 1 ≤ slot ∧ slot ≤ promptSlots) (hmem : (slot, answer) ∈ answers)
    (hsame : ∀ a ∈ answers, a.1 = slot → a.2 = answer) :
    (v.answered answers).get? (promptName slot) = some answer := by
  induction answers generalizing v with
  | nil => cases hmem
  | cons a answers ih =>
    obtain ⟨ha, hanswers⟩ := List.forall_mem_cons.1 hsame
    rw [answered_cons]
    by_cases hlater : (slot, answer) ∈ answers
    · exact ih hlater hanswers
    · -- The first is the answer, and no other is given for the slot.
      obtain rfl : (slot, answer) = a := (List.mem_cons.1 hmem).resolve_right hlater
      rw [if_pos hslot, get?_answered_of_ne, get?_set, if_pos rfl]
      intro b hb hone hslots heq
      rw [promptName_inj hslot ⟨hone, hslots⟩] at heq
      obtain ⟨slot', answer'⟩ := b
      obtain rfl : answer' = answer := hanswers _ hb heq.symm
      exact hlater (heq ▸ hb)

/-! ## Resolved values -/

theorem get?_resolve_projectRoot (file : Option Path) (project : ProjectPaths)
    (editor : Option EditorContext) :
    (resolve file project editor).get? "ProjectRoot" = some project.root.text := by
  simp [get?, resolve, Table.ofList, Table.get?_set]

theorem get?_resolve_fileDirProjRel (file : Path) (project : ProjectPaths)
    (editor : Option EditorContext) :
    (resolve (some file) project editor).get? "FileDirProjRel" =
      some (projectRelative project.root
        ((project.absolute file).parent?.getD Path.empty)).text := by
  simp [get?, resolve, Table.ofList, Table.get?_set]

theorem get?_resolve_runExec (file : Option Path) (project : ProjectPaths)
    (editor : Option EditorContext) :
    (resolve file project editor).get? "RunExec" =
      some (project.absolute project.runExec).text := by
  simp [get?, resolve, Table.ofList, Table.get?_set]

/-- The names of the variables that an active buffer gives values to. -/
def bufferNames : List String :=
  (catalogue.filter fun v => v.kind.needsBuffer).map Variable.name

/-- What no buffer gives a value to has the same value with every buffer. -/
theorem get?_resolve_congr (h : name ∉ bufferNames) (project : ProjectPaths)
    (file file' : Option Path) (editor editor' : Option EditorContext) :
    (resolve file project editor).get? name = (resolve file' project editor').get? name := by
  simp only [bufferNames, catalogue, Kind.needsBuffer, List.filter_cons, List.filter_nil,
    Bool.false_eq_true, if_true, if_false, List.map_cons, List.map_nil, List.mem_cons, not_or,
    List.not_mem_nil, not_false_eq_true, and_true] at h
  simp only [get?, resolve, Table.ofList, List.foldl_cons, List.foldl_nil, Table.get?_set, h,
    if_false]

/-- The names of the variables that the user is not asked for. -/
def resolvedNames : List String := (catalogue.filter fun v => v.kind != .prompt).map Variable.name

/-- No value follows for what the user is asked for. -/
theorem get?_resolve_of_slot (h : promptSlot? name = some slot) (file : Option Path)
    (project : ProjectPaths) (editor : Option EditorContext) :
    (resolve file project editor).get? name = none := by
  have hresolved : ∀ key ∈ resolvedNames, promptSlot? key = none := by decide
  have hname : name ∉ resolvedNames := by
    intro hmem
    rw [hresolved name hmem] at h
    cases h
  simp only [resolvedNames, catalogue, bne_iff_ne, ne_eq, reduceCtorEq, List.filter_cons,
    List.filter_nil, not_false_eq_true, not_true_eq_false, if_true, if_false, List.map_cons,
    List.map_nil, List.mem_cons, not_or, List.not_mem_nil, and_true] at hname
  simp only [get?, resolve, Table.ofList, List.foldl_cons, List.foldl_nil, Table.get?_set, hname,
    if_false]
  rfl

end Values
end Template
end CodeDesk
