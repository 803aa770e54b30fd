import CodeDesk.Command.Registry
import Mathlib.Data.List.Nodup
/-!
# Addresses — which commands their labels reach

A command is addressed by its label, and the table reads a label apart at
its first colon and takes off the white space around both parts. Writing a
label and reading it are inverse to each other for some commands and not for
others (`splitLabel?_label_iff`): there must be no colon in the category,
and neither part may be empty or have white space around it. The table takes
every command all the same.

Of what a table is built by nothing matters here but that no two commands
have the same category and name (`built_keys_nodup`). Then a label reaches
its command exactly if the two are inverse for it (`addressed_iff`).
-/

namespace CodeDesk

/-! ## Cutting and trimming -/

theorem cutFirst_append {sep : Char} {front back : List Char} (h : sep ∉ front) :
    cutFirst sep (front ++ sep :: back) = some (front, back) := by
  induction front with
  | nil => rw [List.nil_append, cutFirst, if_pos rfl]
  | cons c front ih =>
    have hc : c ≠ sep := fun heq => h (heq ▸ List.mem_cons_self)
    rw [List.cons_append, cutFirst, if_neg hc, ih fun hmem => h (List.mem_cons_of_mem c hmem)]
    rfl

theorem length_trimWhile_le (p : Char → Bool) (cs : List Char) :
    (trimWhile p cs).length ≤ cs.length := by
  rw [trimWhile, List.length_reverse]
  refine Nat.le_trans (List.dropWhile_sublist p).length_le ?_
  rw [List.length_reverse]
  exact (List.dropWhile_sublist p).length_le

theorem length_trim_le (s : String) : (trim s).toList.length ≤ s.toList.length := by
  rw [trim, String.toList_ofList]
  exact length_trimWhile_le _ s.toList

theorem trim_blank_cons (cs : List Char) :
    trim (String.ofList (' ' :: cs)) = trim (String.ofList cs) := by
  have hblank : Unicode.whiteSpace.contains ' ' = true := by decide
  rw [trim, trim, String.toList_ofList, String.toList_ofList, trimWhile, trimWhile,
    List.dropWhile_cons, if_pos hblank]

namespace Command

variable {c : Spec} {cs : List Spec} {r : Registry}

/-! ## Labels -/

/-- A command whose label says where its category ends: no colon is in the
category, and neither the category nor the name is empty or has white space
around it. -/
structure Spec.Addressable (c : Spec) : Prop where
  /-- The first colon of the label is the one behind the category. -/
  no_colon : ':' ∉ c.category.toList
  /-- The category is there. -/
  category_ne : c.category ≠ ""
  /-- No white space is around it. -/
  category_trim : trim c.category = c.category
  /-- The name is there. -/
  name_ne : c.name ≠ ""
  /-- No white space is around it. -/
  name_trim : trim c.name = c.name

instance : DecidablePred Spec.Addressable := fun c =>
  decidable_of_iff
    ((':' ∉ c.category.toList ∧ c.category ≠ "" ∧ trim c.category = c.category) ∧
      c.name ≠ "" ∧ trim c.name = c.name)
    ⟨fun ⟨⟨h₁, h₂, h₃⟩, h₄, h₅⟩ => ⟨h₁, h₂, h₃, h₄, h₅⟩,
      fun ⟨h₁, h₂, h₃, h₄, h₅⟩ => ⟨⟨h₁, h₂, h₃⟩, h₄, h₅⟩⟩

theorem Spec.toList_label (c : Spec) :
    c.label.toList = c.category.toList ++ ':' :: ' ' :: c.name.toList := by
  rw [Spec.label, String.toList_append, String.toList_append, List.append_assoc]
  rfl

/-- Without a colon in the category both parts are read, less the white
space around them. -/
theorem splitLabel?_label (h : ':' ∉ c.category.toList) :
    splitLabel? c.label =
      if (trim c.category).isEmpty || (trim c.name).isEmpty then none
      else some (trim c.category, trim c.name) := by
  unfold splitLabel?
  rw [c.toList_label, cutFirst_append h]
  dsimp only
  rw [String.ofList_toList, trim_blank_cons, String.ofList_toList]

/-- With a colon in the category less than the category is read. -/
theorem splitLabel?_label_ne (h : ':' ∈ c.category.toList) :
    splitLabel? c.label ≠ some (c.category, c.name) := by
  obtain ⟨front, back, hcategory, hfront⟩ := List.eq_append_cons_of_mem h
  have hlabel : c.label.toList = front ++ ':' :: (back ++ ':' :: ' ' :: c.name.toList) := by
    rw [c.toList_label, hcategory, List.append_assoc, List.cons_append]
  intro hsplit
  unfold splitLabel? at hsplit
  rw [hlabel, cutFirst_append hfront] at hsplit
  dsimp only at hsplit
  split at hsplit
  · cases hsplit
  · rw [Option.some.injEq, Prod.mk.injEq] at hsplit
    -- What is read for the category is no longer than the part before its colon.
    have hle := length_trim_le (String.ofList front)
    rw [hsplit.1, String.toList_ofList, hcategory, List.length_append, List.length_cons] at hle
    omega

/-- **The label of a command reads as its category and name** exactly if it
is addressable. -/
theorem splitLabel?_label_iff :
    splitLabel? c.label = some (c.category, c.name) ↔ c.Addressable := by
  by_cases hcolon : ':' ∈ c.category.toList
  · exact ⟨fun h => absurd h (splitLabel?_label_ne hcolon), fun h => absurd hcolon h.no_colon⟩
  · rw [splitLabel?_label hcolon]
    constructor
    · intro h
      split at h
      · cases h
      · next hne =>
        rw [Bool.or_eq_true, not_or, String.isEmpty_iff, String.isEmpty_iff] at hne
        rw [Option.some.injEq, Prod.mk.injEq] at h
        exact ⟨hcolon, h.1 ▸ hne.1, h.1, h.2 ▸ hne.2, h.2⟩
    · intro h
      rw [h.category_trim, h.name_trim, if_neg]
      rw [Bool.or_eq_true, not_or, String.isEmpty_iff, String.isEmpty_iff]
      exact ⟨h.category_ne, h.name_ne⟩

/-! ## Keys -/

/-- The category and the name of a command. -/
def Spec.key (c : Spec) : String × String := (c.category, c.name)

theorem isNamed_iff {category name : String} :
    Registry.isNamed category name c ↔ c.key = (category, name) := by
  rw [Registry.isNamed, Bool.and_eq_true, beq_iff_eq, beq_iff_eq, Spec.key, Prod.mk.injEq]

theorem same_iff {d : Spec} : Registry.same c d ↔ c.key = d.key := by
  rw [Registry.same, Bool.and_eq_true, beq_iff_eq, beq_iff_eq, Spec.key, Spec.key, Prod.mk.injEq]

/-- A command is found by its key. -/
theorem find?_key (hkeys : (cs.map Spec.key).Nodup) (hc : c ∈ cs) :
    cs.find? (Registry.isNamed c.category c.name) = some c := by
  induction cs with
  | nil => cases hc
  | cons d cs ih =>
    rw [List.map_cons, List.nodup_cons] at hkeys
    rcases List.mem_cons.1 hc with rfl | hc
    · exact List.find?_cons_of_pos (isNamed_iff.2 rfl)
    · have hd : ¬ Registry.isNamed c.category c.name d := fun h =>
        hkeys.1 (isNamed_iff.1 h ▸ List.mem_map_of_mem hc)
      rw [List.find?_cons_of_neg hd]
      exact ih hkeys.2 hc

/-- Only the command itself is taken out by its key. -/
theorem eraseP_key (hkeys : (cs.map Spec.key).Nodup) (hc : c ∈ cs) :
    cs.eraseP (Registry.isNamed c.category c.name) = cs.erase c := by
  induction cs with
  | nil => cases hc
  | cons d cs ih =>
    rw [List.map_cons, List.nodup_cons] at hkeys
    rcases List.mem_cons.1 hc with rfl | hc
    · rw [List.eraseP_cons_of_pos (isNamed_iff.2 rfl), List.erase_cons_head]
    · have hd : ¬ Registry.isNamed c.category c.name d := fun h =>
        hkeys.1 (isNamed_iff.1 h ▸ List.mem_map_of_mem hc)
      have hne : ¬ (d == c) := fun h => hkeys.1 (beq_iff_eq.1 h ▸ List.mem_map_of_mem hc)
      rw [List.eraseP_cons_of_neg hd, List.erase_cons_tail hne, ih hkeys.2 hc]

/-! ## Tables -/

namespace Registry

/-- The keys of the commands in their order. -/
def keys (r : Registry) : List (String × String) := r.commands.map Spec.key

theorem any_same_iff : r.commands.any (same c) = true ↔ c.key ∈ r.keys := by
  rw [List.any_eq_true, keys, List.mem_map]
  exact exists_congr fun d => and_congr_right fun _ => same_iff.trans eq_comm

/-- Putting a command in adds its key unless it is there. -/
theorem keys_insert (r : Registry) (c : Spec) :
    (r.insert c).keys = if c.key ∈ r.keys then r.keys else r.keys ++ [c.key] := by
  rw [insert]
  split
  · next h =>
    rw [if_pos (any_same_iff.1 h), keys, List.map_map, keys, List.map_congr_left]
    intro d _
    rw [Function.comp_apply]
    split
    · next heq => exact same_iff.1 heq
    · rfl
  · next h =>
    rw [if_neg fun hmem => h (any_same_iff.2 hmem), keys, List.map_append]
    rfl

theorem nodup_insert (h : r.keys.Nodup) (c : Spec) : (r.insert c).keys.Nodup := by
  rw [keys_insert]
  split
  · exact h
  · next hnew =>
    exact List.nodup_append.2 ⟨h, List.nodup_singleton c.key, fun k hk j hj hkj =>
      hnew (List.mem_singleton.1 hj ▸ hkj ▸ hk)⟩

theorem nodup_ofList (cs : List Spec) : (ofList cs).keys.Nodup := by
  rw [ofList, ← List.foldr_reverse]
  induction cs.reverse with
  | nil => exact List.nodup_nil
  | cons c cs ih => exact nodup_insert ih c

theorem nodup_remove (h : r.keys.Nodup) (label : String) : (r.remove label).2.keys.Nodup := by
  unfold remove
  split
  · exact h
  · exact h.sublist (List.eraseP_sublist.map Spec.key)

theorem nodup_load {bytes : Bytes} (h : load bytes = .ok r) : r.keys.Nodup := by
  unfold load at h
  split at h
  · next loaded hload =>
    cases h
    rw [load?] at hload
    obtain ⟨text, -, hload⟩ := Option.bind_eq_some_iff.1 hload
    obtain ⟨v, -, hload⟩ := Option.bind_eq_some_iff.1 hload
    obtain ⟨cs, -, hload⟩ := Option.bind_eq_some_iff.1 hload
    cases hload
    exact nodup_ofList cs
  · cases h

/-! ## What a label reaches -/

theorem get_eq_ok_iff (hkeys : r.keys.Nodup) (hc : c ∈ r.commands) :
    r.get c.label = .ok c ↔ c.Addressable := by
  rw [← splitLabel?_label_iff, get]
  constructor
  · intro h
    split at h
    · cases h
    · next category name hsplit =>
      split at h
      · next d hfind =>
        cases h
        rw [hsplit, ← isNamed_iff.1 (List.find?_some hfind)]
        rfl
      · cases h
  · intro h
    rw [h]
    dsimp only
    rw [find?_key hkeys hc]

theorem remove_eq_iff (hkeys : r.keys.Nodup) (hc : c ∈ r.commands) :
    r.remove c.label = (some c, ⟨r.commands.erase c⟩) ↔ c.Addressable := by
  rw [← splitLabel?_label_iff, remove]
  constructor
  · intro h
    split at h
    · cases h
    · next category name hsplit =>
      rw [hsplit, ← isNamed_iff.1 (List.find?_some (congrArg Prod.fst h))]
      rfl
  · intro h
    rw [h]
    dsimp only
    rw [find?_key hkeys hc, eraseP_key hkeys hc]

/-- Addressable commands have labels of their own. -/
theorem nodup_labels (hkeys : r.keys.Nodup) (h : ∀ c ∈ r.commands, c.Addressable) :
    r.labels.Nodup := by
  refine List.pairwise_map.2 ((List.pairwise_map.1 hkeys).imp_of_mem ?_)
  intro c d hc hd hne hlabel
  have hcd := splitLabel?_label_iff.2 (h c hc)
  rw [hlabel, splitLabel?_label_iff.2 (h d hd)] at hcd
  exact hne (Option.some.inj hcd).symm

/-! ## Tables as they come to be -/

/-- What changes the table there is. -/
inductive Change where
  /-- A table of these commands takes its place. -/
  | new (cs : List Spec)
  /-- A command is put in. -/
  | insert (c : Spec)
  /-- A command is taken out. -/
  | remove (label : String)
  /-- A stored table takes its place, if the text can be read. -/
  | load (bytes : Bytes)

/-- The table after a change. -/
def after (r : Registry) : Change → Registry
  | .new cs => ofList cs
  | .insert c => r.insert c
  | .remove label => (r.remove label).2
  | .load bytes => (load bytes).toOption.getD r

/-- The table that changes build, from one without commands. -/
def built (changes : List Change) : Registry := changes.foldl after empty

theorem nodup_after (h : r.keys.Nodup) (change : Change) : (r.after change).keys.Nodup := by
  cases change with
  | new cs => exact nodup_ofList cs
  | insert c => exact nodup_insert h c
  | remove label => exact nodup_remove h label
  | load bytes =>
    rw [after]
    cases hload : load bytes with
    | error e => exact h
    | ok loaded => exact nodup_load hload

/-- **No two commands of a table have the same category and name.** -/
theorem built_keys_nodup (changes : List Change) : (built changes).keys.Nodup := by
  rw [built, ← List.foldr_reverse]
  induction changes.reverse with
  | nil => exact List.nodup_nil
  | cons change changes ih => exact nodup_after ih change

/-- Every command of the table is reached by its label. -/
structure Addressed (r : Registry) : Prop where
  /-- A label finds its command. -/
  found : ∀ c ∈ r.commands, r.get c.label = .ok c
  /-- A label takes out its command and no other. -/
  removed : ∀ c ∈ r.commands, r.remove c.label = (some c, ⟨r.commands.erase c⟩)
  /-- No two commands have the same label. -/
  apart : r.labels.Nodup

theorem addressed_of_addressable (hkeys : r.keys.Nodup) (h : ∀ c ∈ r.commands, c.Addressable) :
    Addressed r where
  found c hc := (get_eq_ok_iff hkeys hc).2 (h c hc)
  removed c hc := (remove_eq_iff hkeys hc).2 (h c hc)
  apart := nodup_labels hkeys h

/-- **A table is addressed by its labels** exactly if every command in it is
addressable, whatever built it. Each command decides this for itself: its
label finds it, and takes it out, exactly if it is addressable, and whatever
else there is. -/
theorem addressed_iff (changes : List Change) :
    (∀ c ∈ (built changes).commands,
      ((built changes).get c.label = .ok c ↔ c.Addressable) ∧
      ((built changes).remove c.label = (some c, ⟨(built changes).commands.erase c⟩) ↔
        c.Addressable)) ∧
    (Addressed (built changes) ↔ ∀ c ∈ (built changes).commands, c.Addressable) := by
  have hkeys := built_keys_nodup changes
  refine ⟨fun c hc => ⟨get_eq_ok_iff hkeys hc, remove_eq_iff hkeys hc⟩, ?_, ?_⟩
  · intro h c hc
    exact (get_eq_ok_iff hkeys hc).1 (h.found c hc)
  · exact addressed_of_addressable hkeys

/-- A command that runs nothing. -/
def idle (category name : String) : Spec :=
  ⟨category, name, "", [], [], [], "", false, false, false, .plain⟩

/-- A colon in the category hides a command: its label finds none, or another
one, which is then the one that is taken out, and the two have one label. -/
theorem not_addressed_colon :
    (built [.insert (idle "A: B" "x")]).get (idle "A: B" "x").label =
      .error (.unknown "A: B: x") ∧
    (built [.insert (idle "A: B" "x"), .insert (idle "A" "B: x")]).get
      (idle "A: B" "x").label = .ok (idle "A" "B: x") ∧
    (built [.insert (idle "A: B" "x"), .insert (idle "A" "B: x")]).remove
      (idle "A: B" "x").label = (some (idle "A" "B: x"), ⟨[idle "A: B" "x"]⟩) ∧
    (idle "A: B" "x").label = (idle "A" "B: x").label ∧
    ¬ ∀ changes, Addressed (built changes) := by
  refine ⟨by decide, by decide, by decide, by decide, fun h => ?_⟩
  have hfound := (h [.insert (idle "A: B" "x")]).found (idle "A: B" "x") (by decide)
  exact absurd hfound (by decide)

/-- The commands of a desk without a table of its own are reached by their
labels. -/
theorem addressed_defaults : Addressed defaults :=
  addressed_of_addressable (nodup_ofList _) (by decide +kernel)

end Registry
end Command
end CodeDesk
