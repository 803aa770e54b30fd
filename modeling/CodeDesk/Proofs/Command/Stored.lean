import CodeDesk.Proofs.Command.Addresses
import CodeDesk.Proofs.Data.Json
import CodeDesk.Proofs.Data.Value
import CodeDesk.Proofs.Text.Utf8
import Mathlib.Data.List.Induction
/-!
# The table is read as it was stored

A command is read back from the document it was written to, whatever its
texts are, and so is the list of them. The table puts the commands it reads in
one after the other; as no two commands of a table have the same category and
name, each is put behind the earlier ones, and the table is the one that was
stored. Putting a command in again is the other case: it takes the place of
the earlier one, and no other command moves.
-/

namespace CodeDesk
namespace Command

/-! ## Documents -/

theorem Step.ofValue?_toValue (s : Step) : ofValue? s.toValue = some s := by
  rw [ofValue?, toValue, Value.record?_map]
  case hnames => rfl
  case hnodup => decide
  change (do
    let args ← Value.listOf? Value.text? (.texts s.args)
    some (⟨s.program, args⟩ : Step)) = some s
  rw [Value.listOf?_texts]
  rfl

theorem Spec.ofValue?_toValue (c : Spec) : ofValue? c.toValue = some c := by
  have hsteps : Value.listOf? Step.ofValue? (.list (c.steps.map Step.toValue)) = some c.steps :=
    Value.listOf?_map c.steps fun s _ => s.ofValue?_toValue
  have hfilter : Value.variant? Value.isNull [("plain", Filter.plain), ("links", Filter.links)]
      (.text c.filter.keyword) = some c.filter := by
    cases c.filter <;> decide
  rw [ofValue?, toValue, Value.record?_map]
  case hnames => rfl
  case hnodup => decide
  -- Texts and truth values are read at once.
  change (do
    let langs ← Value.listOf? Value.text? (.texts c.langs)
    let vcs ← Value.listOf? Value.text? (.texts c.vcs)
    let steps ← Value.listOf? Step.ofValue? (.list (c.steps.map Step.toValue))
    let filter ← Value.variant? Value.isNull [("plain", .plain), ("links", .links)]
      (.text c.filter.keyword)
    some { c with langs, vcs, steps, filter }) = some c
  rw [Value.listOf?_texts, Value.listOf?_texts, hsteps, hfilter]
  rfl

/-! The documents hold no numbers. -/

theorem Step.isWordy_toValue (s : Step) : Json.isWordy s.toValue = true := by
  simp [toValue, Json.isWordy, Json.wordyMembers, Json.isWordy_texts]

theorem Spec.isWordy_toValue (c : Spec) : Json.isWordy c.toValue = true := by
  have hsteps : Json.wordyItems (c.steps.map Step.toValue) = true :=
    Json.wordyItems_map c.steps fun s _ => s.isWordy_toValue
  simp [toValue, Json.isWordy, Json.wordyMembers, Json.isWordy_texts, hsteps]

/-! ## Tables -/

namespace Registry

variable {c d : Spec} {cs : List Spec} {r : Registry}

/-- **A command that is put in again takes the place of the earlier one**, and
no command moves. -/
theorem insert_again (hkeys : r.keys.Nodup) {i : Nat} (hi : r.commands[i]? = some d)
    (hd : d.key = c.key) : (r.insert c).commands = r.commands.set i c := by
  obtain ⟨hlt, hget⟩ := List.getElem?_eq_some_iff.1 hi
  have hmem : c.key ∈ r.keys := hd ▸ List.mem_map_of_mem (hget ▸ List.getElem_mem hlt)
  rw [insert, if_pos (any_same_iff.2 hmem)]
  refine List.ext_getElem (by rw [List.length_map, List.length_set]) fun j hj _ => ?_
  rw [List.length_map] at hj
  rw [List.getElem_map, List.getElem_set]
  by_cases hij : i = j
  · subst hij
    rw [if_pos rfl, hget, if_pos (same_iff.2 hd.symm)]
  · -- Two commands at different places have different keys.
    have hne : c.key ≠ (r.commands[j]).key := fun heq => by
      have hkey : r.keys[i]? = r.keys[j]? := by
        rw [keys, List.getElem?_map, List.getElem?_map, hi, List.getElem?_eq_getElem hj,
          Option.map_some, Option.map_some, hd, heq]
      exact hij ((List.getElem?_inj (by rwa [keys, List.length_map]) hkeys).1 hkey)
    rw [if_neg hij, if_neg fun h => hne (same_iff.1 h)]

/-- A command that is new is put behind the others. -/
theorem insert_new (h : c.key ∉ r.keys) : r.insert c = ⟨r.commands ++ [c]⟩ := by
  rw [insert, if_neg fun hany => h (any_same_iff.1 hany)]

/-- **A table is the table of its commands**, none of which is put in
twice. -/
theorem ofList_commands (hkeys : r.keys.Nodup) : ofList r.commands = r := by
  obtain ⟨cs⟩ := r
  dsimp only
  induction cs using List.reverseRecOn with
  | nil => rfl
  | append_singleton cs c ih =>
    rw [keys, List.map_append, List.map_singleton] at hkeys
    obtain ⟨hcs, -, hnew⟩ := List.nodup_append.1 hkeys
    have hc : c.key ∉ keys ⟨cs⟩ := fun hmem => hnew c.key hmem c.key (List.mem_singleton_self _) rfl
    rw [ofList, List.foldl_append, ← ofList, ih hcs]
    exact insert_new hc

/-- **A table is read as it was stored**, whatever its texts are. -/
theorem load_save (hkeys : r.keys.Nodup) : load (Utf8.encode r.save) = .ok r := by
  have hwordy : Json.isWordy (.list (r.commands.map Spec.toValue)) = true :=
    Json.wordyItems_map r.commands fun c _ => c.isWordy_toValue
  have hread : Value.listOf? Spec.ofValue? (.list (r.commands.map Spec.toValue)) =
      some r.commands := Value.listOf?_map r.commands fun c _ => c.ofValue?_toValue
  have hload : load? (Utf8.encode r.save) = some r := by
    rw [load?, Utf8.decode?_encode, Option.bind_eq_bind, Option.bind_some, save,
      Json.parse?_pretty hwordy, Option.bind_eq_bind, Option.bind_some, hread,
      Option.bind_eq_bind, Option.bind_some, ofList_commands hkeys]
  rw [load, hload]

/-- **The command table round-trips.** Whatever built a table, no two of its
commands have the same category and name; putting in a command that is there
replaces it in its place; and what is stored is read as the same commands in
the same order. -/
theorem table_round_trips (changes : List Change) :
    (built changes).keys.Nodup ∧
    (∀ (i : Nat) (d c : Spec), (built changes).commands[i]? = some d → d.key = c.key →
      ((built changes).insert c).commands = (built changes).commands.set i c) ∧
    load (Utf8.encode (built changes).save) = .ok (built changes) := by
  have hkeys := built_keys_nodup changes
  exact ⟨hkeys, fun i d c hi hd => insert_again hkeys hi hd, load_save hkeys⟩

/-- A command with a quote, a backslash, a line feed, a control character and
characters of two, three and four bytes in its texts. -/
def quaint : Spec :=
  ⟨"\"A\\", "x\n\x01é", "€😀", ["\t"], [], [⟨"\x7f", ["", "\u2028"]⟩], "", true, false, true,
    .links⟩

theorem table_round_trips_quaint :
    ((built [.insert quaint, .new [quaint, idle "A" "x"]]).insert
      { quaint with desc := "" }).commands = [{ quaint with desc := "" }, idle "A" "x"] ∧
    load (Utf8.encode (built [.insert quaint, .new [quaint, idle "A" "x"]]).save) =
      .ok ⟨[quaint, idle "A" "x"]⟩ := by
  obtain ⟨-, hinsert, hload⟩ :=
    table_round_trips [.insert quaint, .new [quaint, idle "A" "x"]]
  exact ⟨hinsert 0 quaint { quaint with desc := "" } (by decide) (by decide), hload⟩

end Registry

end Command
end CodeDesk
