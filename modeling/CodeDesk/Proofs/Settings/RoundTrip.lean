import CodeDesk.Proofs.Data.Table
import CodeDesk.Proofs.Data.Value
import CodeDesk.Proofs.Unicode.LowerCase
import CodeDesk.Settings.ProjectSettings
/-!
# A project file is read as it was written

Each part of the settings has a section of its own in the document, and what
is written of it is read as the part it was written from. This takes what the
types of the program do not say by themselves: that a process has a number of
32 bits, that the languages of a search are listed in their order, and that
tables have their keys in order. Whatever is read is of this kind (`Lawful`).

So reading a project file that was written gives the settings it was written
from, but for what reading completes: the version control system is put in
lower case, and paths that are missing are those of the file. Completing twice
is completing once, because lower case stays as it is. So settings that were
read once are stable: they are read again as they are, and written again as
the same text.

That the format itself loses nothing is what `Undone` says of a document.
-/

namespace CodeDesk

/-! ## Words -/

theorem Debug.Mode.ofValue?_keyword (isUnit : Value → Bool) (m : Mode) :
    Mode.ofValue? isUnit (.text m.keyword) = some m := by
  cases m <;> rfl

theorem Language.ofValue?_toValue (isUnit : Value → Bool) (l : Language) :
    ofValue? isUnit l.toValue = some l := by
  cases l <;> rfl

theorem Find.Place.variant?_keyword (isUnit : Value → Bool) (p : Place) :
    Value.variant? isUnit keywords (.text p.keyword) = some p := by
  cases p <;> rfl

/-- Languages that were listed in their order stay as they are. -/
@[simp] theorem Language.sorted_sorted (ls : List Language) : sorted (sorted ls) = sorted ls := by
  refine List.filter_congr fun l hl => ?_
  rw [Bool.eq_iff_iff, List.contains_iff_mem, List.contains_iff_mem, sorted, List.mem_filter,
    List.contains_iff_mem]
  exact and_iff_right hl

namespace Settings

/-! ## Tables -/

theorem tableOf?_tableValue {α : Type} {f : Value → Option α} {g : α → Value}
    {t : Table String α} (ht : t.Ordered) (h : ∀ a, f (g a) = some a) :
    tableOf? f (tableValue g t) = some t := by
  have hentries : (t.entries.map fun e => (e.1, g e.2)).mapM
      (fun m => (f m.2).map fun a => (m.1, a)) = some t.entries :=
    Value.mapM_map_eq_some t.entries fun e _ => by
      dsimp only
      rw [h e.2, Option.map_some]
  rw [tableOf?, tableValue, Value.map?, Option.bind_eq_bind, Option.bind_some,
    Option.bind_eq_bind, hentries, Option.bind_some, ht.ofList_entries]

theorem ordered_of_tableOf? {α : Type} {f : Value → Option α} {v : Value} {t : Table String α}
    (h : tableOf? f v = some t) : t.Ordered := by
  simp only [tableOf?, Option.bind_eq_bind, Option.bind_eq_some_iff] at h
  obtain ⟨ms, -, es, -, heq⟩ := h
  rw [← Option.some.inj heq]
  exact Table.ordered_ofList es

/-! ## Sections -/

variable {isUnit : Value → Bool} {v : Value}

theorem DebugSettings.ofValue?_toValue {s : DebugSettings} (hpid : s.pid < twoTo 32) :
    ofValue? isUnit s.toValue = some s := by
  rw [ofValue?, toValue, Value.record?_map]
  case hnames => rfl
  case hnodup => decide
  simp only [List.map_cons, List.map_nil, Option.bind_eq_bind, Option.bind_some, Value.defaulted,
    Debug.Mode.ofValue?_keyword, Value.nat?_nat hpid, Value.listOf?_texts, Value.text?]

theorem DebugSettings.pid_lt {s : DebugSettings} (h : ofValue? isUnit v = some s) :
    s.pid < twoTo 32 := by
  simp only [ofValue?, Option.bind_eq_bind, Option.bind_eq_some_iff] at h
  obtain ⟨fs, -, h⟩ := h
  split at h
  · simp only [Option.bind_eq_some_iff] at h
    obtain ⟨mode, -, pid, hpid, args, -, testRun, -, heq⟩ := h
    rw [← Option.some.inj heq]
    obtain rfl | ⟨w, hw⟩ := Value.eq_or_of_defaulted hpid
    · exact (by decide : 0 < twoTo 32)
    · exact Value.lt_of_nat? hw
  · cases h

theorem SymbolSearch.ofValue?_toValue (s : SymbolSearch) : ofValue? s.toValue = some s := by
  rw [ofValue?, toValue, Value.record?_map]
  case hnames => rfl
  case hnodup => decide
  simp only [List.map_cons, List.map_nil, Option.bind_eq_bind, Option.bind_some, Value.defaulted,
    Value.text?]

end Settings

namespace Find.Request

variable {isUnit : Value → Bool} {v : Value} {r : Request}

theorem ofValue?_toValue (hlangs : Language.sorted r.langs = r.langs) :
    ofValue? isUnit r.toValue = some r := by
  rw [ofValue?, toValue, Value.record?_map]
  case hnames => rfl
  case hnodup => decide
  have hlist : Value.listOf? (Language.ofValue? isUnit) (.list (r.langs.map Language.toValue)) =
      some r.langs :=
    Value.listOf?_map r.langs fun l _ => Language.ofValue?_toValue isUnit l
  simp only [List.map_cons, List.map_nil, Option.bind_eq_bind, Option.bind_some, Value.defaulted,
    Place.variant?_keyword, Value.bool?, Value.text?, hlist, hlangs]

theorem sorted_langs (h : ofValue? isUnit v = some r) : Language.sorted r.langs = r.langs := by
  simp only [ofValue?, Option.bind_eq_bind, Option.bind_eq_some_iff] at h
  obtain ⟨fs, -, h⟩ := h
  split at h
  · simp only [Option.bind_eq_some_iff] at h
    obtain ⟨_, -, _, -, _, -, _, -, _, -, langs, -, heq⟩ := h
    rw [← Option.some.inj heq]
    exact Language.sorted_sorted langs
  · cases h

end Find.Request

/-! ## Project files -/

/-- The text of a document is read as the document. It is asked of one
document at a time, since the digits of a floating point number are all that
the text keeps of it. -/
def Toml.Undone (ms : List (String × Value)) : Prop :=
  Toml.parse? (Toml.document ms) = some (.map ms)

theorem Toml.undone_of_same {ms : List (String × Value)}
    (h : (Toml.parse? (Toml.document ms)).any (fun v => v.same (.map ms)) = true) : Undone ms := by
  obtain ⟨v, hv, hsame⟩ := (Option.any_eq_true _ _).1 h
  rw [Undone, hv, Value.eq_of_same hsame]

namespace Settings
namespace ProjectSettings

/-- What the types of the settings have in them: the number of a process has
32 bits, languages are a set, and tables are maps that keep their keys in
order. -/
structure Lawful (s : ProjectSettings) : Prop where
  /-- The number of the process. -/
  pid : s.debug.pid < twoTo 32
  /-- The languages of the search. -/
  langs : Language.sorted s.search.langs = s.search.langs
  /-- The directories. -/
  dirsOpen : s.dirsOpen.Ordered
  /-- The splitters. -/
  splitters : s.splitters.Ordered

variable {isUnit : Value → Bool} {s : ProjectSettings} {v : Value} {p : Path} {text : String}

/-! ## Documents -/

theorem ofValue?_toValue (h : s.Lawful) : ofValue? isUnit s.toValue = some s := by
  have hdirs := tableOf?_tableValue (f := Value.bool?) (g := Value.bool) h.dirsOpen fun _ => rfl
  have hsplitters := tableOf?_tableValue (f := Value.listOf? Value.float?)
    (g := fun xs => .list (xs.map .float)) h.splitters fun xs => Value.listOf?_map xs fun _ _ => rfl
  rw [ofValue?, toValue, Value.record?_map]
  case hnames => rfl
  case hnodup => decide
  -- Texts, paths and truth values are read at once.
  change (do
    let buildCommands ← Value.listOf? Value.text? (.texts s.buildCommands)
    let runCommands ← Value.listOf? Value.text? (.texts s.runCommands)
    let debug ← DebugSettings.ofValue? isUnit s.debug.toValue
    let search ← Find.Request.ofValue? isUnit s.search.toValue
    let symbolSearch ← SymbolSearch.ofValue? s.symbolSearch.toValue
    let dirsOpen ← tableOf? Value.bool? (tableValue Value.bool s.dirsOpen)
    let splitters ← tableOf? (Value.listOf? Value.float?)
      (tableValue (fun xs => .list (xs.map Value.float)) s.splitters)
    some
      { s with
        buildCommands, runCommands, debug, search, symbolSearch, dirsOpen, splitters }) = some s
  rw [Value.listOf?_texts, Value.listOf?_texts, DebugSettings.ofValue?_toValue h.pid,
    Find.Request.ofValue?_toValue h.langs, SymbolSearch.ofValue?_toValue, hdirs, hsplitters]
  rfl

/-- Settings that are read are lawful. -/
theorem lawful_of_ofValue? (h : ofValue? isUnit v = some s) : s.Lawful := by
  unfold ofValue? at h
  obtain ⟨fs, -, h⟩ := Option.bind_eq_some_iff.1 h
  split at h
  · -- The first twelve fields are texts, paths, a truth value and lists of texts.
    iterate 12 obtain ⟨_, -, h⟩ := Option.bind_eq_some_iff.1 h
    obtain ⟨debug, hdebug, h⟩ := Option.bind_eq_some_iff.1 h
    obtain ⟨search, hsearch, h⟩ := Option.bind_eq_some_iff.1 h
    obtain ⟨symbolSearch, -, h⟩ := Option.bind_eq_some_iff.1 h
    obtain ⟨dirsOpen, hdirs, h⟩ := Option.bind_eq_some_iff.1 h
    obtain ⟨splitters, hsplitters, heq⟩ := Option.bind_eq_some_iff.1 h
    rw [← Option.some.inj heq]
    -- A part that is missing is blank; one that is there was read as lawful.
    constructor
    · obtain rfl | ⟨w, hw⟩ := Value.eq_or_of_defaulted hdebug
      · exact (by decide : 0 < twoTo 32)
      · exact DebugSettings.pid_lt hw
    · obtain rfl | ⟨w, hw⟩ := Value.eq_or_of_defaulted hsearch
      · rfl
      · exact Find.Request.sorted_langs hw
    · obtain rfl | ⟨w, hw⟩ := Value.eq_or_of_defaulted hdirs
      · exact Table.ordered_empty
      · exact ordered_of_tableOf? hw
    · obtain rfl | ⟨w, hw⟩ := Value.eq_or_of_defaulted hsplitters
      · exact Table.ordered_empty
      · exact ordered_of_tableOf? hw
  · cases h

/-! ## Completed settings -/

theorem completed_eq (s : ProjectSettings) (p : Path) :
    s.completed p =
      { s with
        versionControl := Unicode.lower s.versionControl
        file := if s.file.text.isEmpty then p else s.file
        root := if s.root.text.isEmpty then p.parent?.getD Path.empty else s.root } := by
  unfold completed
  cases hfile : s.file.text.isEmpty <;> cases hroot : s.root.text.isEmpty <;>
    simp only [hfile, hroot, if_true, Bool.false_eq_true, if_false]

/-- A path that was filled in is not filled in again with another one. -/
theorem filled_filled (q r : Path) :
    (if (if r.text.isEmpty then q else r).text.isEmpty then q
      else if r.text.isEmpty then q else r) = if r.text.isEmpty then q else r := by
  by_cases h : r.text.isEmpty = true
  · rw [if_pos h, ite_self]
  · rw [if_neg h, if_neg h]

theorem completed_completed (s : ProjectSettings) (p : Path) :
    (s.completed p).completed p = s.completed p := by
  simp only [completed_eq, Unicode.lower_lower, filled_filled]

theorem Lawful.completed (h : s.Lawful) (p : Path) : (s.completed p).Lawful := by
  rw [completed_eq]
  exact ⟨h.pid, h.langs, h.dirsOpen, h.splitters⟩

/-! ## Texts -/

theorem parse_eq_ok (h : parse text p = .ok s) :
    ∃ v u, Toml.parse? text = some v ∧ ofValue? Value.isVoid v = some u ∧ s = u.completed p := by
  unfold parse at h
  split at h
  · next u hu =>
    obtain ⟨v, hv, hu⟩ := Option.bind_eq_some_iff.1 hu
    exact ⟨v, u, hv, hu, (Except.ok.inj h).symm⟩
  · cases h

/-- Settings that were written are read with what is missing filled in. -/
theorem parse_toml (h : s.Lawful) (hundone : Toml.Undone s.members) (p : Path) :
    parse s.toml p = .ok (s.completed p) := by
  have hread : Toml.parse? s.toml = some s.toValue := hundone
  rw [parse, hread, Option.bind_some, ofValue?_toValue h]

/-- Settings that were read are read again as they are. -/
theorem parse_toml_of_parse (h : parse text p = .ok s) (hundone : Toml.Undone s.members) :
    parse s.toml p = .ok s := by
  obtain ⟨v, u, -, hu, rfl⟩ := parse_eq_ok h
  -- What was read is complete, so that it is not completed any further.
  have hlawful : (u.completed p).Lawful := (lawful_of_ofValue? hu).completed p
  rw [parse_toml hlawful hundone, completed_completed]

/-- **Project files round-trip stably.** -/
theorem round_trips (p : Path) :
    (∀ s : ProjectSettings, s.Lawful → Toml.Undone s.members →
      parse s.toml p = .ok (s.completed p)) ∧
    (∀ s : ProjectSettings,
      s.completed p =
        { s with
          versionControl := Unicode.lower s.versionControl
          file := if s.file.text.isEmpty then p else s.file
          root := if s.root.text.isEmpty then p.parent?.getD Path.empty else s.root } ∧
      (s.completed p).completed p = s.completed p) ∧
    ∀ (text : String) (s : ProjectSettings), parse text p = .ok s → Toml.Undone s.members →
      parse s.toml p = .ok s ∧ (parse s.toml p).map toml = .ok s.toml := by
  refine ⟨fun s h hundone => parse_toml h hundone p,
    fun s => ⟨completed_eq s p, completed_completed s p⟩, fun text s h hundone => ?_⟩
  have hread : parse s.toml p = .ok s := parse_toml_of_parse h hundone
  refine ⟨hread, ?_⟩
  rw [hread]
  rfl

/-- Settings with every kind of field, which do not say where they are. -/
def sample : ProjectSettings :=
  { blank with
    versionControl := "Git"
    goMod := true
    runCommands := ["Run: a", "\"b\""]
    debug := ⟨.attach, 7, ["--"], ""⟩
    search := ⟨"x", "", true, false, .everywhere, [.go, .rust]⟩
    dirsOpen := ⟨[("cmd", true), ("cmd/a b", false)]⟩
    splitters := ⟨[("main", [])]⟩ }

/-- The settings of `sample` in the file `/w/a`. -/
def sampleInPlace : ProjectSettings :=
  { sample with versionControl := "git", file := ⟨"/w/a"⟩, root := ⟨"/w"⟩ }

theorem completed_sample : sample.completed ⟨"/w/a"⟩ = sampleInPlace := by
  have hlower : Unicode.lower "Git" = "git" := by decide +kernel
  have hparent : Path.parent? ⟨"/w/a"⟩ = some ⟨"/w"⟩ := by decide +kernel
  rw [completed_eq, hparent]
  simp only [sample, blank, Path.empty, hlower]
  rfl

theorem lawful_sample : sample.Lawful where
  pid := by decide
  langs := by decide
  dirsOpen := by
    unfold Table.Ordered
    decide +kernel
  splitters := List.pairwise_singleton _ _

theorem undone_sample : Toml.Undone sample.members ∧ Toml.Undone sampleInPlace.members := by
  constructor
  all_goals
    refine Toml.undone_of_same ?_
    rw [Toml.parse?, Toml.document, String.toList_ofList]
    decide +kernel

/-- The sample is read with its file and its directory filled in, and as
such it is read again as it is. -/
theorem round_trips_sample :
    parse sample.toml ⟨"/w/a"⟩ = .ok sampleInPlace ∧
      parse sampleInPlace.toml ⟨"/w/a"⟩ = .ok sampleInPlace ∧
      (parse sampleInPlace.toml ⟨"/w/a"⟩).map toml = .ok sampleInPlace.toml := by
  have hread : parse sample.toml ⟨"/w/a"⟩ = .ok sampleInPlace := by
    rw [(round_trips ⟨"/w/a"⟩).1 sample lawful_sample undone_sample.1, completed_sample]
  exact ⟨hread, (round_trips ⟨"/w/a"⟩).2.2 sample.toml sampleInPlace hread undone_sample.2⟩

end ProjectSettings
end Settings
end CodeDesk
