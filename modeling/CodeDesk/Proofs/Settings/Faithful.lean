import CodeDesk.Proofs.Data.JsonCut
import CodeDesk.Proofs.Files.Stay
import CodeDesk.Proofs.Settings.RoundTrip
import CodeDesk.Proofs.Text.Utf8
import CodeDesk.Settings.LanguageOptions
import CodeDesk.Settings.Recent
/-!
# Documents that are read as they were written

The recent paths and the options of languages are kept in documents that lose
nothing: what was written is read as the value it was written from
(`load?_of_read`), whatever its texts are. This takes what the types of the
program do not say by themselves (`Faithful.Lawful`), and whatever is read is
of this kind. What is left of a document that is cut short, on the other hand,
is not read at all (`load?_of_read_part`).
-/

namespace CodeDesk

/-! ## The order of languages -/

instance : Std.TransOrd Language :=
  inferInstanceAs (Std.TransCmp (compareOn Language.ctorIdx))

namespace Settings

/-- Values that are read from their documents as they were written. -/
class Faithful (α : Type) [Stored α] where
  /-- What the type of the values has in it. -/
  Lawful : α → Prop
  lawful_standard : Lawful Stored.standard
  lawful_of_ofValue? : ∀ {v : Value} {a : α}, Stored.ofValue? v = some a → Lawful a
  ofValue?_toValue : ∀ {a : α}, Lawful a → Stored.ofValue? (Stored.toValue a) = some a
  exists_toValue_eq : ∀ {a : α}, Lawful a →
    ∃ ms, Stored.toValue a = .map ms ∧ Json.isWordy (.map ms) = true

/-! ## Recent paths -/

namespace Recent

variable {r : Recent} {v : Value}

/-- The number of paths that are kept is a machine word. -/
def Lawful (r : Recent) : Prop := r.max < wordLimit

theorem ofValue?_toValue (h : r.Lawful) : ofValue? r.toValue = some r := by
  rw [ofValue?, toValue, Value.record?_map]
  case hnames => rfl
  case hnodup => decide
  have hpaths : (r.paths.map (·.text)).map Path.mk = r.paths := by
    rw [List.map_map]
    exact List.map_id r.paths
  simp only [List.map_cons, List.map_nil, Option.bind_eq_bind, Option.bind_some, Value.defaulted,
    Value.listOf?_texts, Value.word?, Value.nat?_nat h, hpaths]

theorem lawful_of_ofValue? (h : ofValue? v = some r) : r.Lawful := by
  unfold ofValue? at h
  obtain ⟨fs, -, h⟩ := Option.bind_eq_some_iff.1 h
  split at h
  · obtain ⟨paths, -, h⟩ := Option.bind_eq_some_iff.1 h
    obtain ⟨max, hmax, heq⟩ := Option.bind_eq_some_iff.1 h
    rw [← Option.some.inj heq]
    obtain rfl | ⟨w, hw⟩ := Value.eq_or_of_defaulted hmax
    · exact (by decide : standardMax < wordLimit)
    · exact Value.lt_of_nat? hw
  · cases h

theorem isWordy_toValue (h : r.Lawful) : Json.isWordy r.toValue = true := by
  have hmax : Json.isWordy (.nat r.max) = true := decide_eq_true h
  simp [toValue, Json.isWordy, Json.wordyMembers, Json.isWordy_texts, hmax]

instance : Faithful Recent where
  Lawful := Lawful
  lawful_standard := (by decide : standardMax < wordLimit)
  lawful_of_ofValue? := lawful_of_ofValue?
  ofValue?_toValue := ofValue?_toValue
  exists_toValue_eq h := ⟨_, rfl, isWordy_toValue h⟩

end Recent

/-! ## Options of languages -/

namespace LanguageOptions

variable {o : LanguageOptions} {v : Value}

/-- The languages stand in their order, each of them once. -/
def Lawful (o : LanguageOptions) : Prop := o.postSaves.Ordered

theorem entry_member (e : Language × List String) :
    entry? (e.1.keyword, .map [("post_save", .texts e.2)]) = some e := by
  have hlabels : labels? (.map [("post_save", .texts e.2)]) = some e.2 := by
    rw [labels?, Value.record?_map]
    case hnames => rfl
    case hnodup => decide
    exact Value.listOf?_texts e.2
  have hlanguage : Language.ofValue? Value.isNull (.text e.1.keyword) = some e.1 :=
    Language.ofValue?_toValue Value.isNull e.1
  unfold entry?
  rw [hlanguage, hlabels]
  rfl

theorem ofValue?_toValue (h : o.Lawful) : ofValue? o.toValue = some o := by
  have htable : table? (.map (o.postSaves.entries.map fun e =>
      (e.1.keyword, .map [("post_save", .texts e.2)]))) = some o.postSaves := by
    have hentries := Value.mapM_map_eq_some (f := entry?) o.postSaves.entries
      fun e _ => entry_member e
    rw [table?, Value.map?, Option.bind_eq_bind, Option.bind_some, hentries, Option.bind_eq_bind,
      Option.bind_some, Table.Ordered.ofList_entries h]
  rw [ofValue?, toValue, Value.record?_map]
  case hnames => rfl
  case hnodup => decide
  simp only [List.map_cons, List.map_nil, Option.bind_eq_bind, Option.bind_some, Value.defaulted,
    htable]

theorem ordered_of_table? {t : Table Language (List String)} (h : table? v = some t) :
    t.Ordered := by
  obtain ⟨ms, -, h⟩ := Option.bind_eq_some_iff.1 h
  obtain ⟨es, -, heq⟩ := Option.bind_eq_some_iff.1 h
  rw [← Option.some.inj heq]
  exact Table.ordered_ofList es

theorem lawful_of_ofValue? (h : ofValue? v = some o) : o.Lawful := by
  unfold ofValue? at h
  obtain ⟨fs, -, h⟩ := Option.bind_eq_some_iff.1 h
  split at h
  · obtain ⟨t, ht, heq⟩ := Option.bind_eq_some_iff.1 h
    rw [← Option.some.inj heq]
    obtain rfl | ⟨w, hw⟩ := Value.eq_or_of_defaulted ht
    · exact Table.ordered_empty
    · exact ordered_of_table? hw
  · cases h

theorem isWordy_toValue (o : LanguageOptions) : Json.isWordy o.toValue = true := by
  have hentries : Json.wordyMembers (o.postSaves.entries.map fun e =>
      (e.1.keyword, .map [("post_save", .texts e.2)])) = true := by
    induction o.postSaves.entries with
    | nil => rfl
    | cons e es ih =>
      simp [Json.isWordy, Json.wordyMembers, Json.isWordy_texts, ih]
  simp [toValue, Json.isWordy, Json.wordyMembers, hentries]

instance : Faithful LanguageOptions where
  Lawful := Lawful
  lawful_standard := Table.ordered_empty
  lawful_of_ofValue? := lawful_of_ofValue?
  ofValue?_toValue := ofValue?_toValue
  exists_toValue_eq _ := ⟨_, rfl, isWordy_toValue _⟩

end LanguageOptions

/-! ## What is read of a document -/

section

variable {α : Type} [Stored α] {a : α} {d d' : Disk} {p : Path} {front : Bytes}

/-- What is read stays while entries are added elsewhere. -/
theorem load?_of_left (hleft : d.Left d') (ha : load? d p = some a) : load? d' p = some a := by
  have hfile : d.isFile p = true := by
    cases hread : d.read p with
    | error e => rw [load?, hread] at ha; cases ha
    | ok bytes => exact Disk.isFile_iff.2 ⟨bytes, hread⟩
  rw [load?, ← hleft.read hfile]
  exact ha

variable [Faithful α]

theorem lawful_of_load? (h : load? d p = some a) : Faithful.Lawful a := by
  obtain ⟨bytes, -, h⟩ := Option.bind_eq_some_iff.1 h
  obtain ⟨v, -, h⟩ := Option.bind_eq_some_iff.1 h
  exact Faithful.lawful_of_ofValue? h

/-- **A document is read as it was written.** -/
theorem load?_of_read (ha : Faithful.Lawful a)
    (hread : d.read p = .ok (Utf8.encode (textOf a))) : load? d p = some a := by
  obtain ⟨ms, hms, hwordy⟩ := Faithful.exists_toValue_eq ha
  rw [← hms] at hwordy
  rw [load?, hread]
  show ofBytes? (Utf8.encode (textOf a)) = some a
  rw [ofBytes?, Utf8.decode?_encode, Option.bind_some, textOf, Json.parse?_pretty hwordy,
    Option.bind_some, Faithful.ofValue?_toValue ha]

/-- **A document that is cut short is not read.** -/
theorem load?_of_read_part (ha : Faithful.Lawful a) (hread : d.read p = .ok front)
    (hfront : front <+: Utf8.encode (textOf a)) (hne : front ≠ Utf8.encode (textOf a)) :
    load? (α := α) d p = none := by
  obtain ⟨ms, hms, hwordy⟩ := Faithful.exists_toValue_eq ha
  obtain ⟨back, hback⟩ := hfront
  have hmore : back ≠ [] := by
    rintro rfl
    exact hne (by rw [← hback, List.append_nil])
  have hparse : (Utf8.decode? front).bind Json.parse? = none := by
    obtain hnone | ⟨cs, ds, hcs, htext, hds⟩ := Utf8.decode?_cut hback.symm hmore
    · rw [hnone, Option.bind_none]
    · rw [textOf, hms] at htext
      rw [hcs, Option.bind_some, Json.parse?_cut hwordy htext hds]
  rw [load?, hread]
  show ofBytes? (α := α) front = none
  rw [ofBytes?, hparse, Option.bind_none]

end

end Settings
end CodeDesk
