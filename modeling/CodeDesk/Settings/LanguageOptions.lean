import CodeDesk.Data.Table
import CodeDesk.Find.Request
import CodeDesk.Settings.Stored

/-!
# Options of languages

For each language, the commands that are run after one of its files was
saved.
-/

namespace CodeDesk
namespace Settings

/-- The labels of the commands to run after a save, by language. -/
structure LanguageOptions where
  /-- The labels. -/
  postSaves : Table Language (List String)
  deriving Inhabited

namespace LanguageOptions

/-- No commands for any language. -/
def empty : LanguageOptions := ⟨Table.empty⟩

/-- The labels of the commands for a language. -/
def postSave (o : LanguageOptions) (l : Language) : List String := (o.postSaves.get? l).getD []

/-- Choose the commands for a language. -/
def setPostSave (o : LanguageOptions) (l : Language) (labels : List String) : LanguageOptions :=
  ⟨o.postSaves.set l labels⟩

/-- Read the labels of one language. -/
def labels? (v : Value) : Option (List String) := do
  let fs ← v.record? ["post_save"]
  match fs with
  | [postSave] => Value.defaulted [] (Value.listOf? Value.text?) postSave
  | _ => none

/-- Read the labels of a language that is named by the key of a member. -/
def entry? (m : String × Value) : Option (Language × List String) := do
  let l ← Language.ofValue? Value.isNull (.text m.1)
  let labels ← labels? m.2
  some (l, labels)

/-- Read the labels of every language. -/
def table? (v : Value) : Option (Table Language (List String)) := do
  let ms ← v.map?
  let es ← ms.mapM entry?
  some (Table.ofList es)

/-- Read options. -/
def ofValue? (v : Value) : Option LanguageOptions := do
  let fs ← v.record? ["langs"]
  match fs with
  | [langs] =>
    let t ← Value.defaulted Table.empty table? langs
    some ⟨t⟩
  | _ => none

/-- The options as a document has them. -/
def toValue (o : LanguageOptions) : Value :=
  .map [("langs", .map (o.postSaves.entries.map fun e =>
    (e.1.keyword, .map [("post_save", .texts e.2)])))]

instance : Stored LanguageOptions := ⟨empty, ofValue?, toValue⟩

end LanguageOptions
end Settings
end CodeDesk
