import CodeDesk.Data.Value
import CodeDesk.Document.Buffer
import CodeDesk.Regex.Search

/-!
# Requests

What a search looks for and where it looks, and the settings of a project
that every search keeps to.
-/

namespace CodeDesk

namespace Language

/-- Read a language from a document, where `isUnit` tells what may follow
the name of a constant. -/
def ofValue? (isUnit : Value → Bool) : Value → Option Language :=
  Value.variant? isUnit (all.map fun l => (l.keyword, l))

/-- The language as a document has it. -/
def toValue (l : Language) : Value := .text l.keyword

/-- Languages in their order, each once. -/
def sorted (ls : List Language) : List Language := all.filter ls.contains

end Language

namespace Find

/-- Which files a search looks at. -/
inductive Place where
  /-- The files in open directories of the file tree. -/
  | openDirs
  /-- Every file below the project's root. -/
  | everywhere
  /-- The active file. -/
  | activeFile
  /-- The files beside the active file. -/
  | activeDir
  /-- The files in open directories, without those at the top. -/
  | belowTop
  deriving DecidableEq, Repr, Inhabited

/-- The places with the words that stand for them in documents. -/
def Place.keywords : List (String × Place) :=
  [("Open", .openDirs), ("All", .everywhere), ("File", .activeFile), ("Dir", .activeDir),
   ("NotTop", .belowTop)]

/-- The word that stands for a place. -/
def Place.keyword : Place → String
  | openDirs => "Open"
  | everywhere => "All"
  | activeFile => "File"
  | activeDir => "Dir"
  | belowTop => "NotTop"

/-- What to look for and where. -/
structure Request where
  /-- The text or the pattern to find. -/
  pattern : String
  /-- What takes the place of a match. -/
  replacement : String
  /-- Whether letters match either case. -/
  ignoreCase : Bool
  /-- Whether `pattern` is a pattern rather than a text. -/
  isRegex : Bool
  /-- Where to look. -/
  place : Place
  /-- The languages to look at; every one if there are none. -/
  langs : List Language
  deriving DecidableEq, Repr, Inhabited

/-- A request for nothing. -/
def Request.blank : Request := ⟨"", "", false, false, .openDirs, []⟩

/-- Why a search or a replacement failed. -/
inductive FindError where
  /-- The pattern is not well formed. -/
  | invalidPattern (pattern : String)
  /-- The search is about the active file, and there is none. -/
  | noActiveFile
  /-- The search was cancelled. -/
  | cancelled
  /-- The text is not a link to a match. -/
  | badLink (link : String)
  /-- An operation on a document failed. -/
  | document (e : DocumentError)
  deriving DecidableEq, Repr, Inhabited

/-- The wording of an error. -/
def FindError.message : FindError → String
  | invalidPattern pattern => s!"invalid regular expression `{pattern}`"
  | noActiveFile => "no active file to search"
  | cancelled => "find was cancelled"
  | badLink link => s!"invalid find link `{link}`"
  | document e => e.message

namespace Request

/-- The program that finds the matches of a request. A pattern may be too
large by the measure of the project's own (`Regex.sizeLimit`). A text never
fails to give a program, however long it is, although an engine that bounds
the bytes it compiles to would refuse it from some length on. -/
def program (r : Request) : Except FindError Regex.Program :=
  if r.isRegex then
    match Regex.compile? r.ignoreCase r.pattern with
    | some p => .ok p
    | none => .error (.invalidPattern r.pattern)
  else .ok (Regex.literal r.ignoreCase r.pattern)

/-- Whether documents of a language are looked at. -/
def wants (r : Request) (lang : Option Language) : Bool :=
  r.langs.isEmpty || lang.any r.langs.contains

/-- The names of the fields in documents. -/
def fields : List String := ["pattern", "replace", "ignore_case", "regex", "loc", "langs"]

/-- Read a request; every field may be missing. -/
def ofValue? (isUnit : Value → Bool) (v : Value) : Option Request := do
  let fs ← v.record? fields
  match fs with
  | [pattern, replacement, ignoreCase, isRegex, place, langs] =>
    let pattern ← Value.defaulted "" Value.text? pattern
    let replacement ← Value.defaulted "" Value.text? replacement
    let ignoreCase ← Value.defaulted false Value.bool? ignoreCase
    let isRegex ← Value.defaulted false Value.bool? isRegex
    let place ← Value.defaulted Place.openDirs (Value.variant? isUnit Place.keywords) place
    let langs ← Value.defaulted [] (Value.listOf? (Language.ofValue? isUnit)) langs
    some ⟨pattern, replacement, ignoreCase, isRegex, place, Language.sorted langs⟩
  | _ => none

/-- The request as a document has it. -/
def toValue (r : Request) : Value :=
  .map
    [("pattern", .text r.pattern), ("replace", .text r.replacement),
     ("ignore_case", .bool r.ignoreCase), ("regex", .bool r.isRegex),
     ("loc", .text r.place.keyword), ("langs", .list (r.langs.map Language.toValue))]

end Request

/-- What every search of a project keeps to. -/
structure Config where
  /-- Files with more bytes are skipped. -/
  bigFileSize : Nat
  /-- Files whose names end like this are skipped. -/
  projectExt : String
  deriving DecidableEq, Repr, Inhabited

namespace Config

/-- The settings of a project that has none. -/
def standard : Config := ⟨10000000, ".workbench"⟩

/-- Read settings; every field may be missing. -/
def ofValue? (v : Value) : Option Config := do
  let fs ← v.record? ["big_file_size", "project_ext"]
  match fs with
  | [size, ext] =>
    let size ← Value.defaulted standard.bigFileSize Value.word? size
    let ext ← Value.defaulted standard.projectExt Value.text? ext
    some ⟨size, ext⟩
  | _ => none

/-- The settings as a document has them. -/
def toValue (c : Config) : Value :=
  .map [("big_file_size", .nat c.bigFileSize), ("project_ext", .text c.projectExt)]

end Config
end Find
end CodeDesk
