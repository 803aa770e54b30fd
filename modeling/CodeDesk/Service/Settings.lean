import CodeDesk.Service.Answer
import CodeDesk.Settings.LanguageOptions
import CodeDesk.Settings.ProjectSettings
import CodeDesk.Settings.Recent

/-!
# Requests about settings

What a front end asks of project settings, of recent paths and of the
options of languages, and of the files that keep them.
-/

namespace CodeDesk
namespace Service

/-- A table of lists of numbers, each in words. -/
def displayFloats : Value → Value
  | .map ms => .map (ms.map fun m =>
      (m.1, match m.2 with
        | .list xs => .list (xs.map fun x => match x with
            | .float f => .text (Decimal.display f)
            | x => x)
        | x => x))
  | x => x

/-- The settings of a project. -/
def settingsAnswer (s : Settings.ProjectSettings) : Value :=
  .map (s.members.map fun m => (m.1, if m.1 == "Splitters" then displayFloats m.2 else m.2))

/-- The settings with some fields given anew, or none when they do not fit. -/
def replaceSettings (s : Settings.ProjectSettings) (v : Value) : Option Settings.ProjectSettings :=
  let nullFloats : Value → Value
    | .map ms => .map (ms.map fun m =>
        (m.1, match m.2 with
          | .list xs => .list (xs.map fun x => match x with
              | .float f => if f.isFinite then .float f else .null
              | x => x)
          | x => x))
    | x => x
  let own := s.members.map fun m => (m.1, if m.1 == "Splitters" then nullFloats m.2 else m.2)
  let new := (v.map?).getD []
  Settings.ProjectSettings.ofValue? Value.isNull (Value.map (own ++ new)).lastWins

/-- The failure of a project file. -/
def projectFileFailure (e : Settings.ProjectSettings.ProjectFileError) : Value :=
  reportFailure e.message

/-- A request about the settings of a project. -/
def settingsRequest (name : String) (args : List Value) (x : Settings.ProjectSettings × Disk) :
    Value × Settings.ProjectSettings × Disk :=
  let (s, d) := x
  let a := arg args 0
  if name == "dump" then (settingsAnswer s, s, d)
  else if name == "toml" then (.text s.toml, s, d)
  else if name == "reparse" then
    match Settings.ProjectSettings.parse s.toml s.file with
    | .ok t => (.list [.bool (t == s), .bool (t.toml == s.toml)], s, d)
    | .error e => (projectFileFailure e, s, d)
  else if name == "dir_open" then (.bool (s.isDirOpen (asPath a)), s, d)
  else if name == "set_dir_open" then
    let s := s.setDirOpen (asPath a) (asBool (arg args 1))
    (Settings.tableValue Value.bool s.dirsOpen, s, d)
  else if name == "exe_path" then (path s.exePath, s, d)
  else if name == "debug_params" then (s.debug.params.toValue, s, d)
  else if name == "from_params" then
    match Debug.Params.ofValue? Value.isNull a with
    | none => (jsonError, s, d)
    | some p =>
      let s := { s with debug := Settings.DebugSettings.ofParams p }
      (s.debug.toValue, s, d)
  else if name == "set" then
    match replaceSettings s a with
    | some s => (.null, s, d)
    | none => (jsonError, s, d)
  else if name == "splitter" then
    let sizes := (asTexts (arg args 1)).map fun t => (Decimal.parse? t).getD 0
    (.null, { s with splitters := s.splitters.set (asText a) sizes }, d)
  else if name == "save" then
    match s.save d with
    | .ok d => (.null, s, d)
    | .error e => (projectFileFailure e, s, d)
  else if name == "load" then
    match Settings.ProjectSettings.load d (asPath a) with
    | .ok s => (settingsAnswer s, s, d)
    | .error e => (projectFileFailure e, s, d)
  else (.null, s, d)

/-- Recent paths with the result of a request. -/
def recentWith (r : Settings.Recent) (result : Value) : Value :=
  match r.toValue with
  | .map ms => .map (ms ++ [("r", result)])
  | v => v

/-- The failure of a state. -/
def stateFailure (e : Settings.StateError) : Value := reportFailure e.message

/-- A request about recent paths. -/
def recentRequest (name : String) (args : List Value) (x : Settings.Recent × Disk) :
    Value × Settings.Recent × Disk :=
  let (r, d) := x
  let a := arg args 0
  let silently (r : Settings.Recent) : Value × Settings.Recent × Disk := (recentWith r .null, r, d)
  if name == "add" then silently (r.add (asPath a))
  else if name == "remove" then
    let (was, r) := r.remove (asPath a)
    (recentWith r (.bool was), r, d)
  else if name == "prune" then silently (r.prune d)
  else if name == "set_max" then silently (r.setMax (asNat a))
  else if name == "load" then
    match Settings.ofBytes (content a) with
    | .ok r => silently r
    | .error e => (stateFailure e, r, d)
  else if name == "text" then (.text (Settings.textOf r), r, d)
  else (.null, r, d)

/-- A language. -/
def languageNamed? (v : Value) : Option Language := Language.ofValue? Value.isNull v

/-- A request about the options of languages. -/
def languageOptionsRequest (name : String) (args : List Value) (o : Settings.LanguageOptions) :
    Value × Settings.LanguageOptions :=
  let a := arg args 0
  if name == "post_save" then
    match languageNamed? a with
    | some l => (.texts (o.postSave l), o)
    | none => (jsonError, o)
  else if name == "set" then
    match languageNamed? a with
    | some l => (.null, o.setPostSave l (asTexts (arg args 1)))
    | none => (jsonError, o)
  else if name == "text" then (.text (Settings.textOf o), o)
  else if name == "load" then
    match Settings.ofBytes (content a) with
    | .ok o => (.null, o)
    | .error e => (stateFailure e, o)
  else (.null, o)

/-- The steps on a value that is kept in a file; `change` is the change that an update makes, or
the failure that stands in for its answer. -/
def stateRequest {α : Type} [Settings.Stored α] (change : List Value → α → Value × α)
    (name : String) (args : List Value) (x : Option (Settings.StateFile α) × Disk) :
    Value × Option (Settings.StateFile α) × Disk :=
  let (m, d) := x
  let current (f : Settings.StateFile α) : Value := Settings.Stored.toValue f.current
  if name == "new" then
    match Settings.StateFile.openAt d (asPath (arg args 0)) with
    | (.ok f, d) => (.list [path f.path, current f], some f, d)
    | (.error e, d) => (stateFailure e, none, d)
  else
    match m with
    | none => (badInput "no manager", none, d)
    | some f =>
      if name == "current" then (current f, some f, d)
      else if name == "save" then
        match f.save d with
        | (.ok _, d) => (.null, some f, d)
        | (.error e, d) => (stateFailure e, some f, d)
      else if name == "load" then
        match f.load d with
        | .ok f => (current f, some f, d)
        | .error e => (stateFailure e, none, d)
      else if name == "update" then
        match f.update d (change args) with
        | (.ok v, f, d) => (v, some f, d)
        | (.error e, f, d) => (stateFailure e, some f, d)
      else (.null, some f, d)

end Service
end CodeDesk
