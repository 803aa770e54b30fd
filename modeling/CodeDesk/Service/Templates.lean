import CodeDesk.Service.Answer
import CodeDesk.Template.Values

/-!
# Requests about templates

What a front end asks of the variables of templates: which there are, what
values they have, and what a template becomes with these values.
-/

namespace CodeDesk
namespace Service

/-- The word for a kind of variable. -/
def kindName : Template.Kind → String
  | .file => "File"
  | .dir => "Dir"
  | .ext => "Ext"
  | .pos => "Pos"
  | .text => "Text"
  | .prompt => "Prompt"
  | .project => "Project"

/-- A variable. -/
def templateVariable (v : Template.Variable) : Value :=
  obj [("name", .text v.name), ("kind", .text (kindName v.kind)),
    ("needs_buffer", .bool v.kind.needsBuffer), ("description", .text v.description)]

/-- The failure of a template. -/
def bindFailure (e : Template.BindError) : Value :=
  failure
    (match e with
      | .missingPrompts _ => "MissingPrompts"
      | .invalidSlot _ => "InvalidPromptSlot")
    e.message

/-- What the editor shows. -/
def asEditor (v : Value) : Template.EditorContext :=
  ⟨asNat (field v "line"), asNat (field v "col"), textAt v "selection"⟩

/-- The paths of a project. -/
def asProjectPaths (v : Value) : Template.ProjectPaths :=
  ⟨asPath (field v "root"), asPath (field v "build_dir"), asPath (field v "build_target"),
    asPath (field v "run_exec")⟩

/-- The values of a file, a project and an editor. -/
def asValues (v : Value) : Template.Values :=
  Template.Values.resolve ((given v "file").map asPath) (asProjectPaths (field v "project"))
    ((given v "editor").map asEditor)

/-- Every name with its value. -/
def valuesAnswer (v : Template.Values) : Value :=
  .list (v.table.entries.map fun e => .list [.text e.1, .text e.2])

/-- A request about values. -/
def valuesRequest (name : String) (args : List Value) (v : Template.Values) :
    Value × Template.Values :=
  let a := asText (arg args 0)
  if name == "get" then (optText (v.get? a), v)
  else if name == "set" then (.null, v.set a (asText (arg args 1)))
  else if name == "bind" then (.text (v.bind a), v)
  else if name == "set_prompt" then
    match v.setPrompt (asNat (arg args 0)) (asText (arg args 1)) with
    | .ok v => (.null, v)
    | .error e => (bindFailure e, v)
  else if name == "clear_prompts" then (.null, v.clearPrompts)
  else if name == "missing" then (.list ((v.missingPrompts a).map num), v)
  else if name == "check" then
    match v.checkPrompts (asTexts (arg args 0)) with
    | .ok _ => (.null, v)
    | .error e => (bindFailure e, v)
  else if name == "values" then (valuesAnswer v, v)
  else (.null, v)

end Service
end CodeDesk
