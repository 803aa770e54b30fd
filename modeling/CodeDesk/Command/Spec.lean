import CodeDesk.Data.Value
import CodeDesk.Template.Values
import CodeDesk.Text.Lines

/-!
# Commands

A command as a menu offers it: the programs it runs with their arguments,
all of them templates, and how it is run. It is addressed by its label,
`Category: Name`.
-/

namespace CodeDesk
namespace Command

/-- One program of a command with its arguments. -/
structure Step where
  /-- The template of the program. -/
  program : String
  /-- The templates of the arguments. -/
  args : List String
  deriving DecidableEq, Repr, Inhabited

/-- How the output of a command is shown. -/
inductive Filter where
  /-- As it is. -/
  | plain
  /-- With references to files as links. -/
  | links
  deriving DecidableEq, Repr, Inhabited

/-- The word that stands for a filter in documents. -/
def Filter.keyword : Filter → String
  | plain => "plain"
  | links => "links"

/-- A command. -/
structure Spec where
  /-- The menu it is in. -/
  category : String
  /-- Its name in the menu. -/
  name : String
  /-- What it does, in words. -/
  desc : String
  /-- The languages it is for; any if there are none, or if `Any` is one. -/
  langs : List String
  /-- The version control systems it is for; any if there are none. -/
  vcs : List String
  /-- The programs it runs. -/
  steps : List Step
  /-- The template of the directory it runs in; no text means the project's
  root. -/
  dir : String
  /-- Whether each program waits for the one before it to succeed. -/
  wait : Bool
  /-- Whether its output comes to the front when it starts. -/
  focus : Bool
  /-- Whether the user is asked before it runs. -/
  confirm : Bool
  /-- How its output is shown. -/
  filter : Filter
  deriving DecidableEq, Repr, Inhabited

namespace Spec

/-- The text a command is addressed by. -/
def label (c : Spec) : String := c.category ++ ": " ++ c.name

/-- Whether the command is for a language. -/
def forLanguage (c : Spec) (lang : Option String) : Bool :=
  c.langs.isEmpty || c.langs.any (eqIgnoringCase "any") ||
    lang.any fun l => c.langs.any (eqIgnoringCase l)

/-- Whether the command is for a version control system. -/
def forVcs (c : Spec) (vcs : Option String) : Bool :=
  c.vcs.isEmpty || vcs.any fun v => c.vcs.any (eqIgnoringCase v)

/-- Every template: the directory, then each program with its arguments. -/
def templates (c : Spec) : List String :=
  c.dir :: c.steps.flatMap fun s => s.program :: s.args

/-- Whether some template refers to the active buffer. -/
def needsBuffer (c : Spec) : Bool :=
  ((c.templates.flatMap Template.names).filterMap Template.lookup?).any fun v =>
    v.kind.needsBuffer

end Spec

/-! ## Documents -/

/-- Read a program with its arguments. -/
def Step.ofValue? (v : Value) : Option Step := do
  let fs ← v.record? ["program", "args"]
  match fs with
  | [program, args] =>
    let program ← Value.required Value.text? program
    let args ← Value.defaulted [] (Value.listOf? Value.text?) args
    some ⟨program, args⟩
  | _ => none

/-- A program with its arguments as a document has them. -/
def Step.toValue (s : Step) : Value :=
  .map [("program", .text s.program), ("args", .texts s.args)]

namespace Spec

/-- The names of the fields in documents. -/
def fields : List String :=
  ["category", "name", "desc", "langs", "vcs", "steps", "dir", "wait", "focus", "confirm",
   "filter"]

/-- Read a command. Its category, its name and its steps must be there. -/
def ofValue? (v : Value) : Option Spec := do
  let fs ← v.record? fields
  match fs with
  | [category, name, desc, langs, vcs, steps, dir, wait, focus, confirm, filter] =>
    let category ← Value.required Value.text? category
    let name ← Value.required Value.text? name
    let desc ← Value.defaulted "" Value.text? desc
    let langs ← Value.defaulted [] (Value.listOf? Value.text?) langs
    let vcs ← Value.defaulted [] (Value.listOf? Value.text?) vcs
    let steps ← Value.required (Value.listOf? Step.ofValue?) steps
    let dir ← Value.defaulted "" Value.text? dir
    let wait ← Value.defaulted false Value.bool? wait
    let focus ← Value.defaulted false Value.bool? focus
    let confirm ← Value.defaulted false Value.bool? confirm
    let filter ← Value.defaulted Filter.plain
      (Value.variant? Value.isNull [("plain", .plain), ("links", .links)]) filter
    some ⟨category, name, desc, langs, vcs, steps, dir, wait, focus, confirm, filter⟩
  | _ => none

/-- The command as a document has it. -/
def toValue (c : Spec) : Value :=
  .map
    [("category", .text c.category), ("name", .text c.name), ("desc", .text c.desc),
     ("langs", .texts c.langs), ("vcs", .texts c.vcs),
     ("steps", .list (c.steps.map Step.toValue)), ("dir", .text c.dir), ("wait", .bool c.wait),
     ("focus", .bool c.focus), ("confirm", .bool c.confirm),
     ("filter", .text c.filter.keyword)]

end Spec
end Command
end CodeDesk
