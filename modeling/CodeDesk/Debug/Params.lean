import CodeDesk.Data.Value

/-!
# Parameters of a debug session

What is debugged and with which arguments. The arguments of the debugger
and those of the program can be kept in one list, with a bare `--` between
them; a list without it holds arguments of the program only.
-/

namespace CodeDesk
namespace Debug

/-- How the program under the debugger comes to run. -/
inductive Mode where
  /-- The executable of the project is built and run. -/
  | exec
  /-- The tests of the project are built and run. -/
  | test
  /-- A process that runs already is attached to. -/
  | attach
  deriving DecidableEq, Repr, Inhabited

/-- The word that stands for a mode in documents. -/
def Mode.keyword : Mode → String
  | exec => "Exec"
  | test => "Test"
  | attach => "Attach"

/-- Every mode under its word. -/
def Mode.keywords : List (String × Mode) :=
  [Mode.exec, .test, .attach].map fun m => (m.keyword, m)

/-- Read a mode; `isUnit` says what stands for nothing in the format. -/
def Mode.ofValue? (isUnit : Value → Bool) (v : Value) : Option Mode :=
  v.variant? isUnit Mode.keywords

/-- The parameters of a debug session. -/
structure Params where
  /-- How the program comes to run. -/
  mode : Mode
  /-- The process to attach to. -/
  pid : Nat
  /-- The arguments of the debugger. -/
  debugArgs : List String
  /-- The arguments of the program. -/
  args : List String
  /-- The pattern that selects the tests to run. -/
  testRun : String
  deriving DecidableEq, Repr, Inhabited

namespace Params

/-- What separates the arguments of the debugger from those of the
program. -/
def separator : String := "--"

/-- The arguments of the debugger and those of the program. -/
def splitArgs (combined : List String) : List String × List String :=
  match combined.span (· != separator) with
  | (_, []) => ([], combined)
  | (before, _ :: after) => (before, after)

/-- The arguments in one list. -/
def combinedArgs (p : Params) : List String :=
  if p.debugArgs.isEmpty then p.args else p.debugArgs ++ separator :: p.args

/-- The parameters of a session that nobody has set up. -/
def blank : Params := ⟨.exec, 0, [], [], ""⟩

/-- The names of the fields in documents. -/
def fields : List String := ["mode", "pid", "debug_args", "args", "test_run"]

/-- Read parameters; every field may be missing. -/
def ofValue? (isUnit : Value → Bool) (v : Value) : Option Params := do
  let fs ← v.record? fields
  match fs with
  | [mode, pid, debugArgs, args, testRun] =>
    let mode ← Value.defaulted Mode.exec (Mode.ofValue? isUnit) mode
    let pid ← Value.defaulted 0 (Value.nat? (twoTo 32)) pid
    let debugArgs ← Value.defaulted [] (Value.listOf? Value.text?) debugArgs
    let args ← Value.defaulted [] (Value.listOf? Value.text?) args
    let testRun ← Value.defaulted "" Value.text? testRun
    some ⟨mode, pid, debugArgs, args, testRun⟩
  | _ => none

/-- The parameters as a document has them. -/
def toValue (p : Params) : Value :=
  .map
    [("mode", .text p.mode.keyword), ("pid", .nat p.pid), ("debug_args", .texts p.debugArgs),
     ("args", .texts p.args), ("test_run", .text p.testRun)]

end Params
end Debug
end CodeDesk
