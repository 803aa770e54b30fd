import CodeDesk.Data.Value
import CodeDesk.Files.Path

/-!
# Breakpoints

A breakpoint is a line of a file where the program is to stop. The user
keeps a list of them; the debugger reports its own. `Break.merge` brings
the two together: the debugger decides where a breakpoint is and what its
number is, the user decides which there are and whether they count.
-/

namespace CodeDesk
namespace Debug

/-- A path in which a leading `~` stands for the home directory. -/
def expandHome (home p : Path) : Path :=
  match p.stripPrefix? ⟨"~"⟩ with
  | some rest => home.join rest
  | none => p

/-- A breakpoint. -/
structure Break where
  /-- The number the debugger gave it, or zero. -/
  id : Nat
  /-- The file. -/
  path : Path
  /-- The line, from one. -/
  line : Nat
  /-- Whether the program stops there. -/
  enabled : Bool
  /-- The condition under which it stops. -/
  cond : String
  deriving DecidableEq, Repr, Inhabited

/-- Why a text does not name a breakpoint. -/
inductive BreakError where
  /-- It has no colon. -/
  | noColon (spec : String)
  /-- What follows the last colon is not a line number. -/
  | badLine (line : String)
  /-- The path is missing, or the line is zero. -/
  | invalid (spec : String)
  deriving DecidableEq, Repr, Inhabited

/-- The wording of an error. -/
def BreakError.message : BreakError → String
  | noColon spec => s!"breakpoint specification '{spec}' has no colon"
  | badLine line => s!"invalid line number '{line}'"
  | invalid spec => s!"invalid breakpoint specification '{spec}'"

namespace Break

/-- The breakpoint a user sets. -/
def onLine (path : Path) (line : Nat) : Break := ⟨0, path, line, true, ""⟩

/-- Whether a breakpoint is at a line of a file. -/
def isAt (home : Path) (b : Break) (path : Path) (line : Nat) : Bool :=
  b.line == line && expandHome home b.path == expandHome home path

/-- The breakpoint of a text `path:line`. -/
def parse (spec : String) : Except BreakError Break :=
  match cutLast ':' spec.toList with
  | none => .error (.noColon spec)
  | some (path, digits) =>
    match word? digits with
    | none => .error (.badLine (String.ofList digits))
    | some line =>
      if path.isEmpty || line = 0 then .error (.invalid spec)
      else .ok (onLine ⟨String.ofList path⟩ line)

/-- The names of the fields in documents. -/
def fields : List String := ["id", "path", "line", "enabled", "cond"]

/-- Read a breakpoint. Its path and its line must be there. -/
def ofValue? (v : Value) : Option Break := do
  let fs ← v.record? fields
  match fs with
  | [id, path, line, enabled, cond] =>
    let id ← Value.defaulted 0 Value.word? id
    let path ← Value.required Value.text? path
    let line ← Value.required Value.word? line
    let enabled ← Value.defaulted true Value.bool? enabled
    let cond ← Value.defaulted "" Value.text? cond
    some ⟨id, ⟨path⟩, line, enabled, cond⟩
  | _ => none

/-- The breakpoint as a document has it. -/
def toValue (b : Break) : Value :=
  .map
    [("id", .nat b.id), ("path", .text b.path.text), ("line", .nat b.line),
     ("enabled", .bool b.enabled), ("cond", .text b.cond)]

/-- The report that is about a breakpoint of the user: the one with its
number, or the one at its place if it has no number yet. -/
def reportOf (home : Path) (reported : List Break) (b : Break) : Option Break :=
  if b.id = 0 then reported.find? fun r => r.isAt home b.path b.line
  else reported.find? fun r => r.id == b.id

/-- A breakpoint with the number and the place of a report about it. -/
def resolve (b r : Break) : Break := { b with id := r.id, path := r.path, line := r.line }

/-- The breakpoints of the user with the numbers and places the debugger
reports. Reports about other breakpoints are dropped. -/
def merge (home : Path) (own reported : List Break) : List Break :=
  own.map fun b =>
    match b.reportOf home reported with
    | some r => b.resolve r
    | none => b

/-- Give the first breakpoint without a number at the place of `pushed` the
number of `pushed`. -/
def assign (home : Path) (pushed : Break) : List Break → List Break
  | [] => []
  | b :: bs =>
    if b.id == 0 && b.isAt home pushed.path pushed.line then { b with id := pushed.id } :: bs
    else b :: assign home pushed bs

/-- The breakpoints of the user with the numbers that the debugger gave to
those it was sent. -/
def assignAll (home : Path) (own pushed : List Break) : List Break :=
  pushed.foldl (fun bs p => assign home p bs) own

end Break
end Debug
end CodeDesk
