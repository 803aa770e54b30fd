import CodeDesk.Machine.Console

/-!
# Programs

What all programs have in common: how they are called, and how they
complain. A program gets its name, its arguments and the directory it runs
in; it acts on a console and leaves a status.
-/

namespace CodeDesk
namespace Machine

/-- How a program is called. -/
structure Invocation where
  /-- The name it is called by. -/
  name : String
  /-- The arguments. -/
  args : List String
  /-- The directory. -/
  dir : Path
  deriving DecidableEq, Repr, Inhabited

/-- What a program does. -/
abbrev Program := Invocation → Console → Nat × Console

/-- The path of a file that a program is given. -/
def Invocation.path (i : Invocation) (name : String) : Path := i.dir.join ⟨name⟩

/-- Print a text. -/
def Console.say (c : Console) (text : String) : Console := c.print (Utf8.encode text)

/-- Complain in the name of a program. -/
def Invocation.complain (i : Invocation) (c : Console) (text : String) : Console :=
  c.complain (i.name ++ ": " ++ text)

/-- Complain about the arguments. -/
def Invocation.refuse (i : Invocation) (c : Console) (status : Nat) (text : String) :
    Nat × Console :=
  (status, (i.complain c text).complain ("Try '" ++ i.name ++ " --help' for more information."))

/-- Complain that there are no arguments. -/
def Invocation.missingOperand (i : Invocation) (c : Console) : Nat × Console :=
  i.refuse c 1 "missing operand"

/-- Why a file cannot be used, in words. -/
def reason : FileError → String
  | .missing => "No such file or directory"
  | .notDirectory => "Not a directory"
  | .isDirectory => "Is a directory"
  | .tooManyLinks => "Too many levels of symbolic links"
  | .tooLong => "File name too long"
  | .occupied => "File exists"
  | _ => "Invalid argument"

/-- The arguments of a program: options of one letter, and operands. -/
structure Arguments where
  /-- The letters. -/
  flags : List Char
  /-- The operands. -/
  operands : List String
  deriving DecidableEq, Repr, Inhabited

/-- Read arguments of which the options are among some letters; or else what
is wrong with them. -/
def Arguments.read (letters : String) : List String → Except String Arguments
  | [] => .ok ⟨[], []⟩
  | "--" :: args => .ok ⟨[], args⟩
  | a :: args =>
    match a.toList, read letters args with
    | '-' :: '-' :: _, _ => .error ("unrecognized option '" ++ a ++ "'")
    | '-' :: c :: cs, r =>
      match (c :: cs).find? fun c => !letters.toList.contains c with
      | some bad => .error ("invalid option -- '" ++ String.singleton bad ++ "'")
      | none => r.map fun r => { r with flags := (c :: cs) ++ r.flags }
    | _, r => r.map fun r => { r with operands := a :: r.operands }

end Machine
end CodeDesk
