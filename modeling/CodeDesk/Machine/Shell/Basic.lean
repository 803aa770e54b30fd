import CodeDesk.Machine.Console
import CodeDesk.Machine.Script

/-!
# The state of a shell

What a shell keeps between two commands, and how the evaluation of a script
can go on after one. A shell complains under its own name with the line
that is run.
-/

namespace CodeDesk
namespace Machine

/-- How the evaluation of a script goes on. -/
inductive Flow where
  /-- With what comes next. -/
  | next
  /-- With the end of the function or the file that is run. -/
  | back
  /-- With the end of the shell. -/
  | exit
  /-- With the end of the process by a signal. -/
  | dead (signal : Nat)
  /-- With the end of some loops, or with their next round. -/
  | leave (loops : Nat) (again : Bool)
  /-- Never. -/
  | stuck
  deriving DecidableEq, Repr, Inhabited

/-- A variable of the shell. -/
structure ShellVariable where
  /-- Its value. -/
  value : String
  /-- Whether programs get it. -/
  exported : Bool
  /-- Whether its value must not change. -/
  fixed : Bool
  deriving DecidableEq, Repr, Inhabited

/-- A script that runs on its own. -/
structure Detached where
  /-- When it ends, if ever. -/
  ends : Option Millis
  /-- The status it leaves. -/
  status : Nat
  /-- The signal that has ended it, if one has. -/
  signal : Option Nat
  deriving DecidableEq, Repr, Inhabited

/-- The settings of a shell. -/
structure ShellOptions where
  /-- Whether a failure ends the shell. -/
  strict : Bool
  /-- Whether a variable that is used must have a value. -/
  demanding : Bool
  /-- Whether commands are shown before they are run. -/
  tracing : Bool
  /-- Whether patterns are not replaced by paths. -/
  literal : Bool
  deriving DecidableEq, Repr, Inhabited

/-- The state of a shell. -/
structure Shell where
  /-- The console. -/
  console : Console
  /-- The variables. -/
  vars : Table String ShellVariable
  /-- The functions. -/
  functions : Table String Script
  /-- What is run when a signal arrives, or at the end under 0. -/
  traps : Table Nat String
  /-- The arguments. -/
  args : List String
  /-- The name of the script. -/
  name : String
  /-- What is run within the script, if it has a name. -/
  within : Option String
  /-- The status of the last command. -/
  status : Nat
  /-- The directory. -/
  dir : Path
  /-- The line that is run. -/
  line : Nat
  /-- The settings. -/
  options : ShellOptions
  /-- How many loops are run within each other. -/
  loops : Nat
  /-- What the variables of the function that is run were before. -/
  saved : List (String × Option ShellVariable)
  /-- Where the streams beyond the first three lead. -/
  streams : List (Nat × Outlet)
  /-- The scripts that nobody waits for. -/
  detached : List Detached
  /-- Whether something went wrong that ends the shell. -/
  failed : Bool
  deriving Inhabited

/-- The text that the shell has for the end of a program by a signal. -/
def signalText? (n : Nat) : Option String :=
  ([(1, "Hangup"), (3, "Quit"), (4, "Illegal instruction"), (5, "Trace/breakpoint trap"),
    (6, "Aborted"), (7, "Bus error"), (8, "Floating point exception"), (9, "Killed"),
    (10, "User defined signal 1"), (11, "Segmentation fault"), (12, "User defined signal 2"),
    (14, "Alarm clock"), (15, "Terminated")].find? fun p => p.1 == n).map Prod.snd

/-- The names of the signals, and of the end of the shell. -/
def signalNames : List (String × Nat) :=
  [("EXIT", 0), ("HUP", 1), ("INT", 2), ("QUIT", 3), ("ILL", 4), ("TRAP", 5), ("ABRT", 6),
   ("BUS", 7), ("FPE", 8), ("KILL", 9), ("USR1", 10), ("SEGV", 11), ("USR2", 12), ("PIPE", 13),
   ("ALRM", 14), ("TERM", 15), ("CHLD", 17), ("CONT", 18), ("STOP", 19)]

/-- The number of a signal. -/
def signalNumber? (word : String) : Option Nat :=
  let w := match dropLead? "SIG".toList word.toList with
    | some cs => String.ofList cs
    | none => word
  if w.toList.all isDigit && !w.isEmpty then
    let n := digitsValue w.toList
    if n ≤ 64 then some n else none
  else (signalNames.find? fun p => p.1 == w).map Prod.snd

namespace Shell

/-- The number of the process. -/
def processId : Nat := 4242

/-- The number of the signal that asks a process to end. -/
def terminate : Nat := 15

/-- The value of a variable. -/
def get? (s : Shell) (n : String) : Option String := (s.vars.get? n).map (·.value)

/-- Complain about the line that is run. -/
def say (s : Shell) (text : String) : Shell :=
  let said := s.name ++ ": " ++ toString s.line ++ ": " ++ text
  { s with console := s.console.complain said }

/-- Complain about the line that is run, and about what is run within the
script. -/
def complain (s : Shell) (text : String) : Shell :=
  match s.within with
  | some w => s.say (w ++ ": " ++ text)
  | none => s.say text

/-- End the shell because something went wrong. -/
def halt (s : Shell) : Shell := { s with failed := true, status := 2 }

/-- Complain, and end the shell. -/
def abort (s : Shell) (text : String) : Shell := (s.complain text).halt

/-- Give a variable a value. -/
def set (s : Shell) (n value : String) : Shell :=
  match s.vars.get? n with
  | none => { s with vars := s.vars.set n ⟨value, false, false⟩ }
  | some v =>
    if v.fixed then s.abort (n ++ ": is read only")
    else { s with vars := s.vars.set n { v with value := value } }

/-- Put back what a variable was. -/
def restore (s : Shell) (n : String) (v : Option ShellVariable) : Shell :=
  match v with
  | some v => { s with vars := s.vars.set n v }
  | none => { s with vars := s.vars.erase n }

/-- The variables that programs get. -/
def environment (s : Shell) : Table String String :=
  ⟨(s.vars.entries.filter fun e => e.2.exported).map fun e => (e.1, e.2.value)⟩

/-- Count the process as endless. -/
def giveUp (s : Shell) : Shell := { s with console := s.console.giveUp }

/-- Go on with a status. -/
def finish (s : Shell) (status : Nat) : Flow × Shell := (.next, { s with status := status })

/-- The outlet of a stream. -/
def outlet? (s : Shell) (fd : Nat) : Option Outlet :=
  if fd = 1 then some s.console.out
  else if fd = 2 then some s.console.err
  else (s.streams.find? fun p => p.1 == fd).map Prod.snd

/-- Lead a stream somewhere else. -/
def lead (s : Shell) (fd : Nat) (o : Outlet) : Shell :=
  if fd = 1 then { s with console := { s.console with out := o } }
  else if fd = 2 then { s with console := { s.console with err := o } }
  else { s with streams := (fd, o) :: s.streams.filter fun p => p.1 ≠ fd }

/-- A shell for a script. -/
def fresh (c : Console) (env : Table String String) (dir : Path) (name : String)
    (args : List String) (options : ShellOptions) : Shell :=
  let vars : Table String ShellVariable :=
    ⟨env.entries.map fun e => (e.1, ⟨e.2, true, false⟩)⟩
  { console := c, vars := vars.set "PWD" ⟨dir.text, true, false⟩, functions := Table.empty
    traps := Table.empty, args := args, name := name, within := none, status := 0, dir := dir
    line := 1, options := options, loops := 0, saved := [], streams := [], detached := []
    failed := false }

end Shell
end Machine
end CodeDesk
