import CodeDesk.Data.Table
import CodeDesk.Files.Disk

/-!
# Processes

What a process does, seen from outside: it prints, it writes files, and at
last it exits, each at its time after the start. A machine says what the
process of a program does; everything that runs programs is written for
any machine.
-/

namespace CodeDesk
namespace Machine

/-- A time in milliseconds. -/
abbrev Millis := Nat

/-- The streams a process prints to. -/
inductive Channel where
  /-- What it has to say. -/
  | out
  /-- What it has to complain about. -/
  | err
  deriving DecidableEq, Repr, Inhabited

/-- Something a process does. -/
inductive Act where
  /-- It prints. -/
  | print (c : Channel) (bytes : Bytes)
  /-- It gives a file new contents. -/
  | write (p : Path) (bytes : Bytes)
  /-- It creates a directory. -/
  | makeDir (p : Path)
  /-- It removes a file, or a directory with everything in it. -/
  | remove (p : Path)
  deriving DecidableEq, Repr, Inhabited

/-- The disk after an act. What cannot be done leaves it as it is. -/
def Act.onDisk (a : Act) (d : Disk) : Disk :=
  match a with
  | .print _ _ => d
  | .write p bytes => (d.write p bytes).toOption.getD d
  | .makeDir p => (d.createDir p).toOption.getD d
  | .remove p => (d.removeTree p).toOption.getD d

/-- How a process ends. -/
inductive Exit where
  /-- It exits with a status. -/
  | code (n : Nat)
  /-- A signal ends it. -/
  | signal (n : Nat)
  deriving DecidableEq, Repr, Inhabited

/-- Whether a process has done what it should. -/
def Exit.isSuccess (e : Exit) : Bool := e == .code 0

/-- The status of a process that was not ended by a signal. -/
def Exit.code? : Exit → Option Nat
  | code n => some n
  | signal _ => none

/-- Everything a process does, at times after its start. -/
structure Trace where
  /-- What it does, in order. -/
  acts : List (Millis × Act)
  /-- When and how it ends, if it does. -/
  exit : Option (Millis × Exit)
  /-- When nothing can print any more that it has started, if ever. -/
  closes : Option Millis
  /-- Whether it goes on when it is asked to end. -/
  endures : Bool
  deriving DecidableEq, Repr, Inhabited

/-- A program to run. -/
structure Job where
  /-- The program: a path, or the name of one on the search path. -/
  program : String
  /-- The arguments. -/
  args : List String
  /-- The directory it runs in. -/
  dir : Path
  /-- The variables it is given besides those of the machine. -/
  env : Table String String
  deriving Inhabited

/-- Why a process cannot be started. -/
inductive SpawnError where
  /-- There is no such program. -/
  | unknown (program : String)
  /-- There is no file or directory of a name. -/
  | missing
  /-- A file stands where a directory has to be. -/
  | notDirectory
  /-- The file is not a program. -/
  | badFormat
  /-- A text holds a NUL. -/
  | nul
  deriving DecidableEq, Repr, Inhabited

/-- The wording of an error. -/
def SpawnError.message : SpawnError → String
  | unknown program => program ++ ": cannot find binary path"
  | missing => "No such file or directory (os error 2)"
  | notDirectory => "Not a directory (os error 20)"
  | badFormat => "Exec format error (os error 8)"
  | nul => "nul byte found in provided data"

end Machine

/-- What the processes of programs do. -/
structure Machine where
  /-- Start a process. -/
  spawn : Disk → Machine.Job → Except Machine.SpawnError Machine.Trace

end CodeDesk
