import CodeDesk.Machine.Process

/-!
# Consoles

What a process sees of the machine while it runs: the disk, the time, what
it reads and where its two streams of output lead. A console keeps a record
of everything that can be seen from outside.
-/

namespace CodeDesk
namespace Machine

/-- Where a stream of output leads. -/
inductive Outlet where
  /-- Out of the process. -/
  | channel (c : Channel)
  /-- To the end of a file. -/
  | file (p : Path)
  /-- Into a buffer. -/
  | buffer (n : Nat)
  /-- Nowhere. -/
  | nowhere
  deriving DecidableEq, Repr, Inhabited

/-- What a process sees of the machine. -/
structure Console where
  /-- The disk. -/
  disk : Disk
  /-- The time since the start. -/
  time : Millis
  /-- What was done, the last first. -/
  acts : List (Millis × Act)
  /-- The contents of the buffers. -/
  buffers : List Bytes
  /-- What is there to read. -/
  input : Bytes
  /-- Where the output leads. -/
  out : Outlet
  /-- Where complaints lead. -/
  err : Outlet
  /-- When what was left running ends, if ever. -/
  lingers : List (Option Millis)
  /-- Whether the process has outlived all patience, so that it counts as
  endless. -/
  endless : Bool
  deriving Inhabited

/-- The file that swallows what is written to it. -/
def nullFile : String := "/dev/null"

namespace Console

/-- The console at the start of a process. -/
def start (d : Disk) : Console := ⟨d, 0, [], [], [], .channel .out, .channel .err, [], false⟩

/-- Record an act. -/
def record (c : Console) (a : Act) : Console := { c with acts := (c.time, a) :: c.acts }

/-- Give a file new contents. The answer is whether it could be done. -/
def write (c : Console) (p : Path) (bytes : Bytes) : Bool × Console :=
  match c.disk.write p bytes with
  | .ok d => (true, { c with disk := d }.record (.write p bytes))
  | .error _ => (false, c)

/-- Create a directory, or say why that cannot be done. -/
def makeDir (c : Console) (p : Path) : Except FileError Console :=
  (c.disk.createDir p).map fun d => { c with disk := d }.record (.makeDir p)

/-- Remove a file, or a directory with everything in it, or say why that
cannot be done. -/
def remove (c : Console) (p : Path) : Except FileError Console :=
  (c.disk.removeTree p).map fun d => { c with disk := d }.record (.remove p)

/-- Send bytes to an outlet. -/
def emit (c : Console) (o : Outlet) (bytes : Bytes) : Console :=
  if bytes.isEmpty then c
  else
    match o with
    | .channel ch => c.record (.print ch bytes)
    | .file p =>
      match c.disk.read p with
      | .ok old => (c.write p (old ++ bytes)).2
      | .error _ => c
    | .buffer n => { c with buffers := c.buffers.modify n (· ++ bytes) }
    | .nowhere => c

/-- Print bytes. -/
def print (c : Console) (bytes : Bytes) : Console := c.emit c.out bytes

/-- Complain. -/
def complain (c : Console) (text : String) : Console := c.emit c.err (Utf8.encode (text ++ "\n"))

/-- Count the process as endless. -/
def giveUp (c : Console) : Console := { c with endless := true }

/-- Wait. -/
def wait (c : Console) (t : Millis) : Console := { c with time := c.time + t }

/-- Open a buffer and send the output there. -/
def capture (c : Console) : Console :=
  { c with buffers := c.buffers ++ [[]], out := .buffer c.buffers.length }

/-- Close the last buffer and send the output to `out` again. -/
def release (c : Console) (out : Outlet) : Bytes × Console :=
  (c.buffers.getLast?.getD [], { c with buffers := c.buffers.dropLast, out := out })

end Console
end Machine
end CodeDesk
