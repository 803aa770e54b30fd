import CodeDesk.CommandLine.Program
import CodeDesk.Files.Changes
import CodeDesk.Machine.Host

/-!
# The command line

The program works on a disk that is a value. This module reads the files it
may need into one: those below the working directory, below the directory
of its configuration and below the directories that its words name. What
the program has changed is then written back.
-/

namespace CodeDesk
namespace CommandLine

/-- How deep directories are read. -/
def depthLimit : Nat := 64

/-- A place on the real disk as a text. -/
def placeOf (at_ : Location) : String := "/" ++ String.intercalate "/" at_

/-- The location of a place. -/
def locationOf (place : String) : Location :=
  (Disk.segmentsOf place).filter fun s => s ≠ ""

/-- The permission bits of a file. One that names its interpreter is a
program. -/
def modeOf (bytes : Bytes) : Nat :=
  if (Machine.interpreterIn? bytes).isSome then 0o755 else Disk.plainMode

/-- A place without links, if there is something. -/
def realPlace? (place : String) : IO (Option String) := do
  try
    let p ← IO.FS.realPath place
    return some p.toString
  catch _ => return none

/-- The entry of a file. -/
def readFile? (place : String) (modified : IO.FS.SystemTime) : IO (Option Entry) := do
  try
    let bytes := (← IO.FS.readBinFile place).toList
    let stamp := modified.sec.toNat * 1000000000 + modified.nsec.toNat
    return some (.file bytes stamp (modeOf bytes))
  catch _ => return none

/-- The entries below a directory. What cannot be read is left out. -/
def readBelow : (depth : Nat) → String → IO (List (Location × Entry))
  | 0, _ => return []
  | depth + 1, place => do
    let children ← try (← IO.FS.realPath place).readDir catch _ => pure #[]
    let below ← children.toList.mapM fun child => do
      let here := child.path.toString
      let found ← try some <$> child.path.symlinkMetadata catch _ => pure none
      match found with
      | none => return []
      | some m =>
        match m.type with
        | .dir => return (locationOf here, .dir) :: (← readBelow depth here)
        | .symlink =>
          let target := (← realPlace? here).getD here
          return [(locationOf here, .link target)]
        | .file =>
          let e ← readFile? here m.modified
          return (e.map fun e => (locationOf here, e)).toList
        | .other => return []
    return below.flatten

/-- The directory of a word that names a file or a directory. -/
def directoryOf? (word : String) : IO (Option Location) := do
  match ← realPlace? word with
  | none => return none
  | some place =>
    let inside ← try (do let _ ← (← IO.FS.realPath place).readDir; pure true)
      catch _ => pure false
    let at_ := locationOf place
    return some (if inside then at_ else at_.dropLast)

/-- The locations that lie below none of the others. -/
def topmost (places : List Location) : List Location :=
  places.eraseDups.filter fun a => !places.any fun b => b != a && b.isPrefixOf a

/-- The directory for the configuration of users. -/
def configRoot : IO Path := do
  let home := Path.mk ((← IO.getEnv "HOME").getD "/")
  match ← IO.getEnv "XDG_CONFIG_HOME" with
  | some p => return if (Path.mk p).isAbsolute then ⟨p⟩ else home.child ".config"
  | none => return home.child ".config"

/-- The disk as the program sees it. -/
def readDisk (setting : Setting) (words : List String) : IO Disk := do
  let cwd := locationOf (← IO.currentDir).toString
  let named ← (setting.configDir.text :: words).filterMapM directoryOf?
  let places := topmost (cwd :: named)
  let found ← places.mapM fun at_ => readBelow depthLimit (placeOf at_)
  let entries := found.flatten
  let latest := entries.foldl (fun t e =>
    match e.2 with
    | .file _ s _ => max t s
    | _ => t) 0
  let ready := places.foldl (fun d at_ => (d.createDirs ⟨placeOf at_⟩).toOption.getD d)
    (Disk.mk [] (latest + 1) cwd)
  return Machine.install { ready with entries := ready.entries ++ entries } ⟨"/usr/bin"⟩

/-- Make a change on the real disk. -/
def carryOut : Change → IO Unit
  | .removeFile at_ => IO.FS.removeFile (placeOf at_)
  | .removeDir at_ => IO.FS.removeDir (placeOf at_)
  | .makeDir at_ => IO.FS.createDirAll (placeOf at_)
  | .makeLink _ _ => pure ()
  | .write at_ bytes => IO.FS.writeBinFile (placeOf at_) (ByteArray.mk bytes.toArray)

end CommandLine
end CodeDesk

/-- Run the program with the words of its command line. -/
def main (words : List String) : IO UInt32 := do
  let inherited := CodeDesk.Table.ofList
    [("PATH", "/usr/bin"), ("HOME", (← IO.getEnv "HOME").getD "/")]
  let setting : CodeDesk.CommandLine.Setting :=
    ⟨CodeDesk.Machine.host inherited, ← CodeDesk.CommandLine.configRoot⟩
  let before ← CodeDesk.CommandLine.readDisk setting words
  let result := CodeDesk.CommandLine.run setting words before
  (before.changesTo result.disk).forM CodeDesk.CommandLine.carryOut
  IO.print result.output
  unless result.complaint.isEmpty do
    IO.eprintln ("Error: " ++ result.complaint)
  return UInt32.ofNat result.status
