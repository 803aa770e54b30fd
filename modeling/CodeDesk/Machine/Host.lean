import CodeDesk.Machine.Shell.Evaluation

/-!
# The machine of a disk

A machine whose programs are files on the disk: a program proper, or a
script whose first line names the program that runs it.
-/

namespace CodeDesk
namespace Machine

/-- How many commands a process may run before it counts as endless. -/
def patience : Nat := 100000

/-- Variables with others put over them. -/
def overlay (base upper : Table String String) : Table String String :=
  upper.entries.foldl (fun t e => t.set e.1 e.2) base

/-- A text that the machine cannot take. -/
def holdsNul (s : String) : Bool := s.toList.contains '\x00'

/-- The file of a program: one below `dir` if it is named by a path, or else
one on the search path. -/
def findFile? (d : Disk) (dir : Path) (path program : String) : Option Path :=
  let p : Path := ⟨program⟩
  if 1 < p.components.length then
    let parts := p.components.dropWhile (· = .current)
    let q := if p.isAbsolute then p else dir.join (Path.ofComponents parts)
    if isRunnable d q then some q else none
  else searchPath? d Path.empty path program

/-- Why a file cannot be run as a program. An interpreter may itself be a
script. -/
def formatError? (d : Disk) : (depth : Nat) → Path → Option SpawnError
  | 0, _ => some .badFormat
  | depth + 1, p =>
    match d.read p with
    | .error _ => some .missing
    | .ok bytes =>
      if (programIn? bytes).isSome then none
      else
        match interpreterIn? bytes with
        | some (i, _) => formatError? d depth ⟨i⟩
        | none => some .badFormat

/-- The directory of a job as it is written from the root. -/
def directory (d : Disk) (dir : Path) : Except SpawnError Path :=
  if dir.text.isEmpty then .error .missing
  else
    match d.locate true dir with
    | .error .notDirectory => .error .notDirectory
    | .error _ => .error .missing
    | .ok loc =>
      if d.isDir dir then .ok ⟨"/" ++ String.intercalate "/" loc⟩
      else if d.exists? dir then .error .notDirectory
      else .error .missing

/-- The trace that a console has recorded. -/
def traceOf (flow : Flow) (status : Nat) (c : Console) : Trace :=
  let acts := c.acts.reverse.mergeSort fun a b => decide (a.1 ≤ b.1)
  match if c.endless then .stuck else flow with
  | .stuck => ⟨acts, none, none, false⟩
  | .dead n => ⟨acts, some (c.time, .signal n), some c.time, false⟩
  | _ =>
    let closes := if c.lingers.contains none then none
      else some ((c.lingers.filterMap id).foldl max c.time)
    ⟨acts, some (c.time, .code status), closes, false⟩

/-- Start a job with the variables `base` of the machine. -/
def start (base : Table String String) (d : Disk) (job : Job) : Except SpawnError Trace :=
  let env := overlay base job.env
  match findFile? d job.dir ((env.get? "PATH").getD "") job.program with
  | none => .error (.unknown job.program)
  | some p =>
    if holdsNul job.dir.text || job.args.any holdsNul ||
        job.env.entries.any fun e => holdsNul e.1 || holdsNul e.2 then .error .nul
    else
      match directory d job.dir with
      | .error e => .error e
      | .ok dir =>
        match formatError? d 5 p with
        | some e => .error e
        | none =>
          let (flow, status, c) :=
            Shell.execute patience (Console.start d) p p.text job.args env dir
          .ok (traceOf flow status c)

/-- The machine of the programs on the disk. -/
def host (base : Table String String) : CodeDesk.Machine := ⟨start base⟩

/-- The programs that a machine has. -/
def programNames : List String := "sh" :: programs.map Prod.fst

/-- A disk with the programs in a directory. -/
def install (d : Disk) (dir : Path) : Disk :=
  let d := (d.createDirs dir).toOption.getD d
  programNames.foldl (fun d n =>
    let p := dir.child n
    match d.write p (programMark ++ Utf8.encode n) with
    | .ok d => (d.setMode p 0o755).toOption.getD d
    | .error _ => d) d

end Machine
end CodeDesk
