import CodeDesk.Machine.Condition
import CodeDesk.Machine.Program.Basic

/-!
# Programs on files and time

Programs that show or change what is on the disk: `pwd`, `ls`, `touch`,
`mkdir` and `rm`; and `test`, which tests conditions, and `sleep`, which
waits.
-/

namespace CodeDesk
namespace Machine

/-! ## Files -/

/-- Print the directory. -/
def pwd : Program := fun i c => (0, c.say (i.dir.text ++ "\n"))

/-- Do something with every operand. The status is 1 if one of them failed;
what was wrong is put in words by `words`. -/
def forOperands (i : Invocation) (words : String → FileError → String)
    (act : Console → String → Except FileError Console) (names : List String) (c : Console) :
    Nat × Console :=
  names.foldl (fun acc n =>
    match act acc.2 n with
    | .ok c => (acc.1, c)
    | .error e => (1, i.complain acc.2 (words n e))) (0, c)

/-- Create files that are not there. -/
def touch : Program := fun i c =>
  forOperands i (fun n e => "cannot touch '" ++ n ++ "': " ++ reason e)
    (fun c n =>
      if c.disk.exists? (i.path n) then .ok c
      else
        match c.write (i.path n) [] with
        | (true, c) => .ok c
        | (false, _) => .error .missing) i.args c

/-- Create directories. -/
def mkdir : Program := fun i c =>
  match Arguments.read "p" i.args with
  | .error e => i.refuse c 1 e
  | .ok ⟨_, []⟩ => i.missingOperand c
  | .ok a =>
    let chain (p : Path) : List Path :=
      (List.range p.components.length).map fun k => Path.ofComponents (p.components.take (k + 1))
    forOperands i (fun n e => "cannot create directory '" ++ n ++ "': " ++ reason e)
      (fun c n =>
        if a.flags.isEmpty then c.makeDir (i.path n)
        else
          (chain (i.path n)).foldlM (fun c p => if c.disk.isDir p then .ok c else c.makeDir p) c)
      a.operands c

/-- Remove files, and directories where an option allows it. -/
def rm : Program := fun i c =>
  match Arguments.read "rRf" i.args with
  | .error e => i.refuse c 1 e
  | .ok a =>
    let deep := a.flags.any fun f => f = 'r' || f = 'R'
    let forced := a.flags.contains 'f'
    if a.operands.isEmpty && !forced then i.missingOperand c
    else
      forOperands i (fun n e => "cannot remove '" ++ n ++ "': " ++ reason e)
        (fun c n =>
          match c.disk.entry false (i.path n) with
          | .ok .dir => if deep then c.remove (i.path n) else .error .isDirectory
          | .ok _ => c.remove (i.path n)
          | .error .missing => if forced then .ok c else .error .missing
          | .error e => .error e) a.operands c

/-- The names in a directory that `ls` shows. -/
def shownNames (flags : List Char) (d : Disk) (p : Path) : List String :=
  let names := ((d.list p).toOption.getD []).map Prod.fst
  if flags.contains 'a' then "." :: ".." :: names
  else if flags.contains 'A' then names
  else names.filter fun n => n.toList.head? ≠ some '.'

/-- Print the names of files, and of the files in directories. -/
def ls : Program := fun i c =>
  match Arguments.read "1aA" i.args with
  | .error e => i.refuse c 2 e
  | .ok a =>
    let operands := (if a.operands.isEmpty then ["."] else a.operands).mergeSort
      fun x y => decide (x ≤ y)
    let (found, missing) := operands.partition fun n =>
      (c.disk.entry false (i.path n)).isOk
    let c := missing.foldl (fun c n =>
      i.complain c ("cannot access '" ++ n ++ "': " ++ reason .missing)) c
    let (dirs, files) := found.partition fun n => c.disk.isDir (i.path n)
    let listing (n : String) : String :=
      String.join ((shownNames a.flags c.disk (i.path n)).map (· ++ "\n"))
    let parts := (if files.isEmpty then [] else [String.join (files.map (· ++ "\n"))]) ++
      dirs.map fun n => (if operands.length = 1 then "" else n ++ ":\n") ++ listing n
    (if missing.isEmpty then 0 else 2, c.say (String.intercalate "\n" parts))

/-! ## Truth and time -/

/-- Test a condition. What is wrong with it is a complaint that goes to
`say`. -/
def testWith (say : Console → String → Console) (i : Invocation) (c : Console) : Nat × Console :=
  let bracket := baseOf i.name = "["
  if bracket && i.args.getLast? ≠ some "]" then (2, say c "missing ]")
  else
    match Condition.test ⟨c.disk, i.dir⟩ (if bracket then i.args.dropLast else i.args) with
    | .ok true => (0, c)
    | .ok false => (1, c)
    | .error e => (2, say c e)
where
  /-- The last part of a name. -/
  baseOf (s : String) : String :=
    String.ofList ((s.toList.reverse.takeWhile (· ≠ '/')).reverse)

/-- Test a condition. -/
def test : Program := fun i c => testWith i.complain i c

/-- A duration in milliseconds. There is none in it if it never ends. -/
def duration? (s : String) : Option (Option Millis) :=
  let cs := s.toList.dropWhile (· = ' ')
  let cs := match cs with
    | '+' :: cs => cs
    | cs => cs
  let (number, unit) := match cs.getLast? with
    | some 's' => (cs.dropLast, 1)
    | some 'm' => (cs.dropLast, 60)
    | some 'h' => (cs.dropLast, 3600)
    | some 'd' => (cs.dropLast, 86400)
    | _ => (cs, 1)
  let endless := ["inf", "infinity"].contains (String.ofList number).toLower
  let (whole, rest) := number.span isDigit
  let (part, rest) := match rest with
    | '.' :: rest => rest.span isDigit
    | rest => ([], rest)
  let power (ds : List Char) : Option Nat :=
    if ds.isEmpty || !ds.all isDigit then none else some (digitsValue ds)
  let (places, shift) := match rest with
    | 'e' :: '-' :: ds => (power ds, 0)
    | 'e' :: ds => ((power ds).map fun _ => 0, (power ds).getD 0)
    | [] => (some 0, 0)
    | _ => (none, 0)
  if endless then some none
  else
    match places with
    | none => none
    | some p =>
      if (whole ++ part).isEmpty then none
      else some (some (digitsValue (whole ++ part) * 1000 * unit * tenTo shift /
        tenTo (part.length + p)))

/-- Wait. -/
def sleep : Program := fun i c =>
  match Arguments.read "" i.args with
  | .error e => i.refuse c 1 e
  | .ok ⟨_, []⟩ => i.missingOperand c
  | .ok a =>
    match a.operands.filter fun s => (duration? s).isNone with
    | [] =>
      let spans := a.operands.filterMap duration?
      if spans.contains none then (0, c.giveUp)
      else (0, c.wait ((spans.filterMap id).foldl (· + ·) 0))
    | bad =>
      let c := bad.foldl (fun c s =>
        i.complain c ("invalid time interval '" ++ s ++ "'")) c
      (1, c.complain ("Try '" ++ i.name ++ " --help' for more information."))

end Machine
end CodeDesk
