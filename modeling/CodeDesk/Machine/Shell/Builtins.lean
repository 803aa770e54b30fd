import CodeDesk.Machine.Executable
import CodeDesk.Machine.Shell.Words

/-!
# The commands of the shell itself

The commands that a shell carries out without running a program or a
script. Some of them are special: if something is wrong with the arguments
of one, the shell ends.
-/

namespace CodeDesk
namespace Machine
namespace Shell

/-- The special commands. -/
def specials : List String :=
  [":", ".", "break", "continue", "eval", "exec", "exit", "export", "readonly", "return", "set",
   "shift", "times", "trap", "unset"]

/-- The other commands of the shell. -/
def ordinary : List String :=
  ["true", "false", "echo", "printf", "test", "[", "pwd", "cd", "read", "kill", "wait", "umask",
   "local", "command", "type", "alias", "unalias", "hash", "ulimit", "getopts", "jobs", "fg", "bg"]

/-- Whether the shell carries out a command itself. -/
def isBuiltin (n : String) : Bool := specials.contains n || ordinary.contains n

/-- Complain in the name of a command. -/
def protest (s : Shell) (name text : String) : Shell := s.say (name ++ ": " ++ text)

/-- Complain in the name of a command, and leave a status. -/
def refuse (s : Shell) (name : String) (status : Nat) (text : String) : Flow × Shell :=
  finish (s.protest name text) status

/-- Complain in the name of a special command, and end the shell. -/
def refuseAll (s : Shell) (name text : String) : Flow × Shell := (.next, (s.protest name text).halt)

/-- A number among the arguments. -/
def count? (word : String) : Option Nat :=
  if word.toList.all isDigit && !word.isEmpty then some (digitsValue word.toList) else none

/-- Whether a text can name a variable. -/
def isName (n : String) : Bool :=
  match n.toList with
  | [] => false
  | c :: cs => !isDigit c && (c :: cs).all isIdentChar

/-! ## Programs -/

/-- Where the shell finds a program, or why it does not. -/
def findProgram (s : Shell) (program : String) : Except (String × Nat) Path :=
  if program.toList.contains '/' then
    let p := s.dir.join ⟨program⟩
    if !s.console.disk.exists? p then .error ("not found", 127)
    else if isRunnable s.console.disk p then .ok p
    else .error ("Permission denied", 126)
  else
    match searchPath? s.console.disk s.dir ((s.get? "PATH").getD "") program with
    | some p => .ok p
    | none => .error ("not found", 127)

/-- Say where commands are found: their paths, or sentences about them. -/
def describe (s : Shell) (inWords : Bool) (names : List String) : Flow × Shell :=
  names.foldl (fun acc n =>
    let s := acc.2
    let told (t : String) : Flow × Shell :=
      (acc.1, { s with console := s.console.say (t ++ "\n") })
    if (s.functions.get? n).isSome then told (if inWords then n ++ " is a shell function" else n)
    else if isBuiltin n then
      told (if inWords then
        n ++ (if specials.contains n then " is a special shell builtin" else " is a shell builtin")
        else n)
    else
      match s.findProgram n with
      | .ok p => told (if inWords then n ++ " is " ++ p.text else p.text)
      | .error _ =>
        let s := if inWords then { s with console := s.console.say (n ++ ": not found\n") } else s
        finish s 127) (finish s 0)

/-! ## Directories and variables -/

/-- Change to a directory. -/
def changeDir (s : Shell) (args : List String) : Flow × Shell :=
  let shows := args.head? = some "-"
  let target := match args with
    | [] => (s.get? "HOME").getD ""
    | "-" :: _ => (s.get? "OLDPWD").getD s.dir.text
    | t :: _ => t
  if target.isEmpty then finish s 0
  else
    let p := s.dir.join ⟨target⟩
    if s.console.disk.isDir p then
      let plain := (Path.absolute? s.dir p).getD p
      let parts := plain.components.foldl (fun acc c => match c with
        | .parent => acc.dropLast
        | .name n => acc ++ [n]
        | _ => acc) []
      let dir : Path := ⟨"/" ++ String.intercalate "/" parts⟩
      let s := ({ s with dir := dir }.set "OLDPWD" s.dir.text).set "PWD" dir.text
      finish (if shows then { s with console := s.console.say (dir.text ++ "\n") } else s) 0
    else s.refuse "cd" 2 ("can't cd to " ++ target)

/-- Set the marks of variables, which may be given values. -/
def markAll (s : Shell) (name : String) (mark : ShellVariable → ShellVariable)
    (args : List String) : Flow × Shell :=
  let one (s : Shell) (a : String) : Shell :=
    let (n, v) := match cutFirst '=' a.toList with
      | some (n, v) => (String.ofList n, some (String.ofList v))
      | none => (a, none)
    if !isName n then (s.protest name (n ++ ": bad variable name")).halt
    else
      let s := s.set n (v.getD ((s.get? n).getD ""))
      match s.vars.get? n with
      | some old => { s with vars := s.vars.set n (mark old) }
      | none => s
  let s := (args.filter (· ≠ "-p")).foldl (fun s a => if s.failed then s else one s a) s
  if s.failed then (.next, s) else finish s 0

/-- Forget variables or functions. -/
def forget (s : Shell) (args : List String) : Flow × Shell :=
  match args with
  | "-f" :: names =>
    finish { s with functions := names.foldl (fun t n => t.erase n) s.functions } 0
  | args =>
    let names := if args.head? = some "-v" then args.tail else args
    match names.find? fun n => (s.vars.get? n).any (·.fixed) with
    | some n => s.refuseAll "unset" (n ++ ": is read only")
    | none => finish { s with vars := names.foldl (fun t n => t.erase n) s.vars } 0

/-- Give a function variables of its own. -/
def localAll (s : Shell) (args : List String) : Flow × Shell :=
  finish (args.foldl (fun s a =>
    let (n, v) := match cutFirst '=' a.toList with
      | some (n, v) => (String.ofList n, some (String.ofList v))
      | none => (a, none)
    let s := { s with saved := (n, s.vars.get? n) :: s.saved }
    match v with
    | some v => s.set n v
    | none => s) s) 0

/-- Change settings by their letters. -/
def setFlags (o : ShellOptions) (on : Bool) (flags : List Char) : ShellOptions :=
  flags.foldl (fun o c =>
    if c = 'e' then { o with strict := on }
    else if c = 'u' then { o with demanding := on }
    else if c = 'x' then { o with tracing := on }
    else if c = 'f' then { o with literal := on }
    else o) o

/-- Change the settings of the shell, or its arguments. -/
def change (s : Shell) : List String → Shell
  | [] => s
  | "--" :: rest => { s with args := rest }
  | a :: rest =>
    match a.toList with
    | '-' :: f :: flags =>
      let s := { s with options := setFlags s.options true (f :: flags) }
      if rest.isEmpty then s else change s rest
    | '+' :: flags =>
      let s := { s with options := setFlags s.options false flags }
      if rest.isEmpty then s else change s rest
    | _ => { s with args := a :: rest }

/-! ## Reading -/

/-- A line with its backslashes taken out: each character, and whether a
backslash stood before it; and the input behind the line. A backslash at the
end of a line joins it with the next one. -/
def readChars (raw : Bool) : List Char → List (Char × Bool) × Option (List Char)
  | [] => ([], none)
  | '\n' :: rest => ([], some rest)
  | '\\' :: '\n' :: rest =>
    if raw then ([('\\', false)], some rest) else readChars raw rest
  | '\\' :: c :: rest =>
    if raw then
      let (cs, after) := readChars raw (c :: rest)
      (('\\', false) :: cs, after)
    else
      let (cs, after) := readChars raw rest
      ((c, true) :: cs, after)
  | c :: rest =>
    let (cs, after) := readChars raw rest
    ((c, false) :: cs, after)

/-- The values for a number of names: a field for each, and all the rest for
the last one. -/
def readValues (separators : List Char) : (names : Nat) → List (Char × Bool) → List (List Char)
  | 0, _ => []
  | n + 1, cs =>
    let isBlank (p : Char × Bool) : Bool :=
      !p.2 && separators.contains p.1 && Fields.defaultSeparators.contains p.1
    let isSeparator (p : Char × Bool) : Bool := !p.2 && separators.contains p.1
    let cs := cs.dropWhile isBlank
    if n = 0 then [((cs.reverse.dropWhile isBlank).reverse).map Prod.fst]
    else
      let (field, rest) := cs.span fun p => !isSeparator p
      let rest := rest.dropWhile isBlank
      let rest := match rest with
        | p :: more => if isSeparator p then more else rest
        | [] => []
      field.map Prod.fst :: readValues separators n rest

/-- Read a line into variables. -/
def readLine (s : Shell) (args : List String) : Flow × Shell :=
  let raw := args.contains "-r"
  let names := args.filter (· ≠ "-r")
  if names.isEmpty then s.refuseAll "read" "arg count"
  else
    let (line, rest) := readChars raw (Utf8.decodeLossy s.console.input).toList
    let left := Utf8.encode (String.ofList (rest.getD []))
    let s := { s with console := { s.console with input := left } }
    let values := readValues s.separators names.length line
    let s := (names.zip values).foldl (fun s p => s.set p.1 (String.ofList p.2)) s
    if s.failed then (.next, s) else finish s (if rest.isSome then 0 else 1)

/-! ## Signals -/

/-- How `kill` is called. -/
def killUsage : String :=
  "Usage: kill [-s sigspec | -signum | -sigspec] [pid | job]... or\nkill -l [exitstatus]"

/-- End a script that runs on its own. What it would have done later is not
done. -/
def killDetached (s : Shell) (i signal : Nat) : Shell :=
  let now := s.console.time
  match s.detached[i]? with
  | none => s
  | some d =>
    if d.ends.all (now < ·) then
      let lingers := s.console.lingers.map fun l => if l = d.ends then some now else l
      { s with
        detached := s.detached.set i ⟨some now, 128 + signal, some signal⟩
        console := { s.console with
          lingers := lingers
          acts := s.console.acts.filter fun a => a.1 ≤ now } }
    else s

/-- Send a signal to a process. -/
def signalOne (signal : Nat) (acc : Flow × Shell) (target : String) : Flow × Shell :=
  let s := acc.2
  match int? target with
  | none => s.refuse "kill" 2 ("Illegal number: " ++ target)
  | some n =>
    let i := n.toNat - processId - 1
    if n = processId || n = 0 || n = -(processId : Int) then
      if signal = 0 then acc else (.dead signal, s)
    else if processId < n.toNat && i < s.detached.length then
      (acc.1, if signal = 0 then s else s.killDetached i signal)
    else s.refuse "kill" 1 "No such process\n"

/-- Send a signal to processes. -/
def kill (s : Shell) (args : List String) : Flow × Shell :=
  let send (signal : Option Nat) (word : String) (targets : List String) : Flow × Shell :=
    match signal, targets with
    | none, _ => s.refuse "kill" 2 ("Illegal option -" ++ String.ofList (word.toList.take 1))
    | some _, [] => s.refuse "kill" 2 killUsage
    | some n, targets => targets.foldl (signalOne n) (finish s 0)
  match args with
  | "-s" :: w :: targets => send (signalNumber? w) w targets
  | "--" :: targets => send (some terminate) "" targets
  | a :: targets =>
    match a.toList with
    | '-' :: w => send (signalNumber? (String.ofList w)) (String.ofList w) targets
    | _ => send (some terminate) "" (a :: targets)
  | [] => s.refuse "kill" 2 killUsage

/-- Say that a signal has ended a script, if there is a text for that. -/
def tellSignal (s : Shell) (signal : Option Nat) : Shell :=
  match signal.bind signalText? with
  | some t => { s with console := s.console.complain t }
  | none => s

/-- Wait for scripts that run on their own: for some of them, whose numbers
are given, or for all. -/
def await (s : Shell) (args : List String) : Flow × Shell :=
  let waitFor (s : Shell) (d : Detached) : Flow × Shell :=
    match d.ends with
    | none => (.stuck, s)
    | some t =>
      finish { s with console := { s.console with time := max t s.console.time } } d.status
  if args.isEmpty then
    if s.detached.any fun d => d.ends.isNone then (.stuck, s)
    else finish (s.detached.foldl (fun s d => (waitFor s d).2) s) 0
  else
    args.foldl (fun acc a =>
      match acc with
      | (.next, s) =>
        let found := (count? a).bind fun n =>
          if processId < n then s.detached[n - processId - 1]? else none
        match found with
        | some d => (waitFor s d).map id fun s => s.tellSignal d.signal
        | none => finish s 127
      | acc => acc) (finish s 0)

/-- The name of a signal as it is shown. -/
def signalName (n : Nat) : String :=
  ((signalNames.find? fun p => p.2 == n).map Prod.fst).getD (toString n)

/-- Say what is run when a signal arrives. -/
def trap (s : Shell) (args : List String) : Flow × Shell :=
  let quoted (a : String) : String :=
    "'" ++ String.intercalate "'\"'\"'" ((splitChars '\'' a.toList).map String.ofList) ++ "'"
  let onEach (f : Table Nat String → Nat → Table Nat String) (names : List String) :
      Flow × Shell :=
    names.foldl (fun acc n =>
      match signalNumber? n with
      | some k => (acc.1, { acc.2 with traps := f acc.2.traps k })
      | none =>
        finish { acc.2 with console := acc.2.console.complain ("trap: " ++ n ++ ": bad trap") } 1)
      (finish s 0)
  match if args.head? = some "--" then args.tail else args with
  | [] =>
    let shown := (s.traps.entries.mergeSort fun a b => decide (a.1 ≤ b.1)).map fun e =>
      "trap -- " ++ quoted e.2 ++ " " ++ signalName e.1 ++ "\n"
    finish { s with console := s.console.say (String.join shown) } 0
  | "-" :: names => onEach (fun t k => t.erase k) names
  | a :: names =>
    if names.isEmpty || (count? a).isSome then onEach (fun t k => t.erase k) (a :: names)
    else onEach (fun t k => t.set k a) names

/-! ## All of them -/

/-- Run a command of the shell itself that needs no other scripts. -/
def builtin (s : Shell) (name : String) (args : List String) : Flow × Shell :=
  let said (c : Console) (t : String) : Console :=
    c.complain (s.name ++ ": " ++ toString s.line ++ ": " ++ name ++ ": " ++ t)
  let done (r : Nat × Console) : Flow × Shell := finish { s with console := r.2 } r.1
  let number (go : Nat → Flow × Shell) (fallback : Nat) : Flow × Shell :=
    match args.head? with
    | none => go fallback
    | some a =>
      match count? a with
      | some n => go n
      | none => s.refuseAll name ("Illegal number: " ++ a)
  let i : Invocation := ⟨name, args, s.dir⟩
  if name = "false" then finish s 1
  else if name = "echo" then done (shellEcho i s.console)
  else if name = "printf" then
    match dropMark args with
    | [] => s.refuse name 2 "usage: printf format [arg ...]"
    | f :: args => done (printfWith .shell .shellFormat .shellText f args said s.console)
  else if name = "test" || name = "[" then done (testWith said i s.console)
  else if name = "pwd" then done (pwd i s.console)
  else if name = "exit" then number (fun n => (.exit, { s with status := n % 256 })) s.status
  else if name = "return" then number (fun n => (.back, { s with status := n % 256 })) s.status
  else if name = "break" then
    number (fun n => if s.loops = 0 then finish s 0 else (.leave n false, { s with status := 0 })) 1
  else if name = "continue" then
    number (fun n => if s.loops = 0 then finish s 0 else (.leave n true, { s with status := 0 })) 1
  else if name = "cd" then s.changeDir args
  else if name = "export" then s.markAll name (fun v => { v with exported := true }) args
  else if name = "readonly" then s.markAll name (fun v => { v with fixed := true }) args
  else if name = "local" then s.localAll args
  else if name = "unset" then s.forget args
  else if name = "shift" then
    number (fun n =>
      if s.args.length < n then s.refuseAll name "can't shift that many"
      else finish { s with args := s.args.drop n } 0) 1
  else if name = "read" then s.readLine args
  else if name = "set" then finish (s.change args) 0
  else if name = "kill" then s.kill args
  else if name = "wait" then s.await args
  else if name = "trap" then s.trap args
  else if name = "type" then s.describe true args
  else if name = "umask" && args.isEmpty then finish { s with console := s.console.say "0022\n" } 0
  else finish s 0

end Shell
end Machine
end CodeDesk
