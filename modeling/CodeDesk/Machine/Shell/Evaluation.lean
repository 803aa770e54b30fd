import CodeDesk.Machine.Arithmetic
import CodeDesk.Machine.ScriptParser
import CodeDesk.Machine.Shell.Builtins

/-!
# The evaluation of scripts

Everything that takes place is recorded on a console, so a script is run
ahead of its time: what it does is known when it is started. A script that
runs on without an end uses up its fuel, and then it counts as one that
never ends.
-/

namespace CodeDesk
namespace Machine
namespace Shell

/-- Whether the output of a script is led away. -/
def printsElsewhere (script : Script) : Bool :=
  let leads (rs : List Redirect) : Bool := rs.any fun r => match r with
    | .mk fd _ _ => fd = 1
  match script with
  | .simple _ _ _ rs => leads rs
  | .group _ rs => leads rs
  | .subshell _ rs => leads rs
  | _ => false

/-- Whether redirections change what is read. -/
def changesInput (rs : List Redirect) : Bool :=
  rs.any fun r => match r with
    | .mk fd kind _ => fd = 0 && (kind = .read || kind = .here || kind = .duplicate)

/-- Text without line breaks at its end. -/
def dropBreaks (bytes : Bytes) : Bytes :=
  (bytes.reverse.dropWhile (· = 10)).reverse

/-- Where the streams of a shell lead, and what it reads. -/
structure Plugs where
  /-- Where the output leads. -/
  out : Outlet
  /-- Where complaints lead. -/
  err : Outlet
  /-- What is there to read. -/
  input : Bytes
  /-- Where other streams lead. -/
  streams : List (Nat × Outlet)

/-- Where the streams lead. -/
def plugs (s : Shell) : Plugs := ⟨s.console.out, s.console.err, s.console.input, s.streams⟩

/-- Lead the streams back to where they led, and what is read if `input` is
set. -/
def replug (s : Shell) (p : Plugs) (input : Bool) : Shell :=
  { s with
    streams := p.streams
    console := { s.console with
      out := p.out, err := p.err, input := if input then p.input else s.console.input } }

/-- The state at the start of a script whose variables are its own. -/
def enter (s : Shell) : Shell :=
  { s with traps := ⟨s.traps.entries.filter fun e => e.2.isEmpty⟩, detached := [] }

/-- The shell after a script whose variables were its own. -/
def resume (s inner : Shell) : Shell :=
  { s with
    console := { inner.console with out := s.console.out, err := s.console.err }
    status := inner.status }

/-- Show a command before it is run. -/
def trace (s : Shell) (assigns : List (String × String)) (ws : List String) : Shell :=
  if s.options.tracing then
    let shown := assigns.map (fun a => a.1 ++ "=" ++ a.2) ++ ws
    { s with console := s.console.complain ("+ " ++ String.intercalate " " shown) }
  else s

/-- What a value that must not be missing is complained of with. -/
def missingText (colon : Bool) (word : List Char) : String :=
  if !word.isEmpty then String.ofList word
  else if colon then "parameter not set or null"
  else "parameter not set"

mutual

/-- The pieces of a word. -/
def pieces (fuel : Nat) (s : Shell) (ps : List Part) : List Piece × Shell :=
  match fuel with
  | 0 => ([], s.giveUp)
  | fuel + 1 =>
    match ps with
    | [] => ([], s)
    | p :: rest =>
      let (here, s) := piece fuel s p
      if s.failed then (here, s)
      else
        let (more, s) := pieces fuel s rest
        (here ++ more, s)

/-- The pieces of a part of a word. -/
def piece (fuel : Nat) (s : Shell) (p : Part) : List Piece × Shell :=
  match fuel with
  | 0 => ([], s.giveUp)
  | fuel + 1 =>
    let value (quoted : Bool) (cs : List Char) : List Piece :=
      if quoted then [.quoted cs] else [.split cs]
    match p with
    | .text cs quoted => ([if quoted then .quoted cs else .plain cs], s)
    | .senseless => ([], s.abort "Bad substitution")
    | .arithmetic word quoted =>
      let (cs, s) := chars fuel s word
      let vars : Table String String := ⟨s.vars.entries.map fun e => (e.1, e.2.value)⟩
      match (Arithmetic.parse cs).bind fun e => Arithmetic.eval e vars with
      | .ok (n, after) =>
        let s := after.entries.foldl (fun s e =>
          if s.get? e.1 = some e.2 then s else s.set e.1 e.2) s
        (value quoted (toString n).toList, s)
      | .error t => ([], s.abort (t.message (String.ofList cs)))
    | .output body quoted =>
      let out := s.console.out
      let (_, inner) := subshell fuel { s with console := s.console.capture } body
      let (bytes, c) := inner.console.release out
      (value quoted (Utf8.decodeLossy (dropBreaks bytes)).toList,
        { s with console := c, status := inner.status })
    | .expand name kind colon word quoted =>
      if (name = "@" || name = "*") && kind = .value then (s.argumentPieces name quoted, s)
      else
        let found := s.value? name
        let present := found.any fun v => !colon || !v.isEmpty
        let v := (found.getD "").toList
        let cut (fromEnd most : Bool) : List Piece × Shell :=
          let (ps, s) := pieces fuel s word
          (value quoted (cutValue fromEnd most (ps.flatMap Piece.field) v), s)
        let lacking := s.options.demanding && found.isNone && name ≠ "@" && name ≠ "*"
        match kind with
        | .fallback => if present then (value quoted v, s) else pieces fuel s word
        | .instead => if present then pieces fuel s word else ([], s)
        | .assign =>
          if present then (value quoted v, s)
          else
            let (cs, s) := chars fuel s word
            (value quoted cs, s.set name (String.ofList cs))
        | .demand =>
          if present then (value quoted v, s)
          else
            let (cs, s) := chars fuel s word
            ([], s.abort (name ++ ": " ++ missingText colon cs))
        | kind =>
          if lacking then ([], s.abort (name ++ ": parameter not set"))
          else
            match kind with
            | .length => (value quoted (toString v.length).toList, s)
            | .cutStart => cut false false
            | .cutStartMost => cut false true
            | .cutEnd => cut true false
            | .cutEndMost => cut true true
            | _ => (value quoted v, s)

/-- The characters of a word that is not split. -/
def chars (fuel : Nat) (s : Shell) (ps : List Part) : List Char × Shell :=
  match fuel with
  | 0 => ([], s.giveUp)
  | fuel + 1 =>
    let (ps, s) := pieces fuel s ps
    (ps.flatMap Piece.chars, s)

/-- The words of words. -/
def expandAll (fuel : Nat) (s : Shell) (ws : List (List Part)) : List String × Shell :=
  match fuel with
  | 0 => ([], s.giveUp)
  | fuel + 1 =>
    match ws with
    | [] => ([], s)
    | w :: rest =>
      let (here, s) := match w with
        | [.text [] true, .expand "@" .value _ _ true] => (s.args, s)
        | w =>
          let (ps, s) := pieces fuel s w
          ((fieldsOf s.separators ps).flatMap s.wordsOf, s)
      if s.failed then (here, s)
      else
        let (more, s) := expandAll fuel s rest
        (here ++ more, s)

/-- Redirect the streams of a console; `false` if that is not possible. -/
def redirectAll (fuel : Nat) (s : Shell) (rs : List Redirect) : Bool × Shell :=
  match fuel with
  | 0 => (false, s.giveUp)
  | fuel + 1 =>
    match rs with
    | [] => (true, s)
    | .mk fd kind target :: rest =>
      let (cs, s) := chars fuel s target
      let text := String.ofList cs
      let p := s.dir.join ⟨text⟩
      let reading (bytes : Bytes) : Shell :=
        if fd = 0 then { s with console := { s.console with input := bytes } } else s
      if s.failed then (false, s)
      else
        match kind with
        | .here => redirectAll fuel (reading (Utf8.encode text)) rest
        | .duplicate =>
          if fd = 0 then redirectAll fuel (if text = "-" then reading [] else s) rest
          else if text = "-" then redirectAll fuel (s.lead fd .nowhere) rest
          else
            match (count? text).bind s.outlet? with
            | some o => redirectAll fuel (s.lead fd o) rest
            | none => (false, s.complain (text ++ ": Bad file descriptor"))
        | .read =>
          if text = nullFile then redirectAll fuel (reading []) rest
          else
            match s.console.disk.read p with
            | .ok bytes => redirectAll fuel (reading bytes) rest
            | .error _ =>
              if s.console.disk.isDir p then redirectAll fuel (reading []) rest
              else (false, s.complain ("cannot open " ++ text ++ ": No such file"))
        | _ =>
          if text = nullFile then redirectAll fuel (s.lead fd .nowhere) rest
          else
            let keep := kind = .append && s.console.disk.isFile p
            let (ok, c) := if keep then (true, s.console) else s.console.write p []
            if ok then redirectAll fuel ({ s with console := c }.lead fd (.file p)) rest
            else
              let why := if s.console.disk.isDir p && !text.isEmpty then "Is a directory"
                else "Directory nonexistent"
              (false, s.complain ("cannot create " ++ text ++ ": " ++ why))

/-- The values of assignments. -/
def assignments (fuel : Nat) (s : Shell) (as : List (String × List Part)) :
    List (String × String) × Shell :=
  match fuel with
  | 0 => ([], s.giveUp)
  | fuel + 1 =>
    match as with
    | [] => ([], s)
    | (n, w) :: rest =>
      let (cs, s) := chars fuel s w
      if s.failed then ([], s)
      else
        let s := s.set n (String.ofList cs)
        if s.failed then ([], s)
        else
          let (more, s) := assignments fuel s rest
          ((n, String.ofList cs) :: more, s)

/-- Run a program file. -/
def execute (fuel : Nat) (c : Console) (p : Path) (name : String) (args : List String)
    (env : Table String String) (dir : Path) : Flow × Nat × Console :=
  match fuel with
  | 0 => (.stuck, 0, c)
  | fuel + 1 =>
    let bytes := (c.disk.read p).toOption.getD []
    match programIn? bytes with
    | some "sh" => shell fuel c name args env dir
    | some program =>
      match programs.find? fun q => q.1 == program with
      | some (_, run) =>
        let (status, c) := run ⟨name, args, dir⟩ c
        (.next, status, c)
      | none => (.next, 126, c)
    | none =>
      match interpreterIn? bytes with
      | some (i, extra) => execute fuel c ⟨i⟩ i (extra ++ p.text :: args) env dir
      | none => shell fuel c name (p.text :: args) env dir

/-- Run the shell on its arguments. -/
def shell (fuel : Nat) (c : Console) (name : String) (args : List String)
    (env : Table String String) (dir : Path) : Flow × Nat × Console :=
  match fuel with
  | 0 => (.stuck, 0, c)
  | fuel + 1 =>
    let isOption (a : String) : Bool :=
      match a.toList with
      | '-' :: f :: fs => (f :: fs).all fun c => c ≠ '-'
      | _ => false
    let flags := (args.takeWhile isOption).flatMap fun a => a.toList.tail
    let operands := args.dropWhile isOption
    let options := setFlags ⟨false, false, false, false⟩ true flags
    let run (text : List Char) (name : String) (args : List String) : Flow × Nat × Console :=
      let (flow, s) := subshell fuel (fresh c env dir name args options) (Script.parse text)
      (flow, s.status, s.console)
    if flags.contains 'c' then
      match operands with
      | [] => (.next, 2, c.complain (name ++ ": 0: -c requires an argument"))
      | [text] => run text.toList name []
      | text :: zero :: rest => run text.toList zero rest
    else
      match if flags.contains 's' then none else operands.head? with
      | none => run (Utf8.decodeLossy c.input).toList name operands
      | some a =>
        match c.disk.read (dir.join ⟨a⟩) with
        | .ok bytes => run (Utf8.decodeLossy bytes).toList a operands.tail
        | .error _ =>
          (.next, 2, c.complain (name ++ ": 0: cannot open " ++ a ++ ": No such file"))

/-- Run a script of lines that belongs to `what`, up to its end. -/
def source (fuel : Nat) (tested : Bool) (s : Shell) (what : String) (text : List Char) :
    Flow × Shell :=
  match fuel with
  | 0 => (.stuck, s)
  | fuel + 1 =>
    let (flow, after) := eval fuel tested (Script.parse text) { s with within := some what }
    (flow, { after with within := s.within })

/-- Run a function. -/
def invoke (fuel : Nat) (tested : Bool) (s : Shell) (body : Script) (args : List String) :
    Flow × Shell :=
  match fuel with
  | 0 => (.stuck, s)
  | fuel + 1 =>
    let (flow, after) := eval fuel tested body { s with args := args, saved := [], loops := 0 }
    let after := after.saved.foldl (fun t p => t.restore p.1 p.2) after
    let after := { after with args := s.args, saved := s.saved, loops := s.loops }
    (if flow = .back then .next else flow, after)

/-- Run what is to be run when a signal arrives. -/
def heed (fuel : Nat) (s : Shell) (signal : Nat) : Flow × Shell :=
  match fuel with
  | 0 => (.stuck, s)
  | fuel + 1 =>
    match s.traps.get? signal with
    | none => (.dead signal, s)
    | some action =>
      if signal = 9 then (.dead signal, s)
      else
        match eval fuel true (Script.parse action.toList) s with
        | (.next, after) => (.next, { after with status := s.status })
        | r => r

/-- Run a program, a function or a command of the shell itself with its
arguments. -/
def call (fuel : Nat) (tested : Bool) (s : Shell) (ws : List String) : Flow × Shell :=
  match fuel with
  | 0 => (.stuck, s)
  | fuel + 1 =>
    match ws with
    | [] => (.next, s)
    | name :: args =>
      match s.functions.get? name with
      | some body => invoke fuel tested s body args
      | none => run fuel tested s name args

/-- Run a program or a command of the shell itself with its arguments. -/
def run (fuel : Nat) (tested : Bool) (s : Shell) (name : String) (args : List String) :
    Flow × Shell :=
  match fuel with
  | 0 => (.stuck, s)
  | fuel + 1 =>
    match name, args with
    | "command", "-v" :: names => s.describe false (names.take 1)
    | "command", "-V" :: names => s.describe true names
    | "command", [] => finish s 0
    | "command", n :: rest => run fuel tested s n rest
    | "exec", [] => finish s 0
    | "exec", n :: rest =>
      match s.findProgram n with
      | .error (why, status) =>
        (.exit, { s.protest "exec" (n ++ ": " ++ why) with status := status })
      | .ok p =>
        let (flow, status, c) := execute fuel s.console p n rest s.environment s.dir
        let s := { s with console := c, status := status, traps := Table.empty }
        (if flow = .next then .exit else flow, s)
    | "eval", args => source fuel tested s "eval" (String.intercalate " " args).toList
    | ".", [] => finish s 0
    | ".", file :: _ =>
      match s.console.disk.read (s.dir.join ⟨file⟩) with
      | .error _ => s.refuseAll "." ("cannot open " ++ file ++ ": No such file")
      | .ok bytes =>
        let (flow, s) := source fuel tested s file (Utf8.decodeLossy bytes).toList
        (if flow = .back then .next else flow, s)
    | "kill", args =>
      match s.builtin "kill" args with
      | (.dead n, s) => heed fuel { s with status := 0 } n
      | r => r
    | name, args =>
      if isBuiltin name then s.builtin name args
      else
        match s.findProgram name with
        | .error (why, status) => finish (s.complain (name ++ ": " ++ why)) status
        | .ok p =>
          let (flow, status, c) := execute fuel s.console p name args s.environment s.dir
          let s := { s with console := c }
          match flow with
          | .dead n => finish (s.tellSignal (some n)) (128 + n)
          | .stuck => (.stuck, s)
          | _ => finish s status

/-- Run the scripts of a pipeline. -/
def pipe (fuel : Nat) (s : Shell) (ss : List Script) : Flow × Shell :=
  match fuel with
  | 0 => (.stuck, s)
  | fuel + 1 =>
    match ss with
    | [] => (.next, s)
    | [last] => subshell fuel s last
    | first :: rest =>
      let out := s.console.out
      match subshell fuel { s with console := s.console.capture } first with
      | (.next, inner) =>
        let (bytes, c) := inner.console.release out
        pipe fuel { s with console := { c with input := bytes } } rest
      | (flow, inner) => (flow, inner)

/-- Run a script whose variables are its own, and at its end what is to be
run then. -/
def subshell (fuel : Nat) (s : Shell) (body : Script) : Flow × Shell :=
  match fuel with
  | 0 => (.stuck, s)
  | fuel + 1 =>
    let (flow, inner) := eval fuel false body s.enter
    let (flow, inner) := match flow, inner.traps.get? 0 with
      | .dead n, _ => (Flow.dead n, inner)
      | .stuck, _ => (.stuck, inner)
      | _, none => (.next, inner)
      | _, some action =>
        let start := { inner with traps := inner.traps.erase 0, failed := false }
        match eval fuel true (Script.parse action.toList) start with
        | (.next, after) => (.next, { after with status := inner.status })
        | r => r
    let s := s.resume inner
    match flow with
    | .dead n => (.dead n, s)
    | .stuck => (.stuck, s)
    | _ => (.next, s)

/-- Run a loop. -/
def loop (fuel : Nat) (whileFails : Bool) (condition body : Script) (s : Shell) (last : Nat) :
    Flow × Shell :=
  match fuel with
  | 0 => (.stuck, s)
  | fuel + 1 =>
    let goOn (r : Flow × Shell) : Flow × Shell :=
      match r with
      | (.next, s) => loop fuel whileFails condition body s s.status
      | (.leave n again, s) =>
        if n ≤ 1 then
          if again then loop fuel whileFails condition body s s.status else (.next, s)
        else (.leave (n - 1) again, s)
      | r => r
    match eval fuel true condition s with
    | (.next, s) =>
      if (s.status = 0) = whileFails then (.next, { s with status := last })
      else goOn (eval fuel false body s)
    | r => goOn r

/-- Run a loop over words. -/
def each (fuel : Nat) (name : String) (ws : List String) (body : Script) (s : Shell) :
    Flow × Shell :=
  match fuel with
  | 0 => (.stuck, s)
  | fuel + 1 =>
    match ws with
    | [] => (.next, s)
    | w :: rest =>
      let s := s.set name w
      if s.failed then (.exit, s)
      else
        match eval fuel false body s with
        | (.next, s) => each fuel name rest body s
        | (.leave n again, s) =>
          if n ≤ 1 then if again then each fuel name rest body s else (.next, s)
          else (.leave (n - 1) again, s)
        | r => r

/-- Run the first arm with a pattern that fits. -/
def select (fuel : Nat) (tested : Bool) (cs : List Char) (as : List (List (List Part) × Script))
    (s : Shell) : Flow × Shell :=
  match fuel with
  | 0 => (.stuck, s)
  | fuel + 1 =>
    match as with
    | [] => finish s 0
    | ([], _) :: rest => select fuel tested cs rest s
    | (p :: ps, body) :: rest =>
      let (ws, s) := pieces fuel s p
      if matchesField (ws.flatMap Piece.field) cs then eval fuel tested body { s with status := 0 }
      else select fuel tested cs ((ps, body) :: rest) s

/-- Run a script. Its failure is `tested` where something depends on it. -/
def eval (fuel : Nat) (tested : Bool) (script : Script) (s : Shell) : Flow × Shell :=
  match fuel with
  | 0 => (.stuck, s)
  | fuel + 1 =>
    let (flow, s) := evalOnce fuel tested script s
    (if s.console.endless then .stuck
     else if s.failed && flow = .next then .exit
     else flow, s)

/-- Run a script, whether or not it is found to be endless. -/
def evalOnce (fuel : Nat) (tested : Bool) (script : Script) (s : Shell) : Flow × Shell :=
  match fuel with
  | 0 => (.stuck, s)
  | fuel + 1 =>
    let checked (r : Flow × Shell) : Flow × Shell :=
      match r with
      | (.next, s) => if s.options.strict && !tested && s.status ≠ 0 then (.exit, s) else (.next, s)
      | r => r
    match script with
    | .nothing => (.next, s)
    | .fault line text => (.exit, { s with line := line }.abort text)
    | .define name body =>
      finish { s with functions := s.functions.set name body } 0
    | .simple line assigns words reds =>
      let s := { s with line := line }
      let before := s.plugs
      let entered := s.status
      let (ws, s) := expandAll fuel s words
      if s.failed then (.exit, s)
      else
        let isSpecial := (ws.head?).any specials.contains
        let (ok, s) := redirectAll fuel s reds
        if !ok then
          let s := s.replug before (changesInput reds)
          if s.failed || isSpecial then (.exit, s.halt) else checked (finish s 2)
        else
          let vars := s.vars
          let (values, s) :=
            assignments fuel (if words.isEmpty then { s with status := 0 } else s) assigns
          if s.failed then (.exit, s.replug before true)
          else
            let s := s.trace values ws
            if ws.isEmpty then
              let status := if assigns.isEmpty && words.isEmpty then 0
                else if words.isEmpty then s.status else entered
              checked (finish (s.replug before (changesInput reds)) status)
            else
              let given := if isSpecial then s else
                values.foldl (fun s p =>
                  { s with vars := s.vars.set p.1 ⟨p.2, true, false⟩ }) s
              let (flow, s) := call fuel tested given ws
              let s := if isSpecial then s
                else values.foldl (fun s p => s.restore p.1 (vars.get? p.1)) s
              let keeps := ws.head? = some "exec" && ws.length = 1
              checked (flow, if keeps then s else s.replug before (changesInput reds))
    | .pipeline ss =>
      let input := s.console.input
      let (flow, s) := pipe fuel s ss
      checked (flow, { s with console := { s.console with input := input } })
    | .negate inner =>
      match eval fuel true inner s with
      | (.next, s) => finish s (if s.status = 0 then 1 else 0)
      | r => r
    | .both a b =>
      match eval fuel true a s with
      | (.next, s) => if s.status = 0 then eval fuel tested b s else (.next, s)
      | r => r
    | .either a b =>
      match eval fuel true a s with
      | (.next, s) => if s.status = 0 then (.next, s) else eval fuel tested b s
      | r => r
    | .sequence a b =>
      match eval fuel tested a s with
      | (.next, s) => eval fuel tested b s
      | r => r
    | .background inner =>
      let (flow, after) := subshell fuel { s with console := { s.console with input := [] } } inner
      let ends := if flow = .stuck then none else some after.console.time
      let (status, signal) := match flow with
        | .dead n => (128 + n, some n)
        | _ => (after.status, none)
      let lingers :=
        if printsElsewhere inner then after.console.lingers else after.console.lingers ++ [ends]
      finish { s with
        console := { after.console with
          time := s.console.time, input := s.console.input, lingers := lingers,
          endless := s.console.endless }
        detached := s.detached ++ [⟨ends, status, signal⟩] } 0
    | .group inner reds =>
      let before := s.plugs
      let (ok, s) := redirectAll fuel s reds
      let (flow, s) := if ok then eval fuel tested inner s else finish s 2
      (flow, s.replug before (changesInput reds))
    | .subshell inner reds =>
      let before := s.plugs
      let (ok, s) := redirectAll fuel s reds
      let (flow, s) := if ok then subshell fuel s inner else finish s 2
      checked (flow, s.replug before (changesInput reds))
    | .choice condition yes no =>
      match eval fuel true condition s with
      | (.next, s) =>
        if s.status = 0 then eval fuel tested yes { s with status := 0 }
        else eval fuel tested no { s with status := 0 }
      | r => r
    | .loop whileFails condition body =>
      let (flow, after) := loop fuel whileFails condition body { s with loops := s.loops + 1 } 0
      (flow, { after with loops := s.loops })
    | .each name words body =>
      let run (s : Shell) (ws : List String) : Flow × Shell :=
        let (flow, after) := each fuel name ws body { s with status := 0, loops := s.loops + 1 }
        (flow, { after with loops := s.loops })
      match words with
      | none => run s s.args
      | some words =>
        let (ws, s) := expandAll fuel s words
        if s.failed then (.exit, s) else run s ws
    | .select word as =>
      let (cs, s) := chars fuel s word
      if s.failed then (.exit, s) else select fuel tested cs as s

end

end Shell
end Machine
end CodeDesk
