import CodeDesk.Machine.Format
import CodeDesk.Machine.Program.Basic

/-!
# Programs that print

Programs that print their arguments, or the contents of files: `echo`,
`printf`, `cat`, `head`, `wc`, `seq`, `basename` and `dirname`.
-/

namespace CodeDesk
namespace Machine

/-! ## Arguments -/

/-- Print the arguments with blanks between them. -/
def echoWith (style : Option EscapeStyle) (newline : Bool) (args : List String) (c : Console) :
    Nat × Console :=
  let text := String.intercalate " " args
  let (bytes, goesOn) := match style with
    | some style => unescaped style text
    | none => (Utf8.encode text, true)
  (0, c.print (bytes ++ if newline && goesOn then byteOf 10 else []))

/-- Whether a text is an option of `echo`. -/
def isEchoOption (s : String) : Bool :=
  match s.toList with
  | '-' :: c :: cs => (c :: cs).all fun x => x = 'n' || x = 'e' || x = 'E'
  | _ => false

/-- Print the arguments as options say. -/
def echo : Program := fun i c =>
  let options := (i.args.takeWhile isEchoOption).flatMap fun s => s.toList.tail
  let escapes := (options.filter (· ≠ 'n')).getLast? = some 'e'
  echoWith (if escapes then some .text else none) (!options.contains 'n')
    (i.args.dropWhile isEchoOption) c

/-- Print the arguments with their escapes. -/
def shellEcho : Program := fun i c =>
  match i.args with
  | "-n" :: args => echoWith (some .shellText) false args c
  | args => echoWith (some .shellText) true args c

/-- Print arguments by a format. -/
def printfWith (wording : FormatWording) (format text : EscapeStyle) (f : String)
    (args : List String) (say : Console → String → Console) (c : Console) : Nat × Console :=
  let r := writeFormat wording text (formatParts format (f.length + 1) f.toList)
    (args.length + 1) args
  (r.status, r.complaints.foldl say (c.print r.bytes))

/-- The arguments behind the mark that ends the options. -/
def dropMark : List String → List String
  | "--" :: args => args
  | args => args

/-- Print arguments by a format. -/
def printf : Program := fun i c =>
  match dropMark i.args with
  | [] => i.missingOperand c
  | f :: args => printfWith .program .format .text f args i.complain c

/-! ## Files -/

/-- How bytes are shown by their marks. -/
structure Marking where
  /-- Whether lines are numbered. -/
  numbers : Bool
  /-- Whether empty lines are not numbered. -/
  skipsEmpty : Bool
  /-- Whether the ends of lines are marked. -/
  ends : Bool
  /-- Whether tabs are marked. -/
  tabs : Bool
  /-- Whether bytes that are not printed are marked. -/
  hidden : Bool
  /-- Whether of several empty lines only one is shown. -/
  squeezes : Bool
  deriving DecidableEq, Repr, Inhabited

/-- A byte below 128 as it is shown. -/
def markAscii (m : Marking) (n : Nat) : String :=
  if n = 9 then (if m.tabs then "^I" else "\t")
  else if n < 32 then "^" ++ String.singleton (Char.ofNat (n + 64))
  else if n = 127 then "^?"
  else String.singleton (Char.ofNat n)

/-- A byte as it is shown. -/
def markByte (m : Marking) (b : UInt8) : Bytes :=
  let n := b.toNat
  if n = 9 && m.tabs then Utf8.encode "^I"
  else if !m.hidden || n = 9 then [b]
  else if n < 128 then Utf8.encode (markAscii m n)
  else Utf8.encode ("M-" ++ markAscii { m with tabs := true } (n - 128))

/-- Lines with their marks. A line is given with the break that ends it, if
one does. -/
def markLines (m : Marking) : (number : Nat) → (afterEmpty : Bool) → List Bytes → Bytes
  | _, _, [] => []
  | n, afterEmpty, l :: ls =>
    let body := l.takeWhile (· ≠ 10)
    let isEmpty := body.isEmpty
    if isEmpty && afterEmpty && m.squeezes then markLines m n true ls
    else
      let numbered := m.numbers && !(m.skipsEmpty && isEmpty)
      let digits := toString n
      let lead := if numbered then
          String.ofList (List.replicate (6 - digits.length) ' ') ++ digits ++ "\t"
        else ""
      let closing := if body.length < l.length then
          (if m.ends then Utf8.encode "$" else []) ++ byteOf 10
        else []
      Utf8.encode lead ++ body.flatMap (markByte m) ++ closing ++
        markLines m (if numbered then n + 1 else n) isEmpty ls

/-- Lines, each with the break that ends it. -/
def linesOf : Bytes → List Bytes
  | [] => []
  | b :: bs =>
    match linesOf bs with
    | [] => [[b]]
    | l :: ls => if b = 10 then [b] :: l :: ls else (b :: l) :: ls

/-- The bytes of a file, or of what there is to read. -/
def contents (i : Invocation) (name : String) (c : Console) : Except FileError (Bytes × Console) :=
  if name = "-" then .ok (c.input, { c with input := [] })
  else if name = nullFile then .ok ([], c)
  else (c.disk.read (i.path name)).map fun bytes => (bytes, c)

/-- The bytes of files, what was wrong with some of them, and whether all
could be read. -/
def contentsOf (i : Invocation) : List String → Console → Bytes × Bool × Console
  | [], c => ([], true, c)
  | n :: ns, c =>
    match contents i n c with
    | .ok (bytes, c) =>
      let (more, ok, c) := contentsOf i ns c
      (bytes ++ more, ok, c)
    | .error e =>
      let (more, _, c) := contentsOf i ns (i.complain c (n ++ ": " ++ reason e))
      (more, false, c)

/-- The marking that the options of `cat` ask for. -/
def markingOf (flags : List Char) : Marking where
  numbers := flags.any fun c => c = 'n' || c = 'b'
  skipsEmpty := flags.contains 'b'
  ends := flags.any fun c => c = 'E' || c = 'e' || c = 'A'
  tabs := flags.any fun c => c = 'T' || c = 't' || c = 'A'
  hidden := flags.any fun c => c = 'v' || c = 'e' || c = 't' || c = 'A'
  squeezes := flags.contains 's'

/-- Print files. -/
def cat : Program := fun i c =>
  match Arguments.read "nbeEtTvAsu" i.args with
  | .error e => i.refuse c 1 e
  | .ok a =>
    let (bytes, ok, c) := contentsOf i (if a.operands.isEmpty then ["-"] else a.operands) c
    let shown := if a.flags.all (· = 'u') then bytes
      else markLines (markingOf a.flags) 1 false (linesOf bytes)
    (if ok then 0 else 1, c.print shown)

/-- The arguments of `head`: whether it counts bytes, how many, and the
operands. -/
def headArguments : List String → Bool × Nat × List String
  | "-n" :: n :: rest => (false, digitsValue n.toList, rest)
  | "-c" :: n :: rest => (true, digitsValue n.toList, rest)
  | a :: rest =>
    match a.toList with
    | '-' :: 'n' :: ds => (false, digitsValue ds, rest)
    | '-' :: 'c' :: ds => (true, digitsValue ds, rest)
    | '-' :: d :: ds => (false, digitsValue (d :: ds), rest)
    | _ => (false, 10, a :: rest)
  | [] => (false, 10, [])

/-- Print the starts of files. -/
def head : Program := fun i c =>
  let (byBytes, n, names) := headArguments i.args
  let (bytes, ok, c) := contentsOf i (if names.isEmpty then ["-"] else names) c
  let start := if byBytes then bytes.take n else ((linesOf bytes).take n).flatten
  (if ok then 0 else 1, c.print start)

/-- The numbers of line breaks, words and bytes. -/
def counts (bytes : Bytes) : List Nat :=
  let blank (b : UInt8) : Bool := b = 32 || (9 ≤ b && b ≤ 13)
  let starts := (bytes.zip ((32 : UInt8) :: bytes)).filter fun p => !blank p.1 && blank p.2
  [(bytes.filter (· = 10)).length, starts.length, bytes.length]

/-- Count the lines, words and bytes of files. -/
def wc : Program := fun i c =>
  match Arguments.read "lwc" i.args with
  | .error e => i.refuse c 1 e
  | .ok a =>
    let chosen (ns : List Nat) : List Nat :=
      if a.flags.isEmpty then ns
      else ((ns.zip ['l', 'w', 'c']).filter fun p => a.flags.contains p.2).map Prod.fst
    let (bytes, ok, c) := contentsOf i (if a.operands.isEmpty then ["-"] else a.operands) c
    let ns := (chosen (counts bytes)).map toString
    let width := if ns.length = 1 then 1
      else if a.operands.isEmpty then 7 else (toString bytes.length).length
    let cells := ns.map fun n => String.ofList (List.replicate (width - n.length) ' ') ++ n
    (if ok then 0 else 1, c.say (String.intercalate " " (cells ++ a.operands) ++ "\n"))

/-! ## Numbers -/

/-- The numbers from one to another by steps. -/
def numbersFrom (step last : Int) : (fuel : Nat) → Int → List Int
  | 0, _ => []
  | fuel + 1, n =>
    if (0 < step && last < n) || (step < 0 && n < last) || step = 0 then []
    else n :: numbersFrom step last fuel (n + step)

/-- Print numbers. -/
def seq : Program := fun i c =>
  let number (s : String) : Int := (wholeNumber s.toList).1
  let printed (first step last : Int) : Nat × Console :=
    let ns := numbersFrom step last ((last - first).natAbs + 1) first
    (0, c.say (String.join (ns.map fun n => toString n ++ "\n")))
  match i.args.map number with
  | [last] => printed 1 1 last
  | [first, last] => printed first 1 last
  | [first, step, last] => printed first step last
  | _ => i.missingOperand c

/-! ## Paths -/

/-- The last part of a path. -/
def baseName (s : String) : String :=
  let cs := (s.toList.reverse.dropWhile (· = '/')).reverse
  if cs.isEmpty then (if s.isEmpty then "" else "/")
  else String.ofList ((cs.reverse.takeWhile (· ≠ '/')).reverse)

/-- A text without an ending. -/
def dropEnding (s ending : String) : String :=
  if s = ending then s
  else
    match dropLead? ending.toList.reverse s.toList.reverse with
    | some cs => String.ofList cs.reverse
    | none => s

/-- Print the last part of a path. -/
def basename : Program := fun i c =>
  match dropMark i.args with
  | [] => i.missingOperand c
  | [s] => (0, c.say (baseName s ++ "\n"))
  | [s, ending] => (0, c.say (dropEnding (baseName s) ending ++ "\n"))
  | _ :: _ :: extra :: _ => i.refuse c 1 ("extra operand '" ++ extra ++ "'")

/-- The path without its last part. -/
def dirName (s : String) : String :=
  let cs := s.toList.reverse.dropWhile (· = '/')
  if cs.isEmpty then (if s.isEmpty then "." else "/")
  else
    let cs := cs.dropWhile (· ≠ '/')
    if cs.isEmpty then "."
    else
      let cs := cs.dropWhile (· = '/')
      if cs.isEmpty then "/" else String.ofList cs.reverse

/-- Print paths without their last parts. -/
def dirname : Program := fun i c =>
  match dropMark i.args with
  | [] => i.missingOperand c
  | args => (0, c.say (String.join (args.map fun s => dirName s ++ "\n")))

end Machine
end CodeDesk
