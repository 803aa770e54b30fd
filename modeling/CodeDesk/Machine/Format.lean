import CodeDesk.Machine.Escape

/-!
# Formats

How a format and its arguments become bytes. A format is read as parts:
bytes that stand for themselves, and conversions, each of which takes an
argument. A format is used again as long as there are arguments left. What
is wrong with an argument or a conversion is put in words by a
`FormatWording`, since the shell and the programs word it differently.
-/

namespace CodeDesk
namespace Machine

/-- A width or a precision. -/
inductive Measure where
  /-- None is given. -/
  | none
  /-- A number. -/
  | fixed (n : Nat)
  /-- The next argument. -/
  | argument
  deriving DecidableEq, Repr, Inhabited

/-- How an argument is written. -/
structure Conversion where
  /-- The flags. -/
  flags : List Char
  /-- The least number of characters. -/
  width : Measure
  /-- The number of digits or the greatest number of bytes. -/
  precision : Measure
  /-- The kind. -/
  kind : Char
  deriving DecidableEq, Repr, Inhabited

/-- A part of a format. -/
inductive FormatPart where
  /-- Bytes as they are. -/
  | bytes (b : Bytes)
  /-- An argument. -/
  | conversion (c : Conversion)
  /-- Something that is not a conversion. -/
  | wrong (text : String)
  /-- The end of all output. -/
  | stop

/-- How errors are worded, and the status they leave. -/
structure FormatWording where
  /-- The argument is not a number. -/
  notNumber : String → String
  /-- Only the start of the argument is a number. -/
  notAllNumber : String → String
  /-- There is no such conversion. -/
  noConversion : String → String
  /-- The status after a conversion that does not exist. -/
  status : Nat

namespace FormatWording

/-- How the shell words them. -/
def shell : FormatWording where
  notNumber a := a ++ ": expected numeric value"
  notAllNumber a := a ++ ": not completely converted"
  noConversion d := if d = "%" then "missing format character" else d ++ ": invalid directive"
  status := 2

/-- How programs word them. -/
def program : FormatWording where
  notNumber a := "'" ++ a ++ "': expected a numeric value"
  notAllNumber a := "'" ++ a ++ "': value not completely converted"
  noConversion d := d ++ ": invalid conversion specification"
  status := 1

end FormatWording

/-- What has been written. -/
structure Written where
  /-- The bytes. -/
  bytes : Bytes
  /-- What was wrong, in order. -/
  complaints : List String
  /-- The status. -/
  status : Nat
  /-- The arguments that are left. -/
  args : List String
  /-- Whether the output goes on. -/
  goesOn : Bool
  deriving Inhabited

/-! ## Reading a format -/

/-- A measure at the start of a text. -/
def measure (cs : List Char) : Measure × List Char :=
  match cs with
  | '*' :: rest => (.argument, rest)
  | cs =>
    let (digits, rest) := cs.span isDigit
    (if digits.isEmpty then .none else .fixed (digitsValue digits), rest)

/-- The kinds of conversions. -/
def conversionKinds : List Char := "diouxXcsbfFeEgG".toList

/-- A conversion, of which the percent sign has been read. -/
def conversion (cs : List Char) : FormatPart × List Char :=
  match cs with
  | '%' :: rest => (.bytes (charBytes '%'), rest)
  | cs =>
    let (flags, rest) := cs.span fun c => "-+ #0".toList.contains c
    let (width, rest) := measure rest
    let (precision, rest) := match rest with
      | '.' :: rest =>
        match measure rest with
        | (.none, rest) => (Measure.fixed 0, rest)
        | m => m
      | rest => (.none, rest)
    let read (n : Nat) : String := String.ofList ('%' :: cs.take (cs.length - n))
    match rest with
    | [] => (.wrong (read 0), [])
    | k :: rest =>
      if conversionKinds.contains k then (.conversion ⟨flags, width, precision, k⟩, rest)
      else (.wrong (read rest.length), rest)

/-- The parts of a format. -/
def formatParts (style : EscapeStyle) : (fuel : Nat) → List Char → List FormatPart
  | 0, _ => []
  | _ + 1, [] => []
  | fuel + 1, '\\' :: rest =>
    match escape style rest with
    | (none, _) => [.stop]
    | (some b, rest) => .bytes b :: formatParts style fuel rest
  | fuel + 1, '%' :: rest =>
    let (p, rest) := conversion rest
    p :: formatParts style fuel rest
  | fuel + 1, c :: rest => .bytes (charBytes c) :: formatParts style fuel rest

/-! ## Numbers -/

/-- The whole number at the start of a text, whether there is one, and what
follows it. It is decimal, or octal behind a zero, or hexadecimal behind
`0x`; behind a quote it is the number of a character. -/
def wholeNumber (cs : List Char) : Int × Bool × List Char :=
  let cs := cs.dropWhile fun c => c = ' ' || c = '\t' || c = '\n'
  let (negative, cs) := match cs with
    | '-' :: rest => (true, rest)
    | '+' :: rest => (false, rest)
    | cs => (false, cs)
  let signed (n : Nat) : Int := if negative then -(n : Int) else n
  match cs with
  | '\'' :: c :: _ => (signed c.toNat, true, [])
  | '"' :: c :: _ => (signed c.toNat, true, [])
  | '0' :: 'x' :: d :: rest =>
    let (ds, rest) := hexDigits (rest.length + 1) (d :: rest)
    if ds.isEmpty then (0, true, 'x' :: d :: rest) else (signed (hexValue ds), true, rest)
  | '0' :: rest =>
    let (n, rest) := octal rest.length rest
    (signed n, true, rest)
  | cs =>
    let (ds, rest) := cs.span isDigit
    (signed (digitsValue ds), !ds.isEmpty, rest)

/-- The decimal fraction at the start of a text as a number of parts of a
power of ten, the power, whether there is one, and what follows it. -/
def fraction (cs : List Char) : Int × Nat × Bool × List Char :=
  let (negative, cs) := match cs with
    | '-' :: rest => (true, rest)
    | '+' :: rest => (false, rest)
    | cs => (false, cs)
  let (whole, rest) := cs.span isDigit
  let (part, rest) := match rest with
    | '.' :: rest => rest.span isDigit
    | rest => ([], rest)
  let n := digitsValue (whole ++ part)
  (if negative then -(n : Int) else n, part.length, !(whole ++ part).isEmpty, rest)

/-- A quotient rounded to a whole number, a half to the even one. -/
def roundQuotient (n d : Nat) : Nat :=
  let q := n / d
  let r := n % d
  if 2 * r < d then q
  else if d < 2 * r then q + 1
  else q + q % 2

/-- Digits with zeros in front, up to a number of digits. -/
def padDigits (least : Nat) (ds : List Char) : List Char :=
  List.replicate (least - ds.length) '0' ++ ds

/-- The sign of a number. -/
def signOf (flags : List Char) (negative : Bool) : List Char :=
  if negative then ['-']
  else if flags.contains '+' then ['+']
  else if flags.contains ' ' then [' ']
  else []

/-- A sign and digits filled up to a width: by zeros behind the sign, or by
blanks. -/
def fillNumber (flags : List Char) (zeros : Bool) (width : Nat) (sign digits : List Char) :
    Bytes :=
  let missing := width - (sign.length + digits.length)
  let text := if flags.contains '-' then sign ++ digits ++ List.replicate missing ' '
    else if zeros && flags.contains '0' then sign ++ List.replicate missing '0' ++ digits
    else List.replicate missing ' ' ++ sign ++ digits
  Utf8.encode (String.ofList text)

/-- A whole number as a conversion writes it. -/
def wholeBytes (flags : List Char) (width : Nat) (precision : Option Nat) (kind : Char) (n : Int) :
    Bytes :=
  let fillWith (sign digits : List Char) : Bytes :=
    fillNumber flags precision.isNone width sign (padDigits (precision.getD 1) digits)
  let word := (n % (wordLimit : Int)).toNat
  if kind = 'x' || kind = 'X' then
    let ds := Nat.toDigits 16 word
    let ds := if kind = 'X' then (String.ofList ds).toUpper.toList else ds
    fillWith (if flags.contains '#' && word ≠ 0 then ['0', kind] else []) ds
  else if kind = 'o' then
    fillWith [] ((if flags.contains '#' && word ≠ 0 then ['0'] else []) ++ Nat.toDigits 8 word)
  else if kind = 'u' then fillWith [] (Nat.toDigits 10 word)
  else fillWith (signOf flags (n < 0)) (Nat.toDigits 10 n.natAbs)

/-- A fraction as a conversion writes it, with a fixed number of places. -/
def fractionBytes (flags : List Char) (width places : Nat) (n : Int) (power : Nat) : Bytes :=
  let scaled := roundQuotient (n.natAbs * tenTo places) (tenTo power)
  let ds := padDigits (places + 1) (Nat.toDigits 10 scaled)
  let (whole, part) := ds.splitAt (ds.length - places)
  fillNumber flags true width (signOf flags (n < 0))
    (if places = 0 then whole else whole ++ '.' :: part)

/-! ## Writing -/

/-- Bytes filled with blanks up to a width. -/
def fillBytes (flags : List Char) (width : Nat) (b : Bytes) : Bytes :=
  let missing := List.replicate (width - b.length) (32 : UInt8)
  if flags.contains '-' then b ++ missing else missing ++ b

/-- A measure, with the flags and the arguments after it. A negative width
stands for the flag that fills behind. -/
def Measure.resolve (m : Measure) (flags : List Char) (args : List String) :
    Option Nat × List Char × List String :=
  match m with
  | .none => (Option.none, flags, args)
  | .fixed n => (some n, flags, args)
  | .argument =>
    let (n, _) := wholeNumber (args.head?.getD "").toList
    (some n.natAbs, if n < 0 then '-' :: flags else flags, args.tail)

/-- What is wrong with a number. -/
def numberComplaint (w : FormatWording) (arg : String) (found : Bool) (rest : List Char) :
    List String :=
  if rest.isEmpty then []
  else [if found then w.notAllNumber arg else w.notNumber arg]

/-- Write the first argument as a conversion says. -/
def Conversion.write (w : FormatWording) (style : EscapeStyle) (c : Conversion)
    (args : List String) : Written :=
  let (width, flags, args) := c.width.resolve c.flags args
  let (precision, _, args) := c.precision.resolve [] args
  let width := width.getD 0
  let arg := args.head?.getD ""
  let cut (b : Bytes) : Bytes := match precision with
    | some n => b.take n
    | none => b
  let done (b : Bytes) (complaints : List String) (goesOn : Bool) : Written :=
    ⟨b, complaints, if complaints.isEmpty then 0 else 1, args.tail, goesOn⟩
  if c.kind = 's' then done (fillBytes flags width (cut (Utf8.encode arg))) [] true
  else if c.kind = 'b' then
    let (b, goesOn) := unescaped style arg
    done (fillBytes flags width (cut b)) [] goesOn
  else if c.kind = 'c' then
    let first := (Utf8.encode arg).take 1
    done (fillBytes flags width (if first.isEmpty then [0] else first)) [] true
  else if "diouxX".toList.contains c.kind then
    let (n, found, rest) := wholeNumber arg.toList
    done (wholeBytes flags width precision c.kind n) (numberComplaint w arg found rest) true
  else
    let (n, power, found, rest) := fraction arg.toList
    done (fractionBytes flags width (precision.getD 6) n power) (numberComplaint w arg found rest)
      true

/-- Write the parts of a format once. -/
def writeParts (w : FormatWording) (style : EscapeStyle) : List FormatPart → List String → Written
  | [], args => ⟨[], [], 0, args, true⟩
  | .stop :: _, _ => ⟨[], [], 0, [], false⟩
  | .wrong d :: _, _ => ⟨[], [w.noConversion d], w.status, [], false⟩
  | .bytes b :: ps, args =>
    let r := writeParts w style ps args
    { r with bytes := b ++ r.bytes }
  | .conversion c :: ps, args =>
    let here := c.write w style args
    if here.goesOn then
      let r := writeParts w style ps here.args
      { r with
        bytes := here.bytes ++ r.bytes, complaints := here.complaints ++ r.complaints
        status := max here.status r.status }
    else here

/-- Whether a part takes an argument. -/
def FormatPart.takesArgument : FormatPart → Bool
  | conversion _ => true
  | _ => false

/-- Write the parts of a format as often as there are arguments for it, but
at least once. -/
def writeFormat (w : FormatWording) (style : EscapeStyle) (ps : List FormatPart) :
    (fuel : Nat) → List String → Written
  | 0, args => ⟨[], [], 0, args, true⟩
  | fuel + 1, args =>
    let r := writeParts w style ps args
    if r.args.isEmpty || !r.goesOn || !ps.any FormatPart.takesArgument then r
    else
      let more := writeFormat w style ps fuel r.args
      { more with
        bytes := r.bytes ++ more.bytes, complaints := r.complaints ++ more.complaints
        status := max r.status more.status }

end Machine
end CodeDesk
