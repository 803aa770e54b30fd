import CodeDesk.Text.Decimal

/-!
# Lexemes of TOML

The parts of a TOML text below its tables: blanks, comments, line breaks,
strings in their four forms, keys, numbers, and dates with times. Each
reader takes the characters ahead and answers with what it read and what is
left, or with `none` where the text is not well formed.
-/

namespace CodeDesk
namespace Toml

/-- Whether `c` is a blank within a line. -/
def isBlank (c : Char) : Bool := c = ' ' || c = '\t'

/-- The text without the blanks at its start. -/
def skipBlanks (cs : List Char) : List Char := cs.dropWhile isBlank

/-- Whether `c` may stand in a comment or a literal string. -/
def isPlain (c : Char) : Bool := c = '\t' || (0x20 ≤ c.toNat && c.toNat ≠ 0x7F)

/-- The text after a line break. -/
def lineBreak? : List Char → Option (List Char)
  | '\n' :: rest => some rest
  | '\r' :: '\n' :: rest => some rest
  | _ => none

/-- The text after an optional comment. -/
def skipComment (cs : List Char) : List Char :=
  match cs with
  | '#' :: rest => rest.dropWhile isPlain
  | _ => cs

/-- The text after an optional comment and the end of the line; the text
may end there too. -/
def lineEnd? (cs : List Char) : Option (List Char) :=
  match skipComment (skipBlanks cs) with
  | [] => some []
  | rest => lineBreak? rest

/-- The text after blanks, comments and line breaks. -/
def skipLines : (fuel : Nat) → List Char → List Char
  | 0, cs => cs
  | fuel + 1, cs =>
    let rest := skipComment (skipBlanks cs)
    match lineBreak? rest with
    | some after => skipLines fuel after
    | none => rest

/-- The value of exactly `n` hexadecimal digits. -/
def hexDigits? : (n : Nat) → (acc : Nat) → List Char → Option (Nat × List Char)
  | 0, acc, cs => some (acc, cs)
  | n + 1, acc, c :: cs =>
    match hexDigit? c with
    | some d => hexDigits? n (16 * acc + d) cs
    | none => none
  | _ + 1, _, [] => none

/-- The character with code `n`, if it is one. -/
def charOf? (n : Nat) : Option Char :=
  if n < 0xD800 || (0xE000 ≤ n && n < 0x110000) then some (Char.ofNat n) else none

/-- The character of an escape after its backslash. -/
def escape? : List Char → Option (Char × List Char)
  | 'b' :: rest => some ('\x08', rest)
  | 't' :: rest => some ('\t', rest)
  | 'n' :: rest => some ('\n', rest)
  | 'f' :: rest => some ('\x0c', rest)
  | 'r' :: rest => some ('\r', rest)
  | '"' :: rest => some ('"', rest)
  | '\\' :: rest => some ('\\', rest)
  | 'u' :: rest => (hexDigits? 4 0 rest).bind fun p => (charOf? p.1).map fun c => (c, p.2)
  | 'U' :: rest => (hexDigits? 8 0 rest).bind fun p => (charOf? p.1).map fun c => (c, p.2)
  | _ => none

/-- The rest of a basic string after its opening quote. -/
def basicBody : (fuel : Nat) → (acc : List Char) → List Char → Option (String × List Char)
  | 0, _, _ => none
  | _ + 1, _, [] => none
  | fuel + 1, acc, c :: cs =>
    if c = '"' then some (String.ofList acc.reverse, cs)
    else if c = '\\' then
      match escape? cs with
      | some (e, rest) => basicBody fuel (e :: acc) rest
      | none => none
    else if isPlain c then basicBody fuel (c :: acc) cs
    else none

/-- The rest of a literal string after its opening quote. -/
def literalBody : (acc : List Char) → List Char → Option (String × List Char)
  | _, [] => none
  | acc, c :: cs =>
    if c = '\'' then some (String.ofList acc.reverse, cs)
    else if isPlain c then literalBody (c :: acc) cs
    else none

/-- The text after a backslash at the end of a line: the line break and all
blanks and line breaks that follow. -/
def foldedLine? (cs : List Char) : Option (List Char) :=
  match lineBreak? (skipBlanks cs) with
  | some rest => some (rest.dropWhile fun c => isBlank c || c = '\n' || c = '\r')
  | none => none

/-- How many of the next characters are `q`, at most `limit`. -/
def countQuotes (q : Char) : (limit : Nat) → List Char → Nat
  | limit + 1, c :: cs => if c = q then countQuotes q limit cs + 1 else 0
  | _, _ => 0

/-- Whether every carriage return is part of a line break. -/
def returnsPaired : List Char → Bool
  | [] => true
  | '\r' :: '\n' :: rest => returnsPaired rest
  | c :: rest => c ≠ '\r' && returnsPaired rest

/-- The rest of a basic string of several lines. Three quotes end it, and
up to two more before them belong to the text. -/
def basicLines : (fuel : Nat) → (acc : List Char) → List Char → Option (String × List Char)
  | 0, _, _ => none
  | _ + 1, _, [] => none
  | fuel + 1, acc, c :: cs =>
    if c = '"' then
      let n := countQuotes '"' 5 (c :: cs)
      if 3 ≤ n then
        some (String.ofList (List.replicate (n - 3) '"' ++ acc).reverse, cs.drop (n - 1))
      else basicLines fuel ('"' :: acc) cs
    else if c = '\\' then
      match foldedLine? cs with
      | some rest => basicLines fuel acc rest
      | none =>
        match escape? cs with
        | some (e, rest) => basicLines fuel (e :: acc) rest
        | none => none
    else
      match lineBreak? (c :: cs) with
      | some rest => basicLines fuel ('\n' :: acc) rest
      | none => if isPlain c then basicLines fuel (c :: acc) cs else none

/-- The rest of a literal string of several lines. -/
def literalLines : (fuel : Nat) → (acc : List Char) → List Char → Option (String × List Char)
  | 0, _, _ => none
  | _ + 1, _, [] => none
  | fuel + 1, acc, c :: cs =>
    if c = '\'' then
      let n := countQuotes '\'' 5 (c :: cs)
      if 3 ≤ n then
        some (String.ofList (List.replicate (n - 3) '\'' ++ acc).reverse, cs.drop (n - 1))
      else literalLines fuel ('\'' :: acc) cs
    else
      match lineBreak? (c :: cs) with
      | some rest => literalLines fuel ('\n' :: acc) rest
      | none => if isPlain c then literalLines fuel (c :: acc) cs else none

/-- The text without a line break at its start. -/
def skipBreak (cs : List Char) : List Char := (lineBreak? cs).getD cs

/-- A string of any form. -/
def string? (cs : List Char) : Option (String × List Char) :=
  let fuel := cs.length + 1
  match cs with
  | '"' :: '"' :: '"' :: rest => basicLines fuel [] (skipBreak rest)
  | '"' :: rest => basicBody fuel [] rest
  | '\'' :: '\'' :: '\'' :: rest => literalLines fuel [] (skipBreak rest)
  | '\'' :: rest => literalBody [] rest
  | _ => none

/-- Whether `c` may stand in a key without quotes. -/
def isBare (c : Char) : Bool := c.isAlphanum || c = '_' || c = '-'

/-- A key without dots. -/
def simpleKey? (cs : List Char) : Option (String × List Char) :=
  match cs with
  | '"' :: rest => basicBody (cs.length + 1) [] rest
  | '\'' :: rest => literalBody [] rest
  | _ =>
    let name := cs.takeWhile isBare
    if name.isEmpty then none else some (String.ofList name, cs.dropWhile isBare)

/-- A key: simple keys separated by dots, with blanks around them. -/
def key? : (fuel : Nat) → List Char → Option (List String × List Char)
  | 0, _ => none
  | fuel + 1, cs =>
    match simpleKey? (skipBlanks cs) with
    | none => none
    | some (name, rest) =>
      match skipBlanks rest with
      | '.' :: more => (key? fuel more).map fun p => (name :: p.1, p.2)
      | rest => some ([name], rest)

/-- Digits that may be separated by single underscores: the digits alone,
and what follows. -/
def separated (isDig : Char → Bool) : List Char → List Char × List Char
  | c :: '_' :: d :: rest =>
    if isDig c then
      if isDig d then
        let p := separated isDig (d :: rest)
        (c :: p.1, p.2)
      else ([c], '_' :: d :: rest)
    else ([], c :: '_' :: d :: rest)
  | c :: rest =>
    if isDig c then
      let p := separated isDig rest
      (c :: p.1, p.2)
    else ([], c :: rest)
  | [] => ([], [])

/-- The sign of a number, and what follows it. -/
def sign : List Char → Bool × List Char
  | '-' :: rest => (true, rest)
  | '+' :: rest => (false, rest)
  | cs => (false, cs)

/-- A decimal whole part: a single zero, or digits that do not start with
one. -/
def wholePart? (cs : List Char) : Option (List Char × List Char) :=
  match cs with
  | '0' :: rest => some (['0'], rest)
  | _ =>
    let p := separated isDigit cs
    if p.1.isEmpty then none else some p

/-- A whole number with its base written in front. -/
def based? (isDig : Char → Bool) (base : Nat) (cs : List Char) : Option (Int × List Char) :=
  let p := separated isDig cs
  if p.1.isEmpty then none
  else
    let n := p.1.foldl (fun n c => base * n + (hexDigit? c).getD 0) 0
    if n < twoTo 63 then some (n, p.2) else none

/-- A whole number of 64 bits. -/
def integer? (cs : List Char) : Option (Int × List Char) :=
  match cs with
  | '0' :: 'x' :: rest => based? (fun c => (hexDigit? c).isSome) 16 rest
  | '0' :: 'o' :: rest => based? (fun c => '0' ≤ c && c ≤ '7') 8 rest
  | '0' :: 'b' :: rest => based? (fun c => c = '0' || c = '1') 2 rest
  | _ =>
    let (negative, digits) := sign cs
    match wholePart? digits with
    | none => none
    | some (ds, rest) =>
      let n : Int := digitsValue ds
      if negative then if n ≤ twoTo 63 then some (-n, rest) else none
      else if n < twoTo 63 then some (n, rest) else none

/-- A power of ten after its mark. -/
def power? (cs : List Char) : Option (Int × List Char) :=
  match cs with
  | e :: rest =>
    if e = 'e' || e = 'E' then
      let (negative, digits) := sign rest
      let p := separated isDigit digits
      if p.1.isEmpty then none
      else
        let n : Int := digitsValue p.1
        some (if negative then -n else n, p.2)
    else none
  | [] => none

/-- A floating point number: a whole part with a fraction, a power of ten,
or both; or one of the words `inf` and `nan`. A positive number beyond
every finite one is refused. -/
def float? (cs : List Char) : Option (Float × List Char) :=
  let (negative, rest) := sign cs
  match dropLead? ['i', 'n', 'f'] rest, dropLead? ['n', 'a', 'n'] rest with
  | some after, _ => some (if negative then -(1.0 / 0.0) else 1.0 / 0.0, after)
  | _, some after => some (0.0 / 0.0, after)
  | none, none =>
    match wholePart? rest with
    | none => none
    | some (whole, rest) =>
      let make (fraction : List Char) (power : Int) (rest : List Char) :
          Option (Float × List Char) :=
        let ds := Decimal.combine whole fraction power
        let x := Decimal.toFloat negative ds.1 ds.2
        if x == 1.0 / 0.0 then none else some (x, rest)
      match rest with
      | '.' :: more =>
        let p := separated isDigit more
        if p.1.isEmpty then none
        else
          match power? p.2 with
          | some (n, rest) => make p.1 n rest
          | none => make p.1 0 p.2
      | _ =>
        match power? rest with
        | some (n, rest) => make [] n rest
        | none => none

/-- The value of exactly `n` digits. -/
def digits? : (n : Nat) → (acc : Nat) → List Char → Option (Nat × List Char)
  | 0, acc, cs => some (acc, cs)
  | n + 1, acc, c :: cs =>
    match digit? c with
    | some d => digits? n (10 * acc + d) cs
    | none => none
  | _ + 1, _, [] => none

/-- The number of days of a month. -/
def daysIn (year month : Nat) : Nat :=
  if month = 2 then
    if year % 4 = 0 && (year % 100 ≠ 0 || year % 400 = 0) then 29 else 28
  else if month = 4 || month = 6 || month = 9 || month = 11 then 30
  else 31

/-- The text after a date. -/
def date? (cs : List Char) : Option (List Char) :=
  match digits? 4 0 cs with
  | some (year, '-' :: cs) =>
    match digits? 2 0 cs with
    | some (month, '-' :: cs) =>
      match digits? 2 0 cs with
      | some (day, cs) =>
        if 1 ≤ month && month ≤ 12 && 1 ≤ day && day ≤ daysIn year month then some cs else none
      | none => none
    | _ => none
  | _ => none

/-- The text after a time of day. -/
def time? (cs : List Char) : Option (List Char) :=
  match digits? 2 0 cs with
  | some (hour, ':' :: cs) =>
    match digits? 2 0 cs with
    | some (minute, ':' :: cs) =>
      match digits? 2 0 cs with
      | some (second, cs) =>
        if 24 ≤ hour || 60 ≤ minute || 61 ≤ second then none
        else
          match cs with
          | '.' :: more =>
            let p := more.span isDigit
            if p.1.isEmpty then some cs else some p.2
          | _ => some cs
      | none => none
    | _ => none
  | _ => none

/-- The text after an offset from universal time, if there is one. -/
def offset? (cs : List Char) : Option (List Char) :=
  match cs with
  | c :: rest =>
    if c = 'Z' || c = 'z' then some rest
    else if c = '+' || c = '-' then
      match digits? 2 0 rest with
      | some (hour, ':' :: rest) =>
        match digits? 2 0 rest with
        | some (minute, rest) => if hour < 24 && minute < 60 then some rest else none
        | none => none
      | _ => none
    else some cs
  | [] => some []

/-- The text after a date, a time, or both. -/
def moment? (cs : List Char) : Option (List Char) :=
  match date? cs with
  | none => time? cs
  | some rest =>
    match rest with
    | c :: more =>
      if c = 'T' || c = 't' || c = ' ' then
        match time? more with
        | some after => offset? after
        | none => some rest
      else some rest
    | [] => some rest

end Toml
end CodeDesk
