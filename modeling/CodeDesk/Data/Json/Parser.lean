import CodeDesk.Data.Value
import CodeDesk.Text.Decimal

/-!
# Reading JSON

A reader of JSON texts. Each part takes the characters ahead and answers
with what it read and what is left. The text of a value may stand between
white space, and nothing else may follow it.
-/

namespace CodeDesk
namespace Json

/-- Whether `c` may stand between the parts of a text. -/
def isBlank (c : Char) : Bool := c = ' ' || c = '\n' || c = '\t' || c = '\r'

/-- The text without the blanks at its start. -/
def skipBlanks (cs : List Char) : List Char := cs.dropWhile isBlank

/-- The value of four hexadecimal digits, and what follows them. -/
def hex4? : List Char → Option (Nat × List Char)
  | a :: b :: c :: d :: rest =>
    match hexDigit? a, hexDigit? b, hexDigit? c, hexDigit? d with
    | some a, some b, some c, some d => some (((a * 16 + b) * 16 + c) * 16 + d, rest)
    | _, _, _, _ => none
  | _ => none

/-- The character a backslash and `c` stand for. -/
def simpleEscape? (c : Char) : Option Char :=
  match c with
  | '"' => some '"'
  | '\\' => some '\\'
  | '/' => some '/'
  | 'b' => some '\x08'
  | 'f' => some '\x0c'
  | 'n' => some '\n'
  | 'r' => some '\r'
  | 't' => some '\t'
  | _ => none

/-- Whether `n` is the first half of a surrogate pair. -/
def isHigh (n : Nat) : Bool := 0xD800 ≤ n && n < 0xDC00

/-- Whether `n` is the second half of a surrogate pair. -/
def isLow (n : Nat) : Bool := 0xDC00 ≤ n && n < 0xE000

/-- The rest of a string after its opening quote: its characters, or `none`
inside if some escape stands for no character, and the text after the
closing quote. `acc` holds what came before, last character first. -/
def stringBody : (fuel : Nat) → (acc : Option (List Char)) → List Char →
    Option (Option String × List Char)
  | 0, _, _ => none
  | _ + 1, _, [] => none
  | fuel + 1, acc, c :: cs =>
    if c = '"' then some (acc.map fun a => String.ofList a.reverse, cs)
    else if c.toNat < 0x20 then none
    else if c = '\\' then
      match cs with
      | 'u' :: more =>
        match hex4? more with
        | none => none
        | some (n, rest) =>
          if isHigh n then
            match rest with
            | '\\' :: 'u' :: low =>
              match hex4? low with
              | none => none
              | some (m, after) =>
                if isLow m then
                  let code := 0x10000 + (n - 0xD800) * 0x400 + (m - 0xDC00)
                  stringBody fuel (acc.map (Char.ofNat code :: ·)) after
                else stringBody fuel none rest
            | _ => stringBody fuel none rest
          else if isLow n then stringBody fuel none rest
          else stringBody fuel (acc.map (Char.ofNat n :: ·)) rest
      | e :: more =>
        match simpleEscape? e with
        | some ch => stringBody fuel (acc.map (ch :: ·)) more
        | none => none
      | [] => none
    else stringBody fuel (acc.map (c :: ·)) cs

/-- A string after its opening quote. -/
def string? (cs : List Char) : Option (Option String × List Char) :=
  stringBody (cs.length + 1) (some []) cs

/-- The digits of a whole part: a single zero, or digits that do not start
with one. -/
def wholePart? (cs : List Char) : Option (List Char × List Char) :=
  match cs with
  | '0' :: rest =>
    match rest with
    | d :: _ => if isDigit d then none else some (['0'], rest)
    | [] => some (['0'], rest)
  | _ =>
    let ds := cs.takeWhile isDigit
    if ds.isEmpty then none else some (ds, cs.dropWhile isDigit)

/-- A fraction after the whole part; no digits if there is no point. -/
def fraction? (cs : List Char) : Option (Option (List Char) × List Char) :=
  match cs with
  | '.' :: rest =>
    let ds := rest.takeWhile isDigit
    if ds.isEmpty then none else some (some ds, rest.dropWhile isDigit)
  | _ => some (none, cs)

/-- A power of ten after a decimal; none if there is no mark for it. -/
def exponent? (cs : List Char) : Option (Option Int × List Char) :=
  match cs with
  | e :: rest =>
    if e = 'e' || e = 'E' then
      let (negative, rest) := match rest with
        | '-' :: more => (true, more)
        | '+' :: more => (false, more)
        | _ => (false, rest)
      let ds := rest.takeWhile isDigit
      if ds.isEmpty then none
      else
        let n : Int := digitsValue ds
        some (some (if negative then -n else n), rest.dropWhile isDigit)
    else some (none, cs)
  | [] => some (none, cs)

/-- The value of a number. Whole numbers that fit into a word stay whole;
others become floating point numbers, and one without a finite value cannot
be read. -/
def numberValue (negative : Bool) (whole : List Char) (fraction : Option (List Char))
    (power : Option Int) : Value :=
  let asFloat (ds : Nat × Int) : Value :=
    let x := Decimal.toFloat negative ds.1 ds.2
    if x.isFinite then .float x else .unreadable
  match fraction, power with
  | none, none =>
    let n := digitsValue whole
    if negative then
      if n = 0 then .float (-0.0)
      else if n ≤ twoTo 63 then .int (-(n : Int))
      else asFloat (n, 0)
    else if n < wordLimit then .int n
    else asFloat (n, 0)
  | _, _ => asFloat (Decimal.combine whole (fraction.getD []) (power.getD 0))

/-- A number. -/
def number? (cs : List Char) : Option (Value × List Char) :=
  let (negative, cs) := match cs with
    | '-' :: rest => (true, rest)
    | _ => (false, cs)
  match wholePart? cs with
  | none => none
  | some (whole, cs) =>
    match fraction? cs with
    | none => none
    | some (fraction, cs) =>
      match exponent? cs with
      | none => none
      | some (power, cs) => some (numberValue negative whole fraction power, cs)

mutual

/-- A value after any blanks. -/
def value : (fuel : Nat) → List Char → Option (Value × List Char)
  | 0, _ => none
  | fuel + 1, cs =>
    match skipBlanks cs with
    | [] => none
    | c :: rest =>
      if c = '"' then
        match string? rest with
        | none => none
        | some (some s, after) => some (.text s, after)
        | some (none, after) => some (.unreadable, after)
      else if c = '[' then
        match skipBlanks rest with
        | ']' :: after => some (.list [], after)
        | _ => items fuel [] rest
      else if c = '\x7b' then
        match skipBlanks rest with
        | '\x7d' :: after => some (.map [], after)
        | _ => members fuel [] rest
      else if c = 'n' then (dropLead? ['u', 'l', 'l'] rest).map fun after => (.null, after)
      else if c = 't' then (dropLead? ['r', 'u', 'e'] rest).map fun after => (.bool true, after)
      else if c = 'f' then
        (dropLead? ['a', 'l', 's', 'e'] rest).map fun after => (.bool false, after)
      else number? (c :: rest)

/-- The items of a list up to its closing bracket; `acc` holds the earlier
ones, last item first. -/
def items : (fuel : Nat) → List Value → List Char → Option (Value × List Char)
  | 0, _, _ => none
  | fuel + 1, acc, cs =>
    match value fuel cs with
    | none => none
    | some (v, rest) =>
      match skipBlanks rest with
      | ',' :: after => items fuel (v :: acc) after
      | ']' :: after => some (.list (v :: acc).reverse, after)
      | _ => none

/-- The members of a map up to its closing brace; `acc` holds the earlier
ones, last member first. -/
def members : (fuel : Nat) → List (String × Value) → List Char → Option (Value × List Char)
  | 0, _, _ => none
  | fuel + 1, acc, cs =>
    match skipBlanks cs with
    | '"' :: rest =>
      match string? rest with
      | some (some name, rest) =>
        match skipBlanks rest with
        | ':' :: rest =>
          match value fuel rest with
          | none => none
          | some (v, rest) =>
            match skipBlanks rest with
            | ',' :: after => members fuel ((name, v) :: acc) after
            | '\x7d' :: after => some (.map ((name, v) :: acc).reverse, after)
            | _ => none
        | _ => none
      | _ => none
    | _ => none

end

/-- The value of a whole text. -/
def parse? (s : String) : Option Value :=
  let cs := s.toList
  match value (2 * cs.length + 2) cs with
  | none => none
  | some (v, rest) => if (skipBlanks rest).isEmpty then some v else none

end Json
end CodeDesk
