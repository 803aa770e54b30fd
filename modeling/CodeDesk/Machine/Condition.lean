import CodeDesk.Files.Disk
import CodeDesk.Text.Split

/-!
# Conditions

The conditions that scripts test: on texts, on whole numbers and on files,
joined by `-a`, `-o`, `!` and parentheses. A word that looks like an
operator counts as one only where an operand can follow it. Every function
returns the truth of what it has read and the words behind it.
-/

namespace CodeDesk
namespace Machine

/-- A whole number. -/
def int? (s : String) : Option Int :=
  match s.toList with
  | '-' :: cs => if cs.isEmpty || !cs.all isDigit then none else some (-(digitsValue cs : Int))
  | '+' :: cs => if cs.isEmpty || !cs.all isDigit then none else some (digitsValue cs)
  | cs => if cs.isEmpty || !cs.all isDigit then none else some (digitsValue cs)

namespace Condition

/-- What a condition is tested against. -/
structure Surroundings where
  /-- The disk. -/
  disk : Disk
  /-- The directory. -/
  dir : Path
  deriving Inhabited

/-- The operators in front of a text. -/
def unaryOps : List String :=
  ["-n", "-z", "-e", "-r", "-w", "-x", "-f", "-d", "-s", "-L", "-h", "-c", "-b", "-p", "-S", "-u",
   "-g", "-k", "-O", "-G", "-t"]

/-- The operators between two texts. -/
def binaryOps : List String :=
  ["=", "==", "!=", "<", ">", "-eq", "-ne", "-lt", "-le", "-gt", "-ge", "-nt", "-ot", "-ef"]

/-- The truth of an operator in front of a text. -/
def unary (at_ : Surroundings) (op s : String) : Bool :=
  let d := at_.disk
  let p := at_.dir.join ⟨s⟩
  if op = "-n" then !s.isEmpty
  else if op = "-z" then s.isEmpty
  else if s.isEmpty then false
  else if ["-e", "-r", "-w", "-O", "-G"].contains op then d.exists? p
  else if op = "-f" then d.isFile p
  else if op = "-d" then d.isDir p
  else if op = "-s" then d.isDir p || (d.read p).toOption.any fun b => !b.isEmpty
  else if op = "-x" then
    match d.entry true p with
    | .ok (.file _ _ mode) => mode &&& 0o111 != 0
    | .ok _ => true
    | .error _ => false
  else if op = "-L" || op = "-h" then
    match d.entry false p with
    | .ok (.link _) => true
    | _ => false
  else false

/-- A number between blanks. -/
def number (s : String) : Except String Int :=
  let blank (c : Char) : Bool := c = ' ' || c = '\t' || c = '\n'
  let cs := ((s.toList.dropWhile blank).reverse.dropWhile blank).reverse
  match int? (String.ofList cs) with
  | some n =>
    let limit : Int := twoTo 63
    if -limit ≤ n && n < limit then .ok n else .error ("Illegal number: " ++ s)
  | none => .error ("Illegal number: " ++ s)

/-- The truth of an operator between two texts. -/
def binary (a op b : String) : Except String Bool :=
  let numbers (f : Int → Int → Bool) : Except String Bool :=
    match number a, number b with
    | .ok x, .ok y => .ok (f x y)
    | .error e, _ => .error e
    | _, .error e => .error e
  if op = "=" || op = "==" then .ok (a == b)
  else if op = "!=" then .ok (a != b)
  else if op = "<" then .ok (decide (a < b))
  else if op = ">" then .ok (decide (b < a))
  else if op = "-eq" then numbers (· == ·)
  else if op = "-ne" then numbers (· != ·)
  else if op = "-lt" then numbers (· < ·)
  else if op = "-le" then numbers (· ≤ ·)
  else if op = "-gt" then numbers (· > ·)
  else if op = "-ge" then numbers (· ≥ ·)
  else .ok false

/-- Whether the first word is an operand although it looks like an operator
in front of a text: nothing follows it, or an operator between two texts
does. -/
def isOperand : List String → Bool
  | [_] => true
  | _ :: op :: _ :: _ => binaryOps.contains op
  | _ => false

mutual

/-- Conditions joined by `-o`. -/
def anyOf (at_ : Surroundings) : (fuel : Nat) → List String → Except String (Bool × List String)
  | 0, _ => .error "argument expected"
  | fuel + 1, ws =>
    match allOf at_ fuel ws with
    | .error e => .error e
    | .ok (a, "-o" :: rest) =>
      (anyOf at_ fuel rest).map fun r => (a || r.1, r.2)
    | .ok r => .ok r

/-- Conditions joined by `-a`. -/
def allOf (at_ : Surroundings) : (fuel : Nat) → List String → Except String (Bool × List String)
  | 0, _ => .error "argument expected"
  | fuel + 1, ws =>
    match negated at_ fuel ws with
    | .error e => .error e
    | .ok (a, "-a" :: rest) =>
      (allOf at_ fuel rest).map fun r => (a && r.1, r.2)
    | .ok r => .ok r

/-- A condition behind any number of `!`. -/
def negated (at_ : Surroundings) : (fuel : Nat) → List String → Except String (Bool × List String)
  | 0, _ => .error "argument expected"
  | _ + 1, ["!"] => .ok (true, [])
  | fuel + 1, "!" :: rest => (negated at_ fuel rest).map fun r => (!r.1, r.2)
  | fuel + 1, ws => primary at_ fuel ws

/-- A condition without joining words. -/
def primary (at_ : Surroundings) : (fuel : Nat) → List String → Except String (Bool × List String)
  | 0, _ => .error "argument expected"
  | _ + 1, [] => .ok (false, [])
  | _ + 1, "(" :: ")" :: rest => .ok (false, rest)
  | fuel + 1, "(" :: w :: ws =>
    match anyOf at_ fuel (w :: ws) with
    | .error e => .error e
    | .ok (a, ")" :: rest) => .ok (a, rest)
    | .ok _ => .error "closing paren expected"
  | _ + 1, a :: rest =>
    if unaryOps.contains a && !isOperand (a :: rest) then
      match rest with
      | s :: rest => .ok (unary at_ a s, rest)
      | [] => .error (a ++ ": argument expected")
    else
      match rest with
      | op :: rest' =>
        if binaryOps.contains op then
          match rest' with
          | b :: rest' => (binary a op b).map fun t => (t, rest')
          | [] => .error (op ++ ": argument expected")
        else .ok (!a.isEmpty, rest)
      | [] => .ok (!a.isEmpty, [])

end

/-- The truth of a condition, or what is wrong with it. Three words with an
operator in the middle are always a comparison. -/
def test (at_ : Surroundings) (ws : List String) : Except String Bool :=
  match ws with
  | [a, op, b] =>
    if binaryOps.contains op then binary a op b else whole ws ws
  | "!" :: rest => if ws.length = 4 then (whole rest rest).map (!·) else whole ws ws
  | ws => whole ws ws
where
  /-- The truth of all the words; `shown` is where the condition begins. -/
  whole (shown ws : List String) : Except String Bool :=
    match anyOf at_ (4 * ws.length + 8) ws with
    | .error e => .error e
    | .ok (t, []) => .ok t
    | .ok _ => .error (shown.head?.getD "" ++ ": unexpected operator")

end Condition
end Machine
end CodeDesk
