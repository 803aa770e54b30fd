import CodeDesk.Data.Table
import CodeDesk.Machine.Format

/-!
# Arithmetic

The whole-number expressions of scripts. An expression is read by the
precedence of its operators, from the weakest to the strongest, and
evaluated over variables that hold texts.
-/

namespace CodeDesk
namespace Machine
namespace Arithmetic

/-- Why an expression has no value. -/
inductive Trouble where
  /-- An operand is missing. -/
  | noOperand
  /-- Something follows the expression. -/
  | leftOver
  /-- A division by zero. -/
  | divisionByZero
  /-- The value of a variable is not a number. -/
  | notNumber (value : String)
  deriving DecidableEq, Repr, Inhabited

/-- The wording of a trouble with an expression. -/
def Trouble.message (t : Trouble) (text : String) : String :=
  let about (what : String) : String :=
    "arithmetic expression: " ++ what ++ ": \"" ++ text ++ "\""
  match t with
  | noOperand => about "expecting primary"
  | leftOver => about "expecting EOF"
  | divisionByZero => about "division by zero"
  | notNumber value => "Illegal number: " ++ value

/-- An expression. -/
inductive Expr where
  /-- A number. -/
  | number (n : Int)
  /-- A variable. -/
  | name (n : String)
  /-- An operator in front of an expression. -/
  | unary (op : String) (e : Expr)
  /-- An operator between expressions. -/
  | binary (op : String) (a b : Expr)
  /-- A choice. -/
  | choice (c a b : Expr)
  /-- An assignment, by an operator if there is one. -/
  | assign (n op : String) (e : Expr)

/-- The operators between expressions, from the weakest to the strongest;
within a level the longest come first. -/
def levels : List (List String) :=
  [["||"], ["&&"], ["|"], ["^"], ["&"], ["==", "!="], ["<=", ">=", "<", ">"], ["<<", ">>"],
   ["+", "-"], ["*", "/", "%"]]

/-- The operators of assignments. -/
def assignments : List (String × String) :=
  [("+=", "+"), ("-=", "-"), ("*=", "*"), ("/=", "/"), ("%=", "%"), ("=", "")]

/-- What follows the blanks. -/
def skip (cs : List Char) : List Char := cs.dropWhile fun c => c = ' ' || c = '\t' || c = '\n'

/-- Which of the operators stands at the start, and what follows it. An
operator that is only the start of another one does not count. -/
def operatorAt? (ops : List String) (cs : List Char) : Option (String × List Char) :=
  ops.findSome? fun op =>
    (dropLead? op.toList cs).bind fun rest =>
      match op, rest with
      | "|", '|' :: _ => none
      | "&", '&' :: _ => none
      | "<", '<' :: _ => none
      | ">", '>' :: _ => none
      | _, '=' :: _ => if ["==", "!=", "<=", ">="].contains op then some (op, rest) else none
      | _, _ => some (op, rest)

/-- The name of a variable and the operator of an assignment to it. -/
def target? (cs : List Char) : Option (String × String × List Char) :=
  match cs with
  | [] => none
  | c :: _ =>
    if isDigit c then none
    else
      match cs.span isIdentChar with
      | ([], _) => none
      | (name, rest) =>
        assignments.findSome? fun a =>
          (dropLead? a.1.toList (skip rest)).bind fun rest =>
            match rest with
            | '=' :: _ => none
            | _ => some (String.ofList name, a.2, rest)

mutual

/-- A whole expression. -/
def expression : (fuel : Nat) → List Char → Option (Expr × List Char)
  | 0, _ => none
  | fuel + 1, cs =>
    match target? (skip cs) with
    | some (n, op, rest) => (expression fuel rest).map fun r => (.assign n op r.1, r.2)
    | none =>
      match level fuel levels cs with
      | none => none
      | some (c, rest) =>
        match skip rest with
        | '?' :: rest =>
          match expression fuel rest with
          | none => none
          | some (a, rest) =>
            match skip rest with
            | ':' :: rest => (expression fuel rest).map fun r => (.choice c a r.1, r.2)
            | _ => none
        | rest => some (c, rest)

/-- An expression with operators of these levels only. -/
def level : (fuel : Nat) → List (List String) → List Char → Option (Expr × List Char)
  | 0, _, _ => none
  | fuel + 1, [], cs => operand fuel (skip cs)
  | fuel + 1, ops :: stronger, cs =>
    match level fuel stronger cs with
    | none => none
    | some (a, rest) => levelRest fuel ops stronger a rest

/-- The operators of a level behind an expression. -/
def levelRest : (fuel : Nat) → List String → List (List String) → Expr → List Char →
    Option (Expr × List Char)
  | 0, _, _, _, _ => none
  | fuel + 1, ops, stronger, a, cs =>
    match operatorAt? ops (skip cs) with
    | none => some (a, skip cs)
    | some (op, rest) =>
      match level fuel stronger rest with
      | none => none
      | some (b, rest) => levelRest fuel ops stronger (.binary op a b) rest

/-- An expression without operators between its parts. -/
def operand : (fuel : Nat) → List Char → Option (Expr × List Char)
  | 0, _ => none
  | _ + 1, [] => none
  | fuel + 1, c :: rest =>
    if c = '(' then
      match expression fuel rest with
      | some (e, ')' :: rest) => some (e, rest)
      | _ => none
    else if c = '-' || c = '+' || c = '!' || c = '~' then
      (operand fuel (skip rest)).map fun r => (.unary (String.singleton c) r.1, r.2)
    else if isDigit c then
      let (digits, after) := (c :: rest).span isDigit
      match digits, after with
      | ['0'], 'x' :: after =>
        let (digits, after) := hexDigits (after.length + 1) after
        some (.number (hexValue digits), after)
      | '0' :: _, _ =>
        let (n, after) := octal (rest.length + 1) (c :: rest)
        some (.number n, after)
      | digits, after => some (.number (digitsValue digits), after)
    else
      match (c :: rest).span isIdentChar with
      | ([], _) => none
      | (name, rest) => some (.name (String.ofList name), rest)

end

/-- The expression of a text; an empty text is zero. -/
def parse (cs : List Char) : Except Trouble Expr :=
  if (skip cs).isEmpty then .ok (.number 0)
  else
    match expression (16 * cs.length + 64) cs with
    | some (e, rest) => if (skip rest).isEmpty then .ok e else .error .leftOver
    | none => .error .noOperand

/-- A number in the range of machine words. -/
def wrap (n : Int) : Int := Int.bmod n wordLimit

/-- The value of an operator. -/
def applied (op : String) (a b : Int) : Except Trouble Int :=
  let truth (b : Bool) : Except Trouble Int := .ok (if b then 1 else 0)
  if op = "+" then .ok (wrap (a + b))
  else if op = "-" then .ok (wrap (a - b))
  else if op = "*" then .ok (wrap (a * b))
  else if op = "/" then if b = 0 then .error .divisionByZero else .ok (wrap (Int.tdiv a b))
  else if op = "%" then if b = 0 then .error .divisionByZero else .ok (Int.tmod a b)
  else if op = "==" then truth (a == b)
  else if op = "!=" then truth (a != b)
  else if op = "<" then truth (a < b)
  else if op = "<=" then truth (a ≤ b)
  else if op = ">" then truth (a > b)
  else if op = ">=" then truth (a ≥ b)
  else if op = "&&" then truth (a != 0 && b != 0)
  else if op = "||" then truth (a != 0 || b != 0)
  else if op = "&" then .ok (Int64.toInt (Int64.ofInt a &&& Int64.ofInt b))
  else if op = "|" then .ok (Int64.toInt (Int64.ofInt a ||| Int64.ofInt b))
  else if op = "^" then .ok (Int64.toInt (Int64.ofInt a ^^^ Int64.ofInt b))
  else if op = "<<" then .ok (wrap (a * (twoTo b.toNat : Int)))
  else if op = ">>" then .ok (a / (twoTo b.toNat : Int))
  else .ok b

/-- The number that a variable holds; zero if it holds nothing. -/
def numberIn (vars : Table String String) (n : String) : Except Trouble Int :=
  match vars.get? n with
  | none => .ok 0
  | some v =>
    match wholeNumber v.toList with
    | (n, true, []) => .ok n
    | _ => if v.isEmpty then .ok 0 else .error (.notNumber v)

/-- The value of an expression and the variables after it. -/
def eval (e : Expr) (vars : Table String String) : Except Trouble (Int × Table String String) :=
  match e with
  | .number n => .ok (wrap n, vars)
  | .name n => (numberIn vars n).map fun x => (x, vars)
  | .unary op e =>
    (eval e vars).map fun r =>
      (if op = "-" then wrap (-r.1)
       else if op = "!" then (if r.1 = 0 then 1 else 0)
       else if op = "~" then -r.1 - 1
       else r.1, r.2)
  | .binary op a b =>
    match eval a vars with
    | .error t => .error t
    | .ok (x, vars) =>
      if op = "&&" && x = 0 then .ok (0, vars)
      else if op = "||" && x ≠ 0 then .ok (1, vars)
      else
        match eval b vars with
        | .error t => .error t
        | .ok (y, vars) => (applied op x y).map fun z => (z, vars)
  | .choice c a b =>
    match eval c vars with
    | .error t => .error t
    | .ok (x, vars) => if x = 0 then eval b vars else eval a vars
  | .assign n op e =>
    match eval e vars with
    | .error t => .error t
    | .ok (y, vars) =>
      match if op.isEmpty then .ok y else (numberIn vars n).bind fun x => applied op x y with
      | .error t => .error t
      | .ok z => .ok (z, vars.set n (toString z))

end Arithmetic
end Machine
end CodeDesk
