import CodeDesk.Data.Power

/-!
# Document values

What a document of either format denotes: scalars, lists, and maps whose
members keep their order and may repeat. The readers below take a value
apart for a program that expects a certain shape, and answer `none` when
the value has another one.
-/

namespace CodeDesk

/-- The contents of a document. -/
inductive Value where
  /-- The absent value. -/
  | null
  /-- A truth value. -/
  | bool (b : Bool)
  /-- A whole number. -/
  | int (n : Int)
  /-- A floating point number. -/
  | float (x : Float)
  /-- A text. -/
  | text (s : String)
  /-- A list of values. -/
  | list (items : List Value)
  /-- Named values in their order. -/
  | map (members : List (String × Value))
  /-- A scalar that stands for nothing, such as a number beyond every
  range: it may be skipped and never be read. -/
  | unreadable
  deriving Inhabited

namespace Value

/-- The text of a text. -/
def text? : Value → Option String
  | text s => some s
  | _ => none

/-- The truth value of a truth value. -/
def bool? : Value → Option Bool
  | bool b => some b
  | _ => none

/-- A whole number from zero below `limit`. -/
def nat? (limit : Nat) : Value → Option Nat
  | int n => if 0 ≤ n && n < limit then some n.toNat else none
  | _ => none

/-- A whole number from `-2 ^ (bits - 1)` below `2 ^ (bits - 1)`. -/
def int? (bits : Nat) : Value → Option Int
  | int n => if -(twoTo (bits - 1) : Int) ≤ n && n < twoTo (bits - 1) then some n else none
  | _ => none

/-- A machine word. -/
def word? : Value → Option Nat := nat? wordLimit

/-- A number as a floating point number. -/
def float? : Value → Option Float
  | float x => some x
  | int n => some (Float.ofInt n)
  | _ => none

/-- The items of a list. -/
def list? : Value → Option (List Value)
  | list items => some items
  | _ => none

/-- The items of a list, each read by `f`. -/
def listOf? {α : Type} (f : Value → Option α) (v : Value) : Option (List α) :=
  v.list?.bind fun items => items.mapM f

/-- The members of a map. -/
def map? : Value → Option (List (String × Value))
  | map ms => some ms
  | _ => none

/-- The last member of the given name. -/
def get? (v : Value) (name : String) : Option Value :=
  match v with
  | map ms => (ms.reverse.find? fun m => m.1 == name).map Prod.snd
  | _ => none

/-- Whether some name of `names` occurs twice among the members. -/
def repeats (names : List String) (ms : List (String × Value)) : Bool :=
  names.any fun n => 1 < (ms.filter fun m => m.1 == n).length

/-- The fields of a record, in the order of `names`. A record is written as
a map, in which no field may occur twice and other members are skipped, or
as a list of its first fields. -/
def record? (names : List String) : Value → Option (List (Option Value))
  | map ms =>
    if repeats names ms then none
    else some (names.map fun n => (ms.find? fun m => m.1 == n).map Prod.snd)
  | list items =>
    if names.length < items.length then none
    else some (items.map some ++ List.replicate (names.length - items.length) none)
  | _ => none

/-- Read a field that must be there. -/
def required {α : Type} (f : Value → Option α) : Option Value → Option α
  | some v => f v
  | none => none

/-- Read a field that has a value of its own when it is missing. -/
def defaulted {α : Type} (fallback : α) (f : Value → Option α) : Option Value → Option α
  | some v => f v
  | none => some fallback

/-- A choice among named constants: its name, or a map from its name to a
value that `isUnit` accepts. -/
def variant? {α : Type} (isUnit : Value → Bool) (names : List (String × α)) : Value → Option α
  | text s => (names.find? fun n => n.1 == s).map Prod.snd
  | map [(s, v)] => if isUnit v then (names.find? fun n => n.1 == s).map Prod.snd else none
  | _ => none

/-- What stands for nothing in a format that has a null value. -/
def isNull : Value → Bool
  | null => true
  | _ => false

/-- What stands for nothing in a format without a null value. -/
def isVoid : Value → Bool
  | list [] => true
  | map [] => true
  | _ => false

/-- Members in which every name occurs once, with its last value at its
first place. -/
def lastMembers (ms : List (String × Value)) : List (String × Value) :=
  ms.foldl (fun seen m =>
    if seen.any fun s => s.1 == m.1 then seen.map fun s => if s.1 == m.1 then m else s
    else seen ++ [m]) []

mutual

/-- The value with every repeated name reduced to its last value. -/
def lastWins : Value → Value
  | list items => list (lastWinsItems items)
  | map ms => map (lastMembers (lastWinsMembers ms))
  | v => v

/-- `lastWins` of every item. -/
def lastWinsItems : List Value → List Value
  | [] => []
  | v :: vs => lastWins v :: lastWinsItems vs

/-- `lastWins` of every member. -/
def lastWinsMembers : List (String × Value) → List (String × Value)
  | [] => []
  | (n, v) :: ms => (n, lastWins v) :: lastWinsMembers ms

end

/-- A list of texts. -/
def texts (ss : List String) : Value := list (ss.map text)

/-- A whole number. -/
def nat (n : Nat) : Value := int n

/-- The value of an option, or null. -/
def ofOption {α : Type} (f : α → Value) : Option α → Value
  | some a => f a
  | none => null

end Value
end CodeDesk
