import CodeDesk.Text.Split

/-!
# Shortest decimal texts of floating point numbers

A finite double is `m · 2 ^ e` with whole `m` and `e`, and every real that
is nearer to it than to its neighbours reads back as it. The shortest text
is the decimal of fewest digits among those reals; of several, the nearest
one. Everything is computed in whole numbers.
-/

namespace CodeDesk
namespace Decimal

/-- A finite positive number `digits · 10 ^ exponent`. -/
structure Digits where
  /-- The significant digits as a number. -/
  digits : Nat
  /-- The power of ten they are multiplied with. -/
  exponent : Int
  deriving DecidableEq, Repr, Inhabited

/-- A double taken apart. -/
inductive Parts where
  /-- Not a number. -/
  | nan
  /-- An infinity. -/
  | infinite (negative : Bool)
  /-- Zero. -/
  | zero (negative : Bool)
  /-- The number `mantissa · 2 ^ exponent`; `edge` says that the next
  smaller number is only half as far away as the next greater one. -/
  | finite (negative : Bool) (mantissa : Nat) (exponent : Int) (edge : Bool)
  deriving DecidableEq, Repr, Inhabited

/-- The parts of the double with the given bits. -/
def Parts.ofBits (bits : Nat) : Parts :=
  let negative := bits / twoTo 63 % 2 == 1
  let e : Nat := bits / twoTo 52 % twoTo 11
  let m : Nat := bits % twoTo 52
  if e = twoTo 11 - 1 then if m = 0 then .infinite negative else .nan
  else if e = 0 then if m = 0 then .zero negative else .finite negative m (-1074) false
  else .finite negative (m + twoTo 52) ((e : Int) - 1075) (m == 0 && e != 1)

/-- The number of decimal digits of `n`. -/
def length (n : Nat) : Nat := (Nat.toDigits 10 n).length

/-- The power of ten of the first digit of `m · 2 ^ e`. -/
def leading (m : Nat) (e : Int) : Int :=
  (length (m * twoTo e.toNat * tenTo 400 / twoTo (-e).toNat) : Int) - 401

/-- The shortest digits of `m · 2 ^ e`. All bounds are scaled to whole
numbers: `v` is the number, `low` and `high` are the distances to the ends
of the reals that read back as it. -/
def shortestFrom (m : Nat) (e : Int) (edge : Bool) : (count fuel : Nat) → Digits
  | _, 0 => ⟨m, e⟩
  | count, fuel + 1 =>
    let p : Int := leading m e - (count : Int) + 1
    let s := (2 - e).toNat
    let t := (-p).toNat
    let unit := twoTo (e + s - 2).toNat * tenTo t
    let v := 4 * m * unit
    let low := if edge then unit else 2 * unit
    let high := 2 * unit
    let grid := tenTo (p + t).toNat * twoTo s
    let a := v / grid
    let within (d : Nat) : Bool :=
      let x := d * grid
      if m % 2 = 0 then v ≤ x + low && x ≤ v + high else v < x + low && x < v + high
    let below := within a
    let above := within (a + 1)
    if below && (!above || v - a * grid ≤ (a + 1) * grid - v) then ⟨a, p⟩
    else if above then ⟨a + 1, p⟩
    else shortestFrom m e edge (count + 1) fuel

/-- Digits without zeros at the end. -/
def trimZeros : (fuel : Nat) → Digits → Digits
  | 0, d => d
  | fuel + 1, d =>
    if d.digits != 0 && d.digits % 10 == 0 then trimZeros fuel ⟨d.digits / 10, d.exponent + 1⟩
    else d

/-- The shortest digits of `m · 2 ^ e`; seventeen always suffice. -/
def shortest (m : Nat) (e : Int) (edge : Bool) : Digits :=
  trimZeros 20 (shortestFrom m e edge 1 17)

/-- A decimal written out in full, without an exponent. -/
def positional (d : Digits) : String :=
  let ds := Nat.toDigits 10 d.digits
  if 0 ≤ d.exponent then String.ofList (ds ++ List.replicate d.exponent.toNat '0')
  else
    let places := (-d.exponent).toNat
    let ds := List.replicate (places + 1 - ds.length) '0' ++ ds
    let whole := ds.take (ds.length - places)
    String.ofList (whole ++ '.' :: ds.drop (ds.length - places))

/-- A decimal with one digit before the point and a power of ten. -/
def scientific (d : Digits) : String :=
  let ds := Nat.toDigits 10 d.digits
  let power : Int := d.exponent + ds.length - 1
  let head := ds.take 1
  let rest := ds.drop 1
  String.ofList (head ++ if rest.isEmpty then [] else '.' :: rest) ++ s!"e{power}"

/-- The sign of a number in front of its text. -/
def signed (negative : Bool) (s : String) : String := if negative then "-" ++ s else s

/-- A text with a fraction, `.0` if it has none. -/
def withFraction (d : Digits) : String :=
  if 0 ≤ d.exponent then positional d ++ ".0" else positional d

/-- The display form: always with a fraction, and a power of ten below
`1e-4` and from `1e16` on. -/
def display (x : Float) : String :=
  match Parts.ofBits x.toBits.toNat with
  | .nan => "NaN"
  | .infinite n => signed n "inf"
  | .zero n => signed n "0.0"
  | .finite n m e edge =>
    let d := shortest m e edge
    let power : Int := d.exponent + length d.digits - 1
    signed n (if -4 ≤ power && power < 16 then withFraction d else scientific d)

/-- The form of documents: always with a fraction and never with a power of
ten; the sign of what is not a number is not written. -/
def document (x : Float) : String :=
  match Parts.ofBits x.toBits.toNat with
  | .nan => "nan"
  | .infinite n => signed n "inf"
  | .zero n => signed n "0.0"
  | .finite n m e edge => signed n (withFraction (shortest m e edge))

/-- The double nearest to `digits · 10 ^ exponent`. -/
def toFloat (negative : Bool) (digits : Nat) (exponent : Int) : Float :=
  let size : Int := exponent + length digits
  let x :=
    if digits = 0 || size < -400 then 0.0
    else if 400 < size then 1.0 / 0.0
    else if 0 ≤ exponent then Float.ofScientific digits false exponent.toNat
    else Float.ofScientific digits true (-exponent).toNat
  if negative then -x else x

/-- The digits and the power of ten of a decimal's parts: the whole part,
the fraction and the written power. -/
def combine (whole fraction : List Char) (power : Int) : Nat × Int :=
  (digitsValue (whole ++ fraction), power - fraction.length)

/-- A power of ten: digits after an optional sign. -/
def power? (cs : List Char) : Option Int :=
  let (negative, ds) := match cs with
    | '-' :: ds => (true, ds)
    | '+' :: ds => (false, ds)
    | ds => (false, ds)
  if ds.isEmpty || !ds.all isDigit then none
  else
    let n : Int := digitsValue ds
    some (if negative then -n else n)

/-- A decimal without sign: digits with at most one point, at least one
digit, and an optional power of ten. -/
def unsigned? (cs : List Char) : Option (Nat × Int) :=
  let whole := cs.takeWhile isDigit
  let rest := cs.dropWhile isDigit
  let (fraction, rest) := match rest with
    | '.' :: more => (more.takeWhile isDigit, more.dropWhile isDigit)
    | _ => ([], rest)
  if whole.isEmpty && fraction.isEmpty then none
  else match rest with
    | [] => some (combine whole fraction 0)
    | c :: more =>
      if c = 'e' || c = 'E' then (power? more).map (combine whole fraction) else none

/-- The number a text stands for: a decimal, `inf`, `infinity` or `nan` in
any case, with an optional sign. -/
def parse? (s : String) : Option Float :=
  let (negative, cs) := match s.toList with
    | '-' :: cs => (true, cs)
    | '+' :: cs => (false, cs)
    | cs => (false, cs)
  let word := String.ofList (cs.map Char.toLower)
  if word == "inf" || word == "infinity" then
    some (if negative then -(1.0 / 0.0) else 1.0 / 0.0)
  else if word == "nan" then some (0.0 / 0.0)
  else (unsigned? cs).map fun d => toFloat negative d.1 d.2

end Decimal
end CodeDesk
