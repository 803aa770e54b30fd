/-!
# UTF-8

Texts as bytes and back. Reading never fails: every maximal part of the
bytes that begins no character is reported as one gap, and the lossy form
puts the replacement character there.

A part of a text can be taken between bytes at which characters begin, or the
text ends; `none` tells that there is no such part.
-/

namespace CodeDesk

/-- The contents of a file. -/
abbrev Bytes := List UInt8

namespace Utf8

/-- Whether `b` continues a character. -/
def isTail (b : UInt8) : Bool := 0x80 ≤ b && b ≤ 0xBF

/-- Whether `b` may follow the first byte `a` of a longer character. -/
def isSecond (a b : UInt8) : Bool :=
  if a = 0xE0 then 0xA0 ≤ b && b ≤ 0xBF
  else if a = 0xED then 0x80 ≤ b && b ≤ 0x9F
  else if a = 0xF0 then 0x90 ≤ b && b ≤ 0xBF
  else if a = 0xF4 then 0x80 ≤ b && b ≤ 0x8F
  else isTail b

/-- The payload of a continuing byte. -/
def tailBits (b : UInt8) : Nat := b.toNat % 0x40

/-- The character that starts with byte `a`, or `none` for a gap, and how
many of the following bytes belong to it. -/
def next (a : UInt8) (rest : Bytes) : Option Char × Nat :=
  if a < 0x80 then (some (Char.ofNat a.toNat), 0)
  else if 0xC2 ≤ a && a ≤ 0xDF then
    match rest with
    | b :: _ =>
      if isTail b then (some (Char.ofNat (a.toNat % 0x20 * 0x40 + tailBits b)), 1) else (none, 0)
    | [] => (none, 0)
  else if 0xE0 ≤ a && a ≤ 0xEF then
    match rest with
    | b :: c :: _ =>
      if !isSecond a b then (none, 0)
      else if !isTail c then (none, 1)
      else (some (Char.ofNat ((a.toNat % 0x10 * 0x40 + tailBits b) * 0x40 + tailBits c)), 2)
    | [b] => (none, if isSecond a b then 1 else 0)
    | [] => (none, 0)
  else if 0xF0 ≤ a && a ≤ 0xF4 then
    match rest with
    | b :: c :: d :: _ =>
      if !isSecond a b then (none, 0)
      else if !isTail c then (none, 1)
      else if !isTail d then (none, 2)
      else
        let high := (a.toNat % 0x8 * 0x40 + tailBits b) * 0x40 + tailBits c
        (some (Char.ofNat (high * 0x40 + tailBits d)), 3)
    | [b, c] => (none, if !isSecond a b then 0 else if isTail c then 2 else 1)
    | [b] => (none, if isSecond a b then 1 else 0)
    | [] => (none, 0)
  else (none, 0)

/-- The characters of the bytes, `none` for each gap. -/
def decode : Bytes → List (Option Char)
  | [] => []
  | a :: rest => (next a rest).1 :: decode (rest.drop (next a rest).2)
termination_by bs => bs.length
decreasing_by simp only [List.length_drop, List.length_cons]; omega

/-- The text of the bytes, with the replacement character for each gap. -/
def decodeLossy (bs : Bytes) : String :=
  String.ofList ((decode bs).map fun c => c.getD '\ufffd')

/-- The text of the bytes, if they have no gap. -/
def decode? (bs : Bytes) : Option String :=
  ((decode bs).mapM id).map String.ofList

/-- The bytes of a text. -/
def encode (s : String) : Bytes :=
  s.toList.flatMap String.utf8EncodeChar

/-- The number of bytes of a list of characters. -/
def size : List Char → Nat
  | [] => 0
  | c :: cs => c.utf8Size + size cs

/-- The characters from byte number `n` on. -/
def drop? : List Char → (n : Nat) → Option (List Char)
  | cs, 0 => some cs
  | [], _ + 1 => none
  | c :: cs, n + 1 => if c.utf8Size ≤ n + 1 then drop? cs (n + 1 - c.utf8Size) else none

/-- The characters before byte number `n`. -/
def take? : List Char → (n : Nat) → Option (List Char)
  | _, 0 => some []
  | [], _ + 1 => none
  | c :: cs, n + 1 =>
    if c.utf8Size ≤ n + 1 then (take? cs (n + 1 - c.utf8Size)).map (c :: ·) else none

/-- The characters from byte number `s` up to byte number `e`. -/
def slice? (cs : List Char) (s e : Nat) : Option (List Char) :=
  if s ≤ e then (drop? cs s).bind fun rest => take? rest (e - s) else none

end Utf8
end CodeDesk
