import CodeDesk.Text.Split
import CodeDesk.Text.Utf8

/-!
# Escapes

What a backslash and the characters behind it stand for in a text that is
printed. The shell and the programs differ in a few escapes, and an
`EscapeStyle` says in which.
-/

namespace CodeDesk
namespace Machine

/-- Which escapes there are besides the common ones. -/
structure EscapeStyle where
  /-- Whether an octal number has a zero in front. -/
  zeroFirst : Bool
  /-- Whether a byte or a character may be given by its hexadecimal number. -/
  hex : Bool
  /-- Whether an escape ends the output. -/
  stops : Bool
  deriving DecidableEq, Repr, Inhabited

namespace EscapeStyle

/-- The escapes of the formats of the shell. -/
def shellFormat : EscapeStyle := ⟨false, false, false⟩

/-- The escapes of the texts that the shell prints. -/
def shellText : EscapeStyle := ⟨true, false, true⟩

/-- The escapes of the formats of programs. -/
def format : EscapeStyle := ⟨false, true, true⟩

/-- The escapes of the texts that programs print. -/
def text : EscapeStyle := ⟨true, true, true⟩

end EscapeStyle

/-- A byte of a number. -/
def byteOf (n : Nat) : Bytes := [UInt8.ofNat n]

/-- The bytes of a character. -/
def charBytes (c : Char) : Bytes := Utf8.encode (String.singleton c)

/-- The value of at most `limit` octal digits, and what follows them. -/
def octal (limit : Nat) (cs : List Char) : Nat × List Char :=
  let ds := (cs.takeWhile fun c => '0' ≤ c && c ≤ '7').take limit
  (ds.foldl (fun n c => 8 * n + (c.toNat - '0'.toNat)) 0, cs.drop ds.length)

/-- At most `limit` hexadecimal digits, and what follows them. -/
def hexDigits (limit : Nat) (cs : List Char) : List Char × List Char :=
  let ds := (cs.takeWhile fun c => (hexDigit? c).isSome).take limit
  (ds, cs.drop ds.length)

/-- The byte of an escape of one character. -/
def escaped? (c : Char) : Option Nat :=
  if c = 'a' then some 7
  else if c = 'b' then some 8
  else if c = 'e' then some 27
  else if c = 'f' then some 12
  else if c = 'n' then some 10
  else if c = 'r' then some 13
  else if c = 't' then some 9
  else if c = 'v' then some 11
  else if c = '\\' then some 92
  else none

/-- The bytes of an escape, of which the backslash has been read, and what
follows it; no bytes where the output ends. What is not an escape stands
for itself, and so does a character beyond ASCII that is given by its
number. -/
def escape (style : EscapeStyle) (cs : List Char) : Option Bytes × List Char :=
  match cs with
  | [] => (some (byteOf 92), [])
  | c :: rest =>
    match escaped? c with
    | some n => (some (byteOf n), rest)
    | none =>
      if c = 'c' && style.stops then (none, rest)
      else if c = '0' && style.zeroFirst then
        let (n, rest) := octal 3 rest
        (some (byteOf n), rest)
      else if '0' ≤ c && c ≤ '7' then
        let (n, rest) := octal 3 cs
        (some (byteOf n), rest)
      else if c = 'x' && style.hex && !(hexDigits 2 rest).1.isEmpty then
        let (ds, rest) := hexDigits 2 rest
        (some (byteOf (hexValue ds)), rest)
      else if c = 'u' && style.hex && (hexDigits 4 rest).1.length = 4 then
        let (ds, rest) := hexDigits 4 rest
        let shown := Utf8.encode ("\\u" ++ (String.ofList ds).toUpper)
        (some (if hexValue ds < 128 then byteOf (hexValue ds) else shown), rest)
      else if c = '"' && style.hex && !style.zeroFirst then (some (byteOf 34), rest)
      else (some (byteOf 92 ++ charBytes c), rest)

/-- A text with its escapes, and whether the output goes on after it. -/
def unescape (style : EscapeStyle) : (fuel : Nat) → List Char → Bytes × Bool
  | 0, _ => ([], true)
  | _ + 1, [] => ([], true)
  | fuel + 1, '\\' :: rest =>
    match escape style rest with
    | (none, _) => ([], false)
    | (some bytes, rest) =>
      let (more, goesOn) := unescape style fuel rest
      (bytes ++ more, goesOn)
  | fuel + 1, c :: rest =>
    let (more, goesOn) := unescape style fuel rest
    (charBytes c ++ more, goesOn)

/-- A text with its escapes, and whether the output goes on after it. -/
def unescaped (style : EscapeStyle) (s : String) : Bytes × Bool :=
  unescape style (s.length + 1) s.toList

end Machine
end CodeDesk
