import CodeDesk.Regex.Expr

/-!
# Patterns

The syntax of patterns. A reader takes the characters ahead and answers
with the expression it read and what is left, or with `none` where the
pattern is not well formed. Letters between `(?` and `)` set flags for the
rest of the enclosing group.
-/

namespace CodeDesk
namespace Regex

open Unicode

/-- The flags in force at a place of a pattern. -/
structure Flags where
  /-- Letters match either case (`i`). -/
  ignoreCase : Bool
  /-- `^` and `$` match at lines (`m`). -/
  multiLine : Bool
  /-- `.` matches line breaks (`s`). -/
  dotAll : Bool
  /-- Repetitions are lazy unless marked (`U`). -/
  swapGreed : Bool
  /-- Classes know all of Unicode (`u`). -/
  unicode : Bool
  /-- Blanks and comments are skipped (`x`). -/
  spaced : Bool
  /-- A line break may have two characters (`R`). -/
  wideBreaks : Bool
  deriving DecidableEq, Repr, Inhabited

/-- The flags a pattern starts with. -/
def Flags.initial (ignoreCase : Bool) : Flags :=
  ⟨ignoreCase, false, false, false, true, false, false⟩

/-- Set the flag a letter stands for. -/
def Flags.set? (f : Flags) (on : Bool) : Char → Option Flags
  | 'i' => some { f with ignoreCase := on }
  | 'm' => some { f with multiLine := on }
  | 's' => some { f with dotAll := on }
  | 'U' => some { f with swapGreed := on }
  | 'u' => some { f with unicode := on }
  | 'x' => some { f with spaced := on }
  | 'R' => some { f with wideBreaks := on }
  | _ => none

/-- The flag letters up to the colon or bracket that ends them. No letter
may occur twice, and a minus sign must be followed by a letter. -/
def flagLetters (f : Flags) (on : Bool) (seen : List Char) :
    List Char → Option (Flags × List Char × List Char)
  | [] => none
  | c :: cs =>
    if c = ':' || c = ')' then
      if seen.head? == some '-' then none else some (f, seen, c :: cs)
    else if seen.contains c then none
    else if c = '-' then flagLetters f false ('-' :: seen) cs
    else
      match f.set? on c with
      | some f => flagLetters f on (c :: seen) cs
      | none => none

/-- The text without a comment's rest. -/
def skipLine : List Char → List Char
  | [] => []
  | c :: cs => if c = '\n' then cs else skipLine cs

/-- The text without blanks and comments, where they are skipped. -/
def skipSpace (f : Flags) : (fuel : Nat) → List Char → List Char
  | 0, cs => cs
  | fuel + 1, cs =>
    if !f.spaced then cs
    else
      match cs with
      | c :: rest =>
        if whiteSpace.contains c then skipSpace f fuel rest
        else if c = '#' then skipSpace f fuel (skipLine rest)
        else cs
      | [] => []

/-- `skipSpace` with enough fuel. -/
def skip (f : Flags) (cs : List Char) : List Char := skipSpace f (cs.length + 1) cs

/-- Characters with a meaning of their own in patterns. -/
def isMeta (c : Char) : Bool :=
  ['\\', '.', '+', '*', '?', '(', ')', '|', '[', ']', '\x7b', '\x7d', '^', '$', '#', '&', '-',
    '~'].contains c

/-- A pattern that matches a text as it stands. -/
def escape (s : String) : String :=
  String.ofList (s.toList.flatMap fun c => if isMeta c then ['\\', c] else [c])

/-- A name without case, separators and a leading `is`. -/
def looseName (cs : List Char) : String :=
  let low := (cs.filter fun c => c ≠ ' ' && c ≠ '_' && c ≠ '-' && c.toNat < 0x80).map Char.toLower
  match low with
  | 'i' :: 's' :: rest => if rest = ['c'] then "isc" else String.ofList rest
  | _ => String.ofList low

/-- The set a property, category or script name stands for. -/
def namedSet? (name : String) : Option CharSet :=
  match (if ["cf", "sc", "lc"].contains name then none else propertyNamed? name) with
  | some s => some s
  | none =>
    match categoryNamed? name with
    | some s => some s
    | none => scriptNamed? name

/-- The set of a class `name=value`. -/
def valuedSet? (name value : String) : Option CharSet :=
  if ["generalcategory", "gc"].contains name then categoryNamed? value
  else if ["script", "sc", "scriptextensions", "scx"].contains name then scriptNamed? value
  else none

/-- The set of a class by the text between its braces, and whether the text
itself negates it. -/
def classOfText? (cs : List Char) : Option (Bool × CharSet) :=
  match cutFirst '=' cs with
  | some (name, value) =>
    match name.reverse with
    | '!' :: name => (valuedSet? (looseName name.reverse) (looseName value)).map fun s => (true, s)
    | _ => (valuedSet? (looseName name) (looseName value)).map fun s => (false, s)
  | none =>
    match cutFirst ':' cs with
    | some (name, value) =>
      (valuedSet? (looseName name) (looseName value)).map fun s => (false, s)
    | none => (namedSet? (looseName cs)).map fun s => (false, s)

/-- A set with the case of its letters ignored, if asked for, and then
negated, if asked for. -/
def finishSet (f : Flags) (negated : Bool) (s : CharSet) : CharSet :=
  let s := if f.ignoreCase then s.foldCase else s
  if negated then s.complement else s

/-- The ASCII letters of a set in either case. -/
def foldAscii (s : CharSet) : CharSet :=
  let letters := (List.range 26).flatMap fun i =>
    (if s.containsCode (0x41 + i) then [(0x61 + i, 0x61 + i)] else []) ++
      (if s.containsCode (0x61 + i) then [(0x41 + i, 0x41 + i)] else [])
  CharSet.ofRanges (s.ranges.toList ++ letters)

/-- A set finished under the flags; without Unicode, only ASCII letters have
a case. -/
def finish (f : Flags) (negated : Bool) (s : CharSet) : CharSet :=
  if f.unicode then finishSet f negated s
  else
    let s := if f.ignoreCase then foldAscii s else s
    if negated then s.complement else s

/-- Without Unicode, a set must stay within ASCII. -/
def allowed? (f : Flags) (s : CharSet) : Option CharSet :=
  if f.unicode || s.isAscii then some s else none

/-- The digits, the white space or the word characters. -/
def perlSet (f : Flags) (c : Char) : CharSet :=
  if c = 'd' then
    if f.unicode then categories ["nd"] else CharSet.ofRanges [(0x30, 0x39)]
  else if c = 's' then
    if f.unicode then whiteSpace else CharSet.ofRanges [(0x9, 0xD), (0x20, 0x20)]
  else if f.unicode then wordChars else asciiWordChars

/-- What an escape stands for. -/
inductive Escape where
  /-- One character; `byte` says that it was written as a byte. -/
  | char (c : Char) (byte : Bool)
  /-- A set of characters. -/
  | set (s : CharSet)
  /-- A condition on the place. -/
  | look (l : Look)

/-- The character with code `n`, if it is one. -/
def scalar? (n : Nat) : Option Char :=
  if n < 0xD800 || (0xE000 ≤ n && n < 0x110000) then some (Char.ofNat n) else none

/-- Exactly `n` hexadecimal digits. -/
def hexRun? (f : Flags) : (n acc : Nat) → List Char → Option (Nat × List Char)
  | 0, acc, cs => some (acc, cs)
  | n + 1, acc, cs =>
    match skip f cs with
    | c :: rest =>
      match hexDigit? c with
      | some d => hexRun? f n (16 * acc + d) rest
      | none => none
    | [] => none

/-- A character by its code, after the letter that asks for `n` digits. -/
def hexEscape? (f : Flags) (n : Nat) (cs : List Char) : Option (Escape × List Char) :=
  match skip f cs with
  | '\x7b' :: rest =>
    match cutFirst '\x7d' rest with
    | some (ds, rest) =>
      let ds := ds.filter fun c => !(f.spaced && whiteSpace.contains c)
      if ds.isEmpty || ds.any fun c => (hexDigit? c).isNone then none
      else (scalar? (hexValue ds)).map fun c => (.char c false, rest)
    | none => none
  | rest =>
    match hexRun? f n 0 rest with
    | some (code, rest) => (scalar? code).map fun c => (.char c (n == 2), rest)
    | none => none

/-- A class after `\p` or `\P`. -/
def classEscape? (f : Flags) (negated : Bool) (cs : List Char) : Option (Escape × List Char) :=
  if !f.unicode then none
  else
    match skip f cs with
    | '\x7b' :: rest =>
      match cutFirst '\x7d' rest with
      | some (name, rest) =>
        let name := name.filter fun c => !(f.spaced && whiteSpace.contains c)
        (classOfText? name).map fun p => (.set (finish f (negated != p.1) p.2), rest)
      | none => none
    | c :: rest =>
      if c = '\\' then none
      else (categoryNamed? (looseName [c])).map fun s => (.set (finish f negated s), rest)
    | [] => none

/-- The kind of word boundary between the braces after `\b`. -/
def boundaryNamed? (ascii : Bool) (name : String) : Option Look :=
  if name == "start" then some (.wordStart ascii)
  else if name == "end" then some (.wordEnd ascii)
  else if name == "start-half" then some (.halfStart ascii)
  else if name == "end-half" then some (.halfEnd ascii)
  else none

/-- A word boundary after `\b`. Braces name a kind of boundary when what
they hold looks like a name; otherwise they are read later. -/
def boundary? (f : Flags) (cs : List Char) : Option (Escape × List Char) :=
  let plain := some (Escape.look (.wordEdge (!f.unicode)), cs)
  match skip f cs with
  | '\x7b' :: rest =>
    match skip f rest with
    | [] => none
    | c :: more =>
      if c.isAlpha || c = '-' then
        match cutFirst '\x7d' (c :: more) with
        | some (name, after) =>
          let name := name.filter fun c => !(f.spaced && whiteSpace.contains c)
          if name.all fun c => c.isAlpha || c = '-' then
            (boundaryNamed? (!f.unicode) (String.ofList name)).map fun l => (.look l, after)
          else none
        | none => none
      else plain
  | _ => plain

/-- What follows a backslash. -/
def escape? (f : Flags) : List Char → Option (Escape × List Char)
  | [] => none
  | c :: cs =>
    let ascii := !f.unicode
    let char (c : Char) : Option (Escape × List Char) := some (.char c false, cs)
    if isDigit c then none
    else if c = 'x' then hexEscape? f 2 cs
    else if c = 'u' then hexEscape? f 4 cs
    else if c = 'U' then hexEscape? f 8 cs
    else if c = 'p' then classEscape? f false cs
    else if c = 'P' then classEscape? f true cs
    else if c = 'd' || c = 's' || c = 'w' then some (.set (perlSet f c), cs)
    else if c = 'D' || c = 'S' || c = 'W' then some (.set (perlSet f c.toLower).complement, cs)
    else if isMeta c then char c
    else if c = 'a' then char '\x07'
    else if c = 'f' then char '\x0c'
    else if c = 't' then char '\t'
    else if c = 'n' then char '\n'
    else if c = 'r' then char '\r'
    else if c = 'v' then char '\x0b'
    else if c = 'A' then some (.look .textStart, cs)
    else if c = 'z' then some (.look .textEnd, cs)
    else if c = 'B' then some (.look (.noWordEdge ascii), cs)
    else if c = 'b' then boundary? f cs
    else if c = '<' then some (.look (.wordStart ascii), cs)
    else if c = '>' then some (.look (.wordEnd ascii), cs)
    else if c.isAlpha then none
    else if c.toNat < 0x80 then char c
    else none

/-- The named ASCII classes between `[:` and `:]`. -/
def asciiClass? (name : String) : Option CharSet :=
  let set (rs : List (Nat × Nat)) : Option CharSet := some (CharSet.ofRanges rs)
  if name == "alnum" then set [(0x30, 0x39), (0x41, 0x5A), (0x61, 0x7A)]
  else if name == "alpha" then set [(0x41, 0x5A), (0x61, 0x7A)]
  else if name == "ascii" then set [(0, 0x7F)]
  else if name == "blank" then set [(0x9, 0x9), (0x20, 0x20)]
  else if name == "cntrl" then set [(0, 0x1F), (0x7F, 0x7F)]
  else if name == "digit" then set [(0x30, 0x39)]
  else if name == "graph" then set [(0x21, 0x7E)]
  else if name == "lower" then set [(0x61, 0x7A)]
  else if name == "print" then set [(0x20, 0x7E)]
  else if name == "punct" then set [(0x21, 0x2F), (0x3A, 0x40), (0x5B, 0x60), (0x7B, 0x7E)]
  else if name == "space" then set [(0x9, 0xD), (0x20, 0x20)]
  else if name == "upper" then set [(0x41, 0x5A)]
  else if name == "word" then some asciiWordChars
  else if name == "xdigit" then set [(0x30, 0x39), (0x41, 0x46), (0x61, 0x66)]
  else none

/-- A named ASCII class after its opening bracket, if there is one. -/
def namedClass? (f : Flags) (cs : List Char) : Option (CharSet × List Char) :=
  match cs with
  | ':' :: rest =>
    let (negated, rest) := match rest with
      | '^' :: more => (true, more)
      | _ => (false, rest)
    match cutFirst ':' rest with
    | some (name, ']' :: after) =>
      (asciiClass? (String.ofList name)).map fun s => (finish f negated s, after)
    | _ => none
  | _ => none

/-- An item of a class: a character or an escape. -/
def classItem? (f : Flags) : List Char → Option (Escape × List Char)
  | '\\' :: rest => escape? f rest
  | c :: rest => some (.char c false, rest)
  | [] => none

/-- The set of a single character within a class. -/
def itemSet? (f : Flags) : Escape → Option CharSet
  | .char c byte =>
    if !f.unicode && !byte && 0x80 ≤ c.toNat then none else some (CharSet.single c)
  | .set s => some s
  | .look _ => none

/-- The operations between the parts of a class. -/
inductive SetOp where
  /-- The members of both. -/
  | inter
  /-- The members of the left one only. -/
  | diff
  /-- The members of one of them only. -/
  | symmDiff

/-- The operation two equal characters stand for. -/
def setOp? (a b : Char) : Option SetOp :=
  if a ≠ b then none
  else if a = '&' then some .inter
  else if a = '-' then some .diff
  else if a = '~' then some .symmDiff
  else none

/-- Join what an operation has on its left with the part on its right. Case
is ignored on both sides. -/
def joinParts (f : Flags) (left : Option (SetOp × CharSet)) (right : CharSet) : CharSet :=
  match left with
  | none => right
  | some (op, l) =>
    let l := finish f false l
    let r := finish f false right
    match op with
    | .inter => CharSet.inter l r
    | .diff => CharSet.diff l r
    | .symmDiff => CharSet.symmDiff l r

/-- The dashes at the start of a class, which stand for themselves. -/
def leadingDashes (f : Flags) : (fuel : Nat) → List Char → Bool × List Char
  | 0, cs => (false, cs)
  | fuel + 1, cs =>
    match cs with
    | '-' :: rest => (true, (leadingDashes f fuel (skip f rest)).2)
    | _ => (false, cs)

/-- What opens a class after its bracket: whether it is negated, and the
characters at its start that stand for themselves. -/
def classStart (f : Flags) (cs : List Char) : Bool × CharSet × List Char :=
  let (negated, cs) := match skip f cs with
    | '^' :: rest => (true, skip f rest)
    | cs => (false, cs)
  let (dashes, cs) := leadingDashes f (cs.length + 1) cs
  if dashes then (negated, CharSet.single '-', cs)
  else
    match cs with
    | ']' :: rest => (negated, CharSet.single ']', skip f rest)
    | _ => (negated, CharSet.empty, cs)

/-- One character or a range of characters within a class. -/
def classRange? (f : Flags) (cs : List Char) : Option (CharSet × List Char) :=
  match classItem? f cs with
  | none => none
  | some (first, rest) =>
    let alone := (itemSet? f first).map fun s => (s, skip f rest)
    match skip f rest with
    | [] => none
    | '-' :: more =>
      let ahead := (skip f more).head?
      if ahead == some ']' || ahead == some '-' then alone
      else
        match classItem? f (skip f more) with
        | some (.char b byteB, rest) =>
          match first with
          | .char a byteA =>
            if b < a then none
            else if !f.unicode && ((!byteA && 0x80 ≤ a.toNat) || (!byteB && 0x80 ≤ b.toNat)) then
              none
            else some (CharSet.ofRanges [(a.toNat, b.toNat)], rest)
          | _ => none
        | _ => none
    | _ => alone

/-- The rest of a class up to its closing bracket: its set, how deeply
classes are nested in it, and what follows. -/
def classBody (f : Flags) : (fuel : Nat) → (negated : Bool) →
    (left : Option (SetOp × CharSet)) → (part : CharSet) → (depth : Nat) → List Char →
    Option (CharSet × Nat × List Char)
  | 0, _, _, _, _, _ => none
  | fuel + 1, negated, left, part, depth, cs =>
    match skip f cs with
    | [] => none
    | ']' :: rest =>
      match allowed? f (finish f negated (joinParts f left part)) with
      | some s => some (s, depth + 1, rest)
      | none => none
    | '[' :: rest =>
      match namedClass? f rest with
      | some (s, after) => classBody f fuel negated left (CharSet.union part s) depth after
      | none =>
        let (innerNegated, innerPart, rest) := classStart f rest
        match classBody f fuel innerNegated none innerPart 0 rest with
        | some (s, d, after) =>
          classBody f fuel negated left (CharSet.union part s) (max depth d) after
        | none => none
    | c :: rest =>
      match rest with
      | d :: more =>
        match setOp? c d with
        | some op =>
          classBody f fuel negated (some (op, joinParts f left part)) CharSet.empty (depth + 1)
            more
        | none =>
          match classRange? f (c :: rest) with
          | some (s, after) => classBody f fuel negated left (CharSet.union part s) depth after
          | none => none
      | [] => none

/-- How often something is repeated, and what follows. -/
structure Repeat where
  /-- The least number of times. -/
  min : Nat
  /-- The greatest number of times. -/
  max : Option Nat
  /-- What follows the operator. -/
  rest : List Char

/-- A number of times, with blanks around it. -/
def times? (cs : List Char) : Option (Nat × List Char) :=
  let cs := cs.dropWhile whiteSpace.contains
  let ds := cs.takeWhile isDigit
  let rest := (cs.dropWhile isDigit).dropWhile whiteSpace.contains
  if ds.isEmpty then none
  else
    let n := digitsValue ds
    if n < twoTo 32 then some (n, rest) else none

/-- A counted repetition after its opening brace. -/
def counted? (f : Flags) (cs : List Char) : Option Repeat :=
  match times? (skip f cs) with
  | none => none
  | some (min, rest) =>
    match rest with
    | '\x7d' :: after => some ⟨min, some min, after⟩
    | ',' :: more =>
      match skip f more with
      | '\x7d' :: after => some ⟨min, none, after⟩
      | more =>
        match times? more with
        | some (max, '\x7d' :: after) => if min ≤ max then some ⟨min, some max, after⟩ else none
        | _ => none
    | _ => none

/-- A part of a sequence: an expression with its nesting depth, or a change
of flags, which cannot be repeated. -/
structure Part where
  /-- The expression. -/
  expr : Expr
  /-- How deeply it is nested. -/
  depth : Nat
  /-- Whether a repetition may follow. -/
  repeatable : Bool

/-- The groups read so far. -/
structure Groups where
  /-- The number of groups, the whole match included. -/
  count : Nat
  /-- The names of groups. -/
  names : List (String × Nat)
  deriving Inhabited

/-- The parts of a sequence, last part first, as one part. -/
def sequenceOf (parts : List Part) : Part :=
  match parts with
  | [p] => p
  | _ =>
    ⟨Expr.seq (parts.reverse.map (·.expr)),
      if parts.isEmpty then 0 else (parts.map (·.depth)).foldl max 0 + 1, true⟩

/-- The branches of a choice, last branch first, as one part. -/
def choiceOf (branches : List Part) : Part :=
  match branches with
  | [p] => p
  | _ =>
    ⟨Expr.choice (branches.reverse.map (·.expr)), (branches.map (·.depth)).foldl max 0 + 1, true⟩

/-- Whether `c` may stand in the name of a group. Most names are ASCII, and
their letters are not looked up. -/
def isNameChar (first : Bool) (c : Char) : Bool :=
  c = '_' || c.isAlpha || alphabetic.contains c ||
    (!first && (c = '.' || c = '[' || c = ']' || (categories ["nd", "nl", "no"]).contains c))

/-- The name of a group up to its closing angle. -/
def groupName? (cs : List Char) : Option (String × List Char) :=
  match cutFirst '>' cs with
  | some (c :: name, rest) =>
    if isNameChar true c && name.all (isNameChar false) then
      some (String.ofList (c :: name), rest)
    else none
  | _ => none

/-- What opens a group after its bracket. -/
inductive Opening where
  /-- A group that remembers its match, under a name if it has one. -/
  | capture (name : Option String) (rest : List Char)
  /-- A group with flags of its own. -/
  | plain (f : Flags) (rest : List Char)
  /-- A change of flags for the rest of the enclosing group. -/
  | flags (f : Flags) (rest : List Char)

/-- Read what opens a group. -/
def opening? (f : Flags) (cs : List Char) : Option Opening :=
  match skip f cs with
  | '?' :: 'P' :: '<' :: rest => (groupName? rest).map fun p => .capture (some p.1) p.2
  | '?' :: '<' :: '=' :: _ => none
  | '?' :: '<' :: '!' :: _ => none
  | '?' :: '<' :: rest => (groupName? rest).map fun p => .capture (some p.1) p.2
  | '?' :: rest =>
    match flagLetters f true [] rest with
    | some (f, _, ':' :: rest) => some (.plain f rest)
    | some (f, seen, ')' :: rest) => if seen.isEmpty then none else some (.flags f rest)
    | _ => none
  | rest => some (.capture none rest)

/-- A single character of a pattern. -/
def literal? (f : Flags) (byte : Bool) (c : Char) : Option Expr :=
  if f.unicode then some (.chars (charSet f.ignoreCase c))
  else if 0x80 ≤ c.toNat then none
  else if byte || !f.ignoreCase then some (.chars (CharSet.single c))
  else some (.chars (foldAscii (CharSet.single c)))

/-- The expression of an escape. -/
def escapeExpr? (f : Flags) : Escape → Option Expr
  | .char c _ => literal? f false c
  | .set s => (allowed? f s).map .chars
  | .look l => some (.look l)

/-- What the dot matches. -/
def dot? (f : Flags) : Option Expr :=
  if !f.unicode then none
  else if f.dotAll then some (.chars CharSet.full)
  else if f.wideBreaks then
    some (.chars (CharSet.ofRanges [(0xA, 0xA), (0xD, 0xD)]).complement)
  else some (.chars (CharSet.single '\n').complement)

/-- What `^` matches. -/
def startLook (f : Flags) : Look :=
  if !f.multiLine then .textStart else if f.wideBreaks then .breakStart else .lineStart

/-- What `$` matches. -/
def endLook (f : Flags) : Look :=
  if !f.multiLine then .textEnd else if f.wideBreaks then .breakEnd else .lineEnd

/-- Repeat the last part. -/
def repeatLast? (f : Flags) (r : Repeat) (parts : List Part) : Option (List Part × List Char) :=
  match parts with
  | [] => none
  | p :: parts =>
    if !p.repeatable then none
    else
      let (greedy, rest) := match r.rest with
        | '?' :: rest => (false, rest)
        | rest => (true, rest)
      some (⟨.rep r.min r.max (greedy != f.swapGreed) p.expr, p.depth + 1, true⟩ :: parts, rest)

/-- The rest of a group up to its closing bracket or the end of the pattern.
`branches` and `parts` hold what was read of it, last one first. -/
def group : (fuel : Nat) → Flags → Groups → (branches : List Part) → (parts : List Part) →
    List Char → Option (Part × Groups × List Char)
  | 0, _, _, _, _, _ => none
  | fuel + 1, f, gs, branches, parts, cs =>
    let add (e : Option Expr) (depth : Nat) (rest : List Char) :
        Option (Part × Groups × List Char) :=
      match e with
      | some e => group fuel f gs branches (⟨e, depth, true⟩ :: parts) rest
      | none => none
    let repeated (r : Option Repeat) : Option (Part × Groups × List Char) :=
      match r.bind fun r => repeatLast? f r parts with
      | some (parts, rest) => group fuel f gs branches parts rest
      | none => none
    match skip f cs with
    | [] => some (choiceOf (sequenceOf parts :: branches), gs, [])
    | c :: rest =>
      if c = ')' then some (choiceOf (sequenceOf parts :: branches), gs, c :: rest)
      else if c = '|' then group fuel f gs (sequenceOf parts :: branches) [] rest
      else if c = '(' then
        match opening? f rest with
        | none => none
        | some (.flags f rest) =>
          group fuel f gs branches (⟨.empty, 0, false⟩ :: parts) rest
        | some (.plain inner rest) =>
          match group fuel inner gs [] [] rest with
          | some (p, gs, ')' :: rest) =>
            group fuel f gs branches (⟨p.expr, p.depth + 1, true⟩ :: parts) rest
          | _ => none
        | some (.capture name rest) =>
          let index := gs.count
          if (gs.names.any fun n => some n.1 == name) then none
          else
            let names := match name with
              | some n => gs.names ++ [(n, index)]
              | none => gs.names
            match group fuel f ⟨index + 1, names⟩ [] [] rest with
            | some (p, gs, ')' :: rest) =>
              group fuel f gs branches (⟨.group index p.expr, p.depth + 1, true⟩ :: parts) rest
            | _ => none
      else if c = '[' then
        let (negated, start, rest) := classStart f rest
        match classBody f (rest.length + 1) negated none start 0 rest with
        | some (s, depth, rest) => add (some (.chars s)) depth rest
        | none => none
      else if c = '?' then repeated (some ⟨0, some 1, rest⟩)
      else if c = '*' then repeated (some ⟨0, none, rest⟩)
      else if c = '+' then repeated (some ⟨1, none, rest⟩)
      else if c = '\x7b' then repeated (counted? f rest)
      else if c = '\\' then
        match escape? f rest with
        | some (e, rest) => add (escapeExpr? f e) 0 rest
        | none => none
      else if c = '.' then add (dot? f) 0 rest
      else if c = '^' then add (some (.look (startLook f))) 0 rest
      else if c = '$' then add (some (.look (endLook f))) 0 rest
      else add (literal? f false c) 0 rest

/-- How deeply the parts of a pattern may be nested. -/
def nestLimit : Nat := 250

/-- How much room a pattern may take, by the measure of `Expr.size`. Engines
that compile a pattern into an automaton bound the bytes of what comes out,
10 MiB as a rule. That number depends on how they lay it out, so the bound is
on a measure of the expression here, and the two part for patterns near it. -/
def sizeLimit : Nat := 300000

/-- The expression of a pattern and its groups. -/
def parse? (ignoreCase : Bool) (pattern : String) : Option (Expr × Groups) :=
  let cs := pattern.toList
  match group (2 * cs.length + 2) (Flags.initial ignoreCase) ⟨1, []⟩ [] [] cs with
  | some (p, gs, []) =>
    if p.depth ≤ nestLimit && p.expr.size ≤ sizeLimit then some (p.expr, gs) else none
  | _ => none

end Regex
end CodeDesk
