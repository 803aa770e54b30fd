import CodeDesk.Machine.Script

/-!
# Reading scripts

A script is read from its characters in one pass. Every function takes
characters and returns what it has read together with the characters behind
it, or the fault that it has found. The text of a here-document is taken out
of the characters behind the line on which it is announced.
-/

namespace CodeDesk
namespace Machine

/-- What is wrong with a script. -/
structure Fault where
  /-- The characters that were still to be read. -/
  rest : List Char
  /-- What is wrong. -/
  text : String
  deriving DecidableEq, Repr, Inhabited

namespace ScriptParser

/-! ## Characters and tokens -/

/-- Whether `c` ends a word that is not quoted. -/
def isMeta (c : Char) : Bool := " \t\n;&|<>()".toList.contains c

/-- What follows a comment. -/
def afterComment (cs : List Char) : List Char := cs.dropWhile (· ≠ '\n')

/-- What follows the blanks, and a comment behind them. -/
def skipBlanks : List Char → List Char
  | ' ' :: cs => skipBlanks cs
  | '\t' :: cs => skipBlanks cs
  | '\\' :: '\n' :: cs => skipBlanks cs
  | '#' :: cs => afterComment cs
  | cs => cs

/-- What follows the blanks, the line breaks and the comments. -/
def skipLines : (fuel : Nat) → List Char → List Char
  | 0, cs => cs
  | fuel + 1, cs =>
    match skipBlanks cs with
    | '\n' :: rest => skipLines fuel rest
    | rest => rest

/-- The characters up to a word's end, if it has no quotes. -/
def bareWord (cs : List Char) : List Char := cs.takeWhile fun c => !isMeta c

/-- The words that end a list of commands. -/
def closers : List String := ["then", "else", "elif", "fi", "do", "done", "esac", "\x7d"]

/-- The words that have a meaning of their own. -/
def reserved : List String :=
  closers ++ ["!", "if", "while", "until", "for", "case", "in", "\x7b"]

/-- Whether a list of commands ends here. -/
def atEnd (cs : List Char) : Bool :=
  match cs with
  | [] => true
  | ')' :: _ => true
  | ';' :: ';' :: _ => true
  | _ => closers.contains (String.ofList (bareWord cs))

/-- A text in double quotes. -/
def inQuotes (s : String) : String := "\"" ++ s ++ "\""

/-- The kind of a redirection. -/
def redirectKind? : List Char → Option (RedirectKind × Nat × List Char)
  | '>' :: '>' :: rest => some (.append, 1, rest)
  | '>' :: '&' :: rest => some (.duplicate, 1, rest)
  | '>' :: '|' :: rest => some (.write, 1, rest)
  | '>' :: rest => some (.write, 1, rest)
  | '<' :: '&' :: rest => some (.duplicate, 0, rest)
  | '<' :: '<' :: rest => some (.here, 0, rest)
  | '<' :: rest => some (.read, 0, rest)
  | _ => none

/-- The start of a redirection, which may begin with the number of a
stream. -/
def redirectStart? (cs : List Char) : Option (Nat × RedirectKind × List Char) :=
  let (digits, rest) := cs.span isDigit
  match redirectKind? rest with
  | none => none
  | some (kind, fd, rest) =>
    some (if digits.isEmpty then fd else digitsValue digits, kind, rest)

/-- What a script's reader calls the characters it stands at. -/
def tokenName (cs : List Char) : String :=
  match cs with
  | [] => "end of file"
  | '\n' :: _ => "newline"
  | ';' :: ';' :: _ => inQuotes ";;"
  | '&' :: '&' :: _ => inQuotes "&&"
  | '|' :: '|' :: _ => inQuotes "||"
  | c :: _ =>
    if ";&|()".toList.contains c then inQuotes (String.singleton c)
    else if (redirectStart? cs).isSome then "redirection"
    else
      let w := String.ofList (bareWord cs)
      if reserved.contains w then inQuotes w else "word"

/-- The fault of characters at which something else has to stand. -/
def unexpected {α : Type} (cs : List Char) (expected : Option String) : Except Fault α :=
  let rest := match cs with
    | '\n' :: rest => rest
    | cs => cs
  .error ⟨rest, tokenName cs ++ " unexpected" ++
    match expected with
    | some e => " (expecting " ++ e ++ ")"
    | none => ""⟩

/-- What follows a reserved word. -/
def keyword? (word : String) (cs : List Char) : Option (List Char) :=
  let w := bareWord cs
  if String.ofList w = word then some (cs.drop w.length) else none

/-- What follows a reserved word that may stand on a line of its own. -/
def laterKeyword? (fuel : Nat) (word : String) (cs : List Char) : Option (List Char) :=
  keyword? word (skipLines fuel cs)

/-- What follows a reserved word that has to stand here. -/
def expect (fuel : Nat) (word : String) (cs : List Char) : Except Fault (List Char) :=
  match laterKeyword? fuel word cs with
  | some rest => .ok rest
  | none => unexpected (skipLines fuel cs) (some (inQuotes word))

/-- What follows a closing parenthesis that has to stand here. -/
def expectClose (fuel : Nat) (cs : List Char) : Except Fault (List Char) :=
  match skipLines fuel cs with
  | ')' :: rest => .ok rest
  | rest => unexpected rest (some (inQuotes ")"))

/-- The name at the start, if there is one. -/
def name? (cs : List Char) : Option (List Char × List Char) :=
  match cs with
  | [] => none
  | c :: _ =>
    if isDigit c then none
    else
      match cs.span isIdentChar with
      | ([], _) => none
      | (name, rest) => some (name, rest)

/-- The name that the parts of a word are, if they are one. -/
def nameOf? : List Part → Option String
  | [.text cs false] =>
    match name? cs with
    | some (name, []) => some (String.ofList name)
    | _ => none
  | _ => none

/-- Add a character to the parts of a word, of which the last comes
first. -/
def addChar (c : Char) : List Part → List Part
  | .text cs false :: ps => .text (cs ++ [c]) false :: ps
  | ps => .text [c] false :: ps

/-- Add a quoted character to the parts of a word. -/
def addQuoted (c : Char) : List Part → List Part
  | .text cs true :: ps => .text (cs ++ [c]) true :: ps
  | ps => .text [c] true :: ps

/-- An arithmetic expression up to its two closing parentheses. -/
def arithmeticText : (depth : Nat) → (acc : List Char) → List Char →
    Except Fault (List Char × List Char)
  | 0, acc, ')' :: ')' :: rest => .ok (acc.reverse, rest)
  | depth + 1, acc, ')' :: rest => arithmeticText depth (')' :: acc) rest
  | 0, _, ')' :: rest => .error ⟨rest, "Missing '))'"⟩
  | _, _, [] => .error ⟨[], "Missing '))'"⟩
  | depth, acc, '(' :: rest => arithmeticText (depth + 1) ('(' :: acc) rest
  | depth, acc, c :: rest => arithmeticText depth (c :: acc) rest

/-- The text between backquotes; between double quotes a backslash also
quotes those. -/
def backquoted (quoted : Bool) : (acc : List Char) → List Char →
    Except Fault (List Char × List Char)
  | _, [] => .error ⟨[], "EOF in backquote substitution"⟩
  | acc, '\x60' :: rest => .ok (acc.reverse, rest)
  | acc, '\\' :: c :: rest =>
    if c = '\x60' || c = '\\' || c = '$' || (quoted && c = '"') then
      backquoted quoted (c :: acc) rest
    else backquoted quoted (c :: '\\' :: acc) rest
  | acc, c :: rest => backquoted quoted (c :: acc) rest

/-- The operator of an expansion behind a colon. -/
def colonOperator? : List Char → Option (ExpansionKind × List Char)
  | '-' :: rest => some (.fallback, rest)
  | '=' :: rest => some (.assign, rest)
  | '+' :: rest => some (.instead, rest)
  | '?' :: rest => some (.demand, rest)
  | _ => none

/-- The operator of an expansion, and whether it has a colon. -/
def operator? : List Char → Option (ExpansionKind × Bool × List Char)
  | ':' :: rest => (colonOperator? rest).map fun r => (r.1, true, r.2)
  | '#' :: '#' :: rest => some (.cutStartMost, false, rest)
  | '#' :: rest => some (.cutStart, false, rest)
  | '%' :: '%' :: rest => some (.cutEndMost, false, rest)
  | '%' :: rest => some (.cutEnd, false, rest)
  | rest => (colonOperator? rest).map fun r => (r.1, false, r.2)

/-- The name of an assignment. -/
def assignment? (cs : List Char) : Option (String × List Char) :=
  match name? cs with
  | some (name, '=' :: rest) => some (String.ofList name, rest)
  | _ => none

/-- The line on which the rest `cs` of a script of `total` line breaks
begins. -/
def lineOf (total : Nat) (cs : List Char) : Nat := total - cs.count '\n' + 1

/-- A name that stands for a variable of one character. -/
def isSpecial (c : Char) : Bool := isDigit c || "@*#?$!-".toList.contains c

/-- The name in an expansion with braces, and whether its length is meant. -/
def expansionName? (cs : List Char) : Option (List Char × ExpansionKind × List Char) :=
  match cs with
  | [] => none
  | '#' :: '\x7d' :: rest => some (['#'], .value, '\x7d' :: rest)
  | '#' :: rest =>
    match name? rest with
    | some (name, '\x7d' :: rest) => some (name, .length, '\x7d' :: rest)
    | _ => some (['#'], .value, rest)
  | c :: rest =>
    match name? cs with
    | some (name, rest) => some (name, .value, rest)
    | none =>
      if isDigit c then
        let (digits, rest) := cs.span isDigit
        some (digits, .value, rest)
      else if isSpecial c then some ([c], .value, rest)
      else none

/-! ## Here-documents -/

/-- The word that ends a here-document, and whether any of it is quoted. -/
def hereDelimiter (cs : List Char) : List Char × Bool × List Char :=
  let w := bareWord cs
  let isQuote (c : Char) : Bool := c = '\'' || c = '"' || c = '\\'
  (w.filter fun c => !isQuote c, w.any isQuote, cs.drop w.length)

/-- The lines of a here-document up to the word that ends it, and what
follows that. -/
def hereLines (strip : Bool) (stop : List Char) : (fuel : Nat) → List Char →
    List Char × List Char
  | 0, cs => ([], cs)
  | _ + 1, [] => ([], [])
  | fuel + 1, cs =>
    let (line, rest) := cs.span (· ≠ '\n')
    let line := if strip then line.dropWhile (· = '\t') else line
    if line = stop then ([], rest.drop 1)
    else
      let (more, after) := hereLines strip stop fuel (rest.drop 1)
      (line ++ (if rest.isEmpty then [] else ['\n']) ++ more, after)

/-- A here-document that is announced in front of `cs`: its text, and `cs`
without it. -/
def hereText (strip : Bool) (stop cs : List Char) : List Char × List Char :=
  let (line, rest) := cs.span (· ≠ '\n')
  let (text, after) := hereLines strip stop (rest.length + 1) (rest.drop 1)
  (text, line ++ (if rest.isEmpty then [] else ['\n']) ++ after)

/-- A text with its double quotes quoted, so that it can be read as one that
stands between double quotes. -/
def quoteQuotes : List Char → List Char
  | [] => []
  | '\\' :: '"' :: cs => '\\' :: '\\' :: '\\' :: '"' :: quoteQuotes cs
  | '\\' :: c :: cs => '\\' :: c :: quoteQuotes cs
  | '"' :: cs => '\\' :: '"' :: quoteQuotes cs
  | c :: cs => c :: quoteQuotes cs

/-! ## Words and commands -/

mutual

/-- The parts of a word up to the character that `stop` holds of. The last
part of `acc` comes first. -/
def wordParts (total : Nat) (stop : Char → Bool) : (fuel : Nat) → (acc : List Part) →
    List Char → Except Fault (List Part × List Char)
  | 0, _, cs => unexpected cs none
  | _ + 1, acc, [] => .ok (acc.reverse, [])
  | fuel + 1, acc, '\\' :: '\n' :: rest => wordParts total stop fuel acc rest
  | fuel + 1, acc, '\\' :: c :: rest => wordParts total stop fuel (addQuoted c acc) rest
  | fuel + 1, acc, '\'' :: rest =>
    match rest.span (· ≠ '\'') with
    | (body, _ :: rest) => wordParts total stop fuel (.text body true :: acc) rest
    | _ => .error ⟨[], "Unterminated quoted string"⟩
  | fuel + 1, acc, '"' :: rest => do
    let (acc, rest) ← quotedParts total true fuel (.text [] true :: acc) rest
    wordParts total stop fuel acc rest
  | fuel + 1, acc, '$' :: '\'' :: rest =>
    wordParts total stop fuel (addQuoted '$' acc) ('\'' :: rest)
  | fuel + 1, acc, '$' :: '"' :: rest =>
    wordParts total stop fuel (addQuoted '$' acc) ('"' :: rest)
  | fuel + 1, acc, '$' :: rest => do
    let (p, rest) ← dollar total fuel false rest
    wordParts total stop fuel (p :: acc) rest
  | fuel + 1, acc, '\x60' :: rest => do
    let (body, rest) ← backquoted false [] rest
    let (s, left) ← list total fuel false body
    if left.isEmpty then wordParts total stop fuel (.output s false :: acc) rest
    else unexpected left none
  | fuel + 1, acc, c :: rest =>
    if stop c then .ok (acc.reverse, c :: rest)
    else wordParts total stop fuel (addChar c acc) rest

/-- The parts between double quotes; with `closing` unset, everything. The
last part comes first. -/
def quotedParts (total : Nat) (closing : Bool) : (fuel : Nat) → (acc : List Part) → List Char →
    Except Fault (List Part × List Char)
  | 0, _, cs => unexpected cs none
  | _ + 1, acc, [] =>
    if closing then .error ⟨[], "Unterminated quoted string"⟩ else .ok (acc, [])
  | _ + 1, acc, '"' :: rest => .ok (acc, rest)
  | fuel + 1, acc, '\\' :: '\n' :: rest => quotedParts total closing fuel acc rest
  | fuel + 1, acc, '\\' :: c :: rest =>
    if "$`\"\\".toList.contains c then quotedParts total closing fuel (addQuoted c acc) rest
    else quotedParts total closing fuel (addQuoted c (addQuoted '\\' acc)) rest
  | fuel + 1, acc, '$' :: '"' :: rest =>
    quotedParts total closing fuel (addQuoted '$' acc) ('"' :: rest)
  | fuel + 1, acc, '$' :: rest => do
    let (p, rest) ← dollar total fuel true rest
    quotedParts total closing fuel (p :: acc) rest
  | fuel + 1, acc, '\x60' :: rest => do
    let (body, rest) ← backquoted true [] rest
    let (s, left) ← list total fuel false body
    if left.isEmpty then quotedParts total closing fuel (.output s true :: acc) rest
    else unexpected left none
  | fuel + 1, acc, c :: rest => quotedParts total closing fuel (addQuoted c acc) rest

/-- The expansion behind a dollar sign. -/
def dollar (total : Nat) : (fuel : Nat) → (quoted : Bool) → List Char →
    Except Fault (Part × List Char)
  | 0, _, cs => unexpected cs none
  | fuel + 1, quoted, '(' :: '(' :: rest => do
    let (body, rest) ← arithmeticText 0 [] rest
    let (ps, _) ← quotedParts total false fuel [] body
    pure (.arithmetic ps.reverse quoted, rest)
  | fuel + 1, quoted, '(' :: rest => do
    let (s, rest) ← list total fuel false rest
    let rest ← expectClose fuel rest
    pure (.output s quoted, rest)
  | fuel + 1, quoted, '\x7b' :: rest => braces total fuel quoted rest
  | _ + 1, quoted, cs =>
    match name? cs, cs with
    | some (name, rest), _ => .ok (.expand (String.ofList name) .value false [] quoted, rest)
    | none, c :: rest =>
      if isSpecial c then .ok (.expand (String.singleton c) .value false [] quoted, rest)
      else .ok (.text ['$'] quoted, c :: rest)
    | none, [] => .ok (.text ['$'] quoted, [])

/-- The expansion behind a dollar sign and a brace. -/
def braces (total : Nat) : (fuel : Nat) → (quoted : Bool) → List Char →
    Except Fault (Part × List Char)
  | 0, _, cs => unexpected cs none
  | fuel + 1, quoted, cs =>
    let senseless : Except Fault (Part × List Char) :=
      match cs.span (· ≠ '\x7d') with
      | (_, _ :: rest) => .ok (.senseless, rest)
      | _ => .error ⟨[], "Missing '\x7d'"⟩
    match expansionName? cs with
    | none => senseless
    | some (name, kind, '\x7d' :: rest) =>
      .ok (.expand (String.ofList name) kind false [] quoted, rest)
    | some (name, _, rest) =>
      match operator? rest with
      | none => senseless
      | some (kind, colon, rest) => do
        match ← wordParts total (· = '\x7d') fuel [] rest with
        | (ps, _ :: rest) => .ok (.expand (String.ofList name) kind colon ps quoted, rest)
        | _ => .error ⟨[], "Missing '\x7d'"⟩

/-- A word. A tilde in front of it stands for the home directory. -/
def word (total : Nat) : (fuel : Nat) → List Char → Except Fault (List Part × List Char)
  | 0, cs => unexpected cs none
  | fuel + 1, '~' :: rest =>
    let home : Part := .expand "HOME" .fallback false [.text ['~'] true] true
    if rest.head?.all fun c => c = '/' || isMeta c then wordParts total isMeta fuel [home] rest
    else wordParts total isMeta fuel [] ('~' :: rest)
  | fuel + 1, cs => wordParts total isMeta fuel [] cs

/-- A word that has to stand here. -/
def someWord (total : Nat) : (fuel : Nat) → List Char → Except Fault (List Part × List Char)
  | 0, cs => unexpected cs none
  | fuel + 1, cs =>
    let cs := skipBlanks cs
    if cs.head?.all isMeta then unexpected cs none else word total fuel cs

/-- Commands up to the end of a list. There has to be one at least if `must`
is set. -/
def list (total : Nat) : (fuel : Nat) → (must : Bool) → List Char →
    Except Fault (Script × List Char)
  | 0, _, cs => unexpected cs none
  | fuel + 1, must, cs =>
    let cs := skipLines (fuel + 1) cs
    if cs.isEmpty || (!must && atEnd cs) then .ok (.nothing, cs)
    else do
      let (s, rest) ← andOr total fuel cs
      match skipBlanks rest with
      | ';' :: ';' :: rest => .ok (s, ';' :: ';' :: rest)
      | ';' :: rest =>
        let (t, rest) ← list total fuel false rest
        pure (.sequence s t, rest)
      | '&' :: rest =>
        let (t, rest) ← list total fuel false rest
        pure (.sequence (.background s) t, rest)
      | '\n' :: rest =>
        let (t, rest) ← list total fuel false rest
        pure (.sequence s t, rest)
      | rest => .ok (s, rest)

/-- Pipelines joined by `&&` and `||`. -/
def andOr (total : Nat) : (fuel : Nat) → List Char → Except Fault (Script × List Char)
  | 0, cs => unexpected cs none
  | fuel + 1, cs => do
    let (s, rest) ← pipeline total fuel cs
    andOrRest total fuel s rest

/-- What `&&` and `||` join to a script. -/
def andOrRest (total : Nat) : (fuel : Nat) → Script → List Char →
    Except Fault (Script × List Char)
  | 0, _, cs => unexpected cs none
  | fuel + 1, s, cs =>
    match skipBlanks cs with
    | '&' :: '&' :: rest => do
      let (t, rest) ← pipeline total fuel (skipLines fuel rest)
      andOrRest total fuel (.both s t) rest
    | '|' :: '|' :: rest => do
      let (t, rest) ← pipeline total fuel (skipLines fuel rest)
      andOrRest total fuel (.either s t) rest
    | rest => .ok (s, rest)

/-- Commands joined by `|`, which may stand behind a `!`. -/
def pipeline (total : Nat) : (fuel : Nat) → List Char → Except Fault (Script × List Char)
  | 0, cs => unexpected cs none
  | fuel + 1, cs => do
    let cs := skipBlanks cs
    let inner := (keyword? "!" cs).getD cs
    let (ss, rest) ← pipes total fuel inner
    let s := match ss with
      | [s] => s
      | ss => .pipeline ss
    pure (if (keyword? "!" cs).isSome then .negate s else s, rest)

/-- The commands of a pipeline. -/
def pipes (total : Nat) : (fuel : Nat) → List Char → Except Fault (List Script × List Char)
  | 0, cs => unexpected cs none
  | fuel + 1, cs => do
    let (s, rest) ← command total fuel (skipBlanks cs)
    match skipBlanks rest with
    | '|' :: '|' :: rest => .ok ([s], '|' :: '|' :: rest)
    | '|' :: rest =>
      let (ss, rest) ← pipes total fuel (skipLines fuel rest)
      pure (s :: ss, rest)
    | rest => .ok ([s], rest)

/-- One command. -/
def command (total : Nat) : (fuel : Nat) → List Char → Except Fault (Script × List Char)
  | 0, cs => unexpected cs none
  | fuel + 1, '(' :: rest => do
    let (s, rest) ← list total fuel true rest
    let rest ← expectClose fuel rest
    let (rs, rest) ← redirects total fuel rest
    pure (.subshell s rs, rest)
  | fuel + 1, cs =>
    let w := String.ofList (bareWord cs)
    let rest := cs.drop w.length
    if w = "\x7b" then do
      let (s, rest) ← list total fuel true rest
      let rest ← expect fuel "\x7d" rest
      let (rs, rest) ← redirects total fuel rest
      pure (.group s rs, rest)
    else if w = "if" then do
      let (s, rest) ← choice total fuel rest
      let (rs, rest) ← redirects total fuel rest
      pure (.group s rs, rest)
    else if w = "while" || w = "until" then do
      let (condition, rest) ← list total fuel true rest
      let (s, rest) ← body total fuel rest
      let (rs, rest) ← redirects total fuel rest
      pure (.group (.loop (w = "until") condition s) rs, rest)
    else if w = "for" then
      match name? (skipBlanks rest) with
      | none => .error ⟨(skipBlanks rest).drop 1, "Bad for loop variable"⟩
      | some (name, rest) => do
        let (ws, rest) ← forWords total fuel rest
        let (s, rest) ← body total fuel rest
        let (rs, rest) ← redirects total fuel rest
        pure (.group (.each (String.ofList name) ws s) rs, rest)
    else if w = "case" then
      if (skipBlanks rest).head?.all isMeta then unexpected (skipBlanks rest) (some "word")
      else do
        let (subject, rest) ← word total fuel (skipBlanks rest)
        let rest ← expect fuel "in" rest
        let (as, rest) ← arms total fuel rest
        let (rs, rest) ← redirects total fuel rest
        pure (.group (.select subject as) rs, rest)
    else if reserved.contains w then unexpected cs none
    else simple total fuel (lineOf total cs) [] [] [] cs

/-- The rest of a choice. -/
def choice (total : Nat) : (fuel : Nat) → List Char → Except Fault (Script × List Char)
  | 0, cs => unexpected cs none
  | fuel + 1, cs => do
    let (condition, rest) ← list total fuel true cs
    let rest ← expect fuel "then" rest
    let (yes, rest) ← list total fuel true rest
    match laterKeyword? fuel "elif" rest, laterKeyword? fuel "else" rest with
    | some rest, _ =>
      let (no, rest) ← choice total fuel rest
      pure (.choice condition yes no, rest)
    | none, some rest =>
      let (no, rest) ← list total fuel true rest
      let rest ← expect fuel "fi" rest
      pure (.choice condition yes no, rest)
    | none, none =>
      let rest ← expect fuel "fi" rest
      pure (.choice condition yes .nothing, rest)

/-- The body of a loop. -/
def body (total : Nat) : (fuel : Nat) → List Char → Except Fault (Script × List Char)
  | 0, cs => unexpected cs none
  | fuel + 1, cs => do
    let rest ← expect fuel "do" cs
    let (s, rest) ← list total fuel true rest
    let rest ← expect fuel "done" rest
    pure (s, rest)

/-- The words of a loop over words; without them the loop is over the
arguments. -/
def forWords (total : Nat) : (fuel : Nat) → List Char →
    Except Fault (Option (List (List Part)) × List Char)
  | 0, cs => unexpected cs none
  | fuel + 1, cs =>
    match laterKeyword? fuel "in" cs with
    | none =>
      match skipBlanks cs with
      | ';' :: rest => .ok (none, rest)
      | rest => .ok (none, rest)
    | some rest => do
      let (ws, rest) ← wordList total fuel rest
      match skipBlanks rest with
      | ';' :: ';' :: rest => unexpected (';' :: ';' :: rest) none
      | ';' :: rest => .ok (some ws, rest)
      | '\n' :: rest => .ok (some ws, rest)
      | rest => unexpected rest none

/-- Words on a line. -/
def wordList (total : Nat) : (fuel : Nat) → List Char →
    Except Fault (List (List Part) × List Char)
  | 0, cs => unexpected cs none
  | fuel + 1, cs =>
    let cs := skipBlanks cs
    if cs.head?.all isMeta then .ok ([], cs)
    else do
      let (w, rest) ← word total fuel cs
      let (ws, rest) ← wordList total fuel rest
      pure (w :: ws, rest)

/-- The arms of a choice by patterns. -/
def arms (total : Nat) : (fuel : Nat) → List Char →
    Except Fault (List (List (List Part) × Script) × List Char)
  | 0, cs => unexpected cs none
  | fuel + 1, cs =>
    let cs := skipLines fuel cs
    match keyword? "esac" cs with
    | some rest => .ok ([], rest)
    | none => do
      let cs := match cs with
        | '(' :: rest => rest
        | cs => cs
      let (ps, rest) ← patterns total fuel cs
      let (s, rest) ← list total fuel false rest
      match skipLines fuel rest with
      | ';' :: ';' :: rest =>
        let (as, rest) ← arms total fuel rest
        pure ((ps, s) :: as, rest)
      | rest =>
        match keyword? "esac" rest with
        | some rest => .ok ([(ps, s)], rest)
        | none => unexpected rest (some (inQuotes ";;"))

/-- The patterns of an arm. -/
def patterns (total : Nat) : (fuel : Nat) → List Char →
    Except Fault (List (List Part) × List Char)
  | 0, cs => unexpected cs none
  | fuel + 1, cs => do
    let (w, rest) ← word total fuel (skipBlanks cs)
    match skipBlanks rest with
    | '|' :: rest =>
      let (ps, rest) ← patterns total fuel rest
      pure (w :: ps, rest)
    | ')' :: rest => .ok ([w], rest)
    | rest => unexpected rest (some (inQuotes ")"))

/-- What a redirection leads to or from, of which the start has been
read. -/
def redirect (total : Nat) : (fuel : Nat) → (fd : Nat) → RedirectKind → List Char →
    Except Fault (Redirect × List Char)
  | 0, _, _, cs => unexpected cs none
  | fuel + 1, fd, .here, cs =>
    let (strip, cs) := match cs with
      | '-' :: rest => (true, rest)
      | cs => (false, cs)
    let cs := skipBlanks cs
    if cs.head?.all isMeta then unexpected cs none
    else do
      let (stop, quoted, rest) := hereDelimiter cs
      let (text, rest) := hereText strip stop rest
      if quoted then .ok (.mk fd .here [.text text true], rest)
      else
        let (ps, _) ← quotedParts total false fuel [] (quoteQuotes text)
        pure (.mk fd .here ps.reverse, rest)
  | fuel + 1, fd, kind, cs => do
    let (w, rest) ← someWord total fuel cs
    pure (.mk fd kind w, rest)

/-- A list of redirections. -/
def redirects (total : Nat) : (fuel : Nat) → List Char →
    Except Fault (List Redirect × List Char)
  | 0, cs => unexpected cs none
  | fuel + 1, cs =>
    match redirectStart? (skipBlanks cs) with
    | none => .ok ([], cs)
    | some (fd, kind, rest) => do
      let (r, rest) ← redirect total fuel fd kind rest
      let (rs, rest) ← redirects total fuel rest
      pure (r :: rs, rest)

/-- Assignments, words and redirections; the last of each comes first. A
single name with parentheses behind it begins the definition of a
function. -/
def simple (total : Nat) : (fuel : Nat) → (line : Nat) → (assigns : List (String × List Part)) →
    (words : List (List Part)) → (reds : List Redirect) → List Char →
    Except Fault (Script × List Char)
  | 0, _, _, _, _, cs => unexpected cs none
  | fuel + 1, line, assigns, words, reds, cs =>
    let cs := skipBlanks cs
    match redirectStart? cs with
    | some (fd, kind, rest) => do
      let (r, rest) ← redirect total fuel fd kind rest
      simple total fuel line assigns words (r :: reds) rest
    | none =>
      if cs.head? = some '(' && assigns.isEmpty && words.length = 1 && reds.isEmpty then do
        let rest := skipBlanks (cs.drop 1)
        if rest.head? ≠ some ')' then unexpected rest (some (inQuotes ")"))
        else
          match nameOf? (words.head?.getD []) with
          | none => .error ⟨rest.drop 1, "Bad function name"⟩
          | some name =>
            let (body, rest) ← command total fuel (skipLines fuel (rest.drop 1))
            pure (.define name body, rest)
      else if cs.head?.all isMeta then
        if assigns.isEmpty && words.isEmpty && reds.isEmpty then unexpected cs none
        else .ok (.simple line assigns.reverse words.reverse reds.reverse, cs)
      else
        match if words.isEmpty then assignment? cs else none with
        | some (name, rest) => do
          let (w, rest) ← word total fuel rest
          simple total fuel line ((name, w) :: assigns) words reds rest
        | none => do
          let (w, rest) ← word total fuel cs
          simple total fuel line assigns (w :: words) reds rest

end

/-! ## Lines -/

/-- The commands on a line. -/
def line (total : Nat) : (fuel : Nat) → List Char → Except Fault (Script × List Char)
  | 0, cs => unexpected cs none
  | fuel + 1, cs =>
    match skipBlanks cs with
    | [] => .ok (.nothing, [])
    | '\n' :: rest => .ok (.nothing, rest)
    | cs => do
      let (s, rest) ← andOr total fuel cs
      match skipBlanks rest with
      | [] => .ok (s, [])
      | '\n' :: rest => .ok (s, rest)
      | ';' :: ';' :: rest => unexpected (';' :: ';' :: rest) none
      | ';' :: rest =>
        let (t, rest) ← line total fuel rest
        pure (.sequence s t, rest)
      | '&' :: rest =>
        let (t, rest) ← line total fuel rest
        pure (.sequence (.background s) t, rest)
      | rest => unexpected rest none

/-- The commands on all lines. At a fault the reader gives up. -/
def lines (total reach : Nat) : (fuel : Nat) → List Char → Script
  | 0, _ => .nothing
  | _ + 1, [] => .nothing
  | fuel + 1, cs =>
    match line total reach cs with
    | .ok (s, rest) => .sequence s (lines total reach fuel rest)
    | .error f => .fault (lineOf total f.rest) ("Syntax error: " ++ f.text)

end ScriptParser

/-- The script of a text. -/
def Script.parse (text : List Char) : Script :=
  ScriptParser.lines (text.count '\n') (8 * text.length + 64) (text.length + 1) text

end Machine
end CodeDesk
