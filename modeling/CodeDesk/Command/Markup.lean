import CodeDesk.Files.Path
import CodeDesk.Regex.Replace

/-!
# Markup

The lines of a command's output as markup: the text with its special
characters escaped, the reports of errors and of the runner set off by tags,
and references to files such as `a/b.c:3:4` as links.
-/

namespace CodeDesk
namespace Command

/-- The markup of a character. -/
def escapeChar (c : Char) : List Char :=
  if c = '<' then "&lt;".toList
  else if c = '>' then "&gt;".toList
  else if c = '&' then "&amp;".toList
  else if c = '"' then "&quot;".toList
  else [c]

/-- A text as markup. -/
def escapeChars (cs : List Char) : List Char := cs.flatMap escapeChar

/-- A text as markup. -/
def escapeMarkup (s : String) : String := String.ofList (escapeChars s.toList)

/-- The pattern of a reference to a line of a file, and perhaps a column. -/
def referencePattern : String :=
  "(?P<path>[\\w.\\-/]*[\\w\\-]\\.\\w+):(?P<line>\\d+)(?::(?P<col>\\d+))?"

/-- The program that finds references. -/
def references : Regex.Program := (Regex.compile? false referencePattern).getD default

/-- A reference within a line of output. -/
structure Reference where
  /-- The number of characters before it. -/
  start : Nat
  /-- The number of characters up to its end. -/
  stop : Nat
  /-- The path. -/
  path : List Char
  /-- The line. -/
  line : List Char
  /-- The column, if it has one. -/
  col : Option (List Char)
  deriving DecidableEq, Repr, Inhabited

/-- The reference of a match. -/
def Reference.ofSlots? (cs : List Char) (slots : Regex.Slots) : Option Reference :=
  (Regex.groupRange slots 0).map fun r =>
    ⟨r.1, r.2, Regex.groupText cs slots 1, Regex.groupText cs slots 2,
      (Regex.groupRange slots 3).map fun _ => Regex.groupText cs slots 3⟩

/-- The references within a line of output. -/
def referencesIn (cs : List Char) : List Reference :=
  (references.searchAll cs).filterMap (Reference.ofSlots? cs)

/-- The path a reference leads to, taken from `base` if it is relative. -/
def Reference.target (r : Reference) (base : Path) : Path := base.join ⟨String.ofList r.path⟩

/-- The link of a reference. -/
def Reference.markup (r : Reference) (base : Path) (cs : List Char) : List Char :=
  let target := (r.target base).text.toList.dropWhile (· = '/')
  "<a href=\"file:///".toList ++ escapeChars target ++ "#L".toList ++ r.line ++ ['C'] ++
    r.col.getD ['1'] ++ "\">".toList ++ escapeChars ((cs.drop r.start).take (r.stop - r.start)) ++
    "</a>".toList

/-- The rest of a line, from character number `here` on, with its references
as links. -/
def linkFrom (base : Path) (cs : List Char) (here : Nat) : List Reference → List Char
  | [] => escapeChars (cs.drop here)
  | r :: rs =>
    escapeChars ((cs.drop here).take (r.start - here)) ++ r.markup base cs ++
      linkFrom base cs r.stop rs

/-- A line with its references as links. -/
def linkMarkup (base : Path) (line : String) : String :=
  String.ofList (linkFrom base line.toList 0 (referencesIn line.toList))

/-- Where a line of output comes from. -/
inductive Stream where
  /-- What a program prints. -/
  | stdout
  /-- What a program reports. -/
  | stderr
  /-- What the runner reports. -/
  | status
  deriving DecidableEq, Repr, Inhabited

/-- The markup of a line. Links are made only of what programs print, and
only if `links` holds the directory they start from. -/
def markup (stream : Stream) (links : Option Path) (line : String) : String :=
  match stream with
  | .stderr => "<span class=\"stderr\">" ++ escapeMarkup line ++ "</span>"
  | .status => "<b>" ++ escapeMarkup line ++ "</b>"
  | .stdout =>
    match links with
    | some base => linkMarkup base line
    | none => escapeMarkup line

end Command
end CodeDesk
