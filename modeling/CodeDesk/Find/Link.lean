import CodeDesk.Files.Path
import CodeDesk.Text.Region

/-!
# Links to matches

A line of a results view carries a link to its match: the path, the line of
the view where the matches of the file begin, their number, and the region
of the match with lines and columns counted from one,
as in `find:///a/b.c#R1N2L3C4-L3C9`.
-/

namespace CodeDesk
namespace Find

/-- A link from a line of results to a match. -/
structure Link where
  /-- The file of the match. -/
  path : Path
  /-- The line of the view where the matches of the file begin. -/
  resultsLine : Nat
  /-- How many matches the file has. -/
  count : Nat
  /-- Where the match is. -/
  region : Region
  deriving DecidableEq, Repr, Inhabited

/-- What every link starts with. -/
def Link.scheme : String := "find://"

/-- The text of a link. Lines and columns are machine words, and counting
them from one wraps around at the greatest of these. A build that checks its
arithmetic stops there and has no text. -/
def Link.text (l : Link) : String :=
  String.join
    [scheme, l.path.text, "#R", toString l.resultsLine, "N", toString l.count,
     "L", toString (wordSucc l.region.start.line), "C", toString (wordSucc l.region.start.col),
     "-L", toString (wordSucc l.region.stop.line), "C", toString (wordSucc l.region.stop.col)]

/-- A number that fits a machine word, and what follows its digits. -/
def number? (cs : List Char) : Option (Nat × List Char) :=
  (word? (cs.takeWhile isDigit)).map fun n => (n, cs.dropWhile isDigit)

/-- A number after a letter. -/
def tagged? (tag : Char) : List Char → Option (Nat × List Char)
  | [] => none
  | c :: cs => if c = tag then number? cs else none

/-- A number from one after a letter, counted from zero. -/
def ordinal? (tag : Char) (cs : List Char) : Option (Nat × List Char) :=
  match tagged? tag cs with
  | some (n + 1, rest) => some (n, rest)
  | _ => none

/-- A line and a column. -/
def position? (cs : List Char) : Option (Pos × List Char) :=
  match ordinal? 'L' cs with
  | none => none
  | some (line, rest) => (ordinal? 'C' rest).map fun p => (⟨line, p.1⟩, p.2)

/-- What follows the number sign of a link to `path`. -/
def fragment? (path : Path) (cs : List Char) : Option Link :=
  match tagged? 'R' cs with
  | none => none
  | some (resultsLine, rest) =>
    match tagged? 'N' rest with
    | none => none
    | some (count, rest) =>
      match position? rest with
      | some (start, '-' :: rest) =>
        match position? rest with
        | some (stop, []) => some ⟨path, resultsLine, count, ⟨start, stop⟩⟩
        | _ => none
      | _ => none

/-- The link that a text is. The path ends at the last number sign. -/
def Link.parse? (s : String) : Option Link :=
  match dropLead? scheme.toList s.toList with
  | none => none
  | some rest =>
    match cutLast '#' rest with
    | some (c :: path, fragment) => fragment? ⟨String.ofList (c :: path)⟩ fragment
    | _ => none

end Find
end CodeDesk
