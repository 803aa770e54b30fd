import CodeDesk.Document.Store
import CodeDesk.Find.Link
import CodeDesk.Find.Request
import CodeDesk.Text.Lines

/-!
# Results

The matches of a search by file, and the view that lists them: a header
line for each file, followed by a line with a link for each match.
-/

namespace CodeDesk
namespace Find

/-- The matches within one file. -/
structure FileResult where
  /-- The file. -/
  path : Path
  /-- How many matches there are. -/
  count : Nat
  /-- Where the matches are. -/
  regions : List Region
  /-- The line each match starts on. -/
  lines : List String
  /-- The buffer that was searched in place of the file. -/
  buffer : Option BufferId
  deriving DecidableEq, Repr, Inhabited

/-- The outcome of a search. -/
structure Results where
  /-- What was looked for. -/
  request : Request
  /-- The files with matches, those with most matches first. -/
  files : List FileResult
  deriving DecidableEq, Repr, Inhabited

namespace Results

/-- How many matches there are. -/
def total (r : Results) : Nat := r.files.foldr (fun f n => f.count + n) 0

/-- Whether no file has a match. -/
def isEmpty (r : Results) : Bool := r.files.isEmpty

/-- The matches within a file. -/
def file? (r : Results) (p : Path) : Option FileResult := r.files.find? fun f => f.path == p

end Results

/-- The lines of a results view. -/
structure View where
  /-- The lines. -/
  lines : List String
  deriving DecidableEq, Repr, Inhabited

/-- The header of a file. -/
def FileResult.header (f : FileResult) : String := s!"[{f.count}] {f.path.text}"

/-- The line of a match. -/
def FileResult.entry (f : FileResult) (resultsLine : Nat) (region : Region) (line : String) :
    String :=
  (Link.mk f.path resultsLine f.count region).text ++ "\t" ++ trim line

/-- The lines of a file, the first of which is line `start` of the view. -/
def FileResult.block (f : FileResult) (start : Nat) : List String :=
  f.header :: (f.regions.zip f.lines).map fun m => f.entry (start + 1) m.1 m.2

/-- The lines of files, the first of which is line `start` of the view. -/
def blocks (start : Nat) : List FileResult → List String
  | [] => []
  | f :: fs =>
    let b := f.block start
    b ++ blocks (start + b.length) fs

/-- The view of the results. -/
def Results.render (r : Results) : View := ⟨blocks 0 r.files⟩

namespace View

/-- The view as one text. -/
def text (v : View) : String := unlines v.lines

/-- The link of a line. -/
def linkOf (line : String) : Option Link :=
  match splitChars '\t' line.toList with
  | first :: _ => Link.parse? (String.ofList first)
  | [] => none

/-- The link on line `i`, if it lists a match. -/
def linkAt (v : View) (i : Nat) : Option Link := v.lines[i]?.bind linkOf

/-- The first line from line `i` on that lists a match. -/
def nextLink (v : View) (i : Nat) : Option Nat :=
  ((v.lines.drop i).findIdx? fun line => (linkOf line).isSome).map (i + ·)

/-- The links to matches in a file. -/
def linksFor (v : View) (p : Path) : List Link :=
  (v.lines.filterMap linkOf).filter fun l => l.path == p

/-- The view without a line, and that line. -/
def removeLine (v : View) (i : Nat) : Option String × View :=
  match v.lines[i]? with
  | some line => (some line, ⟨v.lines.eraseIdx i⟩)
  | none => (none, v)

end View
end Find
end CodeDesk
