import CodeDesk.Document.Documents
import CodeDesk.Find.Results
import CodeDesk.Regex.Replace

/-!
# Replacing matches

A replacer keeps, for every match of a search, where the match is now. A
replacement moves the matches behind it; a match that was replaced or
touched by a replacement is no longer pending.
-/

namespace CodeDesk
namespace Find

/-- A match: where it was found, and where it is now while it is pending. -/
structure Tracked where
  /-- Where it was found. -/
  found : Region
  /-- Where it is now. -/
  now : Option Region
  deriving DecidableEq, Repr, Inhabited

/-- The pending matches of a search. -/
structure Replacer where
  /-- What was looked for. -/
  request : Request
  /-- The program that finds a match. -/
  program : Regex.Program
  /-- The matches by file. -/
  files : List (Path × List Tracked)
  deriving Inhabited

namespace Replacer

/-- The matches of a file before anything was replaced. -/
def track (f : FileResult) : List Tracked := f.regions.map fun r => ⟨r, some r⟩

/-- The matches of the files; of files with one path the last counts. -/
def trackAll (fs : List FileResult) : List (Path × List Tracked) :=
  fs.foldl (fun ts f => ts.filter (fun t => !(t.1 == f.path)) ++ [(f.path, track f)]) []

/-- A replacer for the results of a search. -/
def ofResults (r : Results) : Except FindError Replacer :=
  match r.request.program with
  | .ok p => .ok ⟨r.request, p, trackAll r.files⟩
  | .error e => .error e

/-- The matches of a file. -/
def tracked (r : Replacer) (p : Path) : List Tracked :=
  match r.files.find? fun f => f.1 == p with
  | some f => f.2
  | none => []

/-- Where the pending matches of a file are now. -/
def highlights (r : Replacer) (p : Path) : List Region := (r.tracked p).filterMap (·.now)

/-- Where the match of a link is now. -/
def current (r : Replacer) (l : Link) : Option Region :=
  ((r.tracked l.path).find? fun t => t.found == l.region).bind (·.now)

/-- What takes the place of a matched text. -/
def replacementFor (r : Replacer) (found : List Char) : String :=
  if r.request.isRegex then
    String.ofList (r.program.replaceFirst r.request.replacement.toList found)
  else r.request.replacement

/-- Whether the program matches a text as a whole. -/
def matchesWhole (r : Replacer) (found : List Char) : Bool :=
  r.program.find found == some (0, found.length)

/-- The matches of a file after one of them was replaced. -/
def adjustAll (l : Link) (edit : TextEdit) (ts : List Tracked) : List Tracked :=
  ts.map fun t =>
    if t.found == l.region then { t with now := none }
    else { t with now := t.now.bind fun r => r.adjusted edit }

/-- The replacer after the match of a link was replaced. -/
def advance (r : Replacer) (l : Link) (edit : TextEdit) : Replacer :=
  { r with files := r.files.map fun f => if f.1 == l.path then (f.1, adjustAll l edit f.2) else f }

/-- Replace the match of a link in a buffer. The result tells whether
anything was replaced: not if the match is no longer pending or its text no
longer matches. -/
def replace (r : Replacer) (l : Link) (id : BufferId) (s : Store) :
    Except FindError (Bool × Replacer × Store) :=
  match r.current l with
  | none => .ok (false, r, s)
  | some region =>
    let text := (s.textOf id).toList
    match region.indices? text with
    | none => .ok (false, r, s)
    | some (i, j) =>
      let found := sliceChars text i j
      if !r.matchesWhole found then .ok (false, r, s)
      else
        let keepCase := r.request.ignoreCase && !r.request.isRegex
        match s.replace id region (r.replacementFor found) keepCase with
        | .error e => .error (.document e)
        | .ok (edit, s) => .ok (true, r.advance l edit, s)

/-- Highlight the pending matches of a link's file in a buffer; the result
is where the match of the link is now. -/
def reveal (r : Replacer) (l : Link) (id : BufferId) (s : Store) : Option Region × Store :=
  (r.current l, s.highlight id (r.highlights l.path))

/-- Replace the match that a line of the view lists and take the line away,
so that the next match moves up to its place. -/
def replaceAt (r : Replacer) (v : View) (line : Nat) (id : BufferId) (s : Store) :
    Except FindError (Bool × Replacer × View × Store) :=
  match v.linkAt line with
  | none => .error (.badLink ((v.lines[line]?).getD ""))
  | some l =>
    match r.replace l id s with
    | .error e => .error e
    | .ok (replaced, r, s) =>
      .ok (replaced, r, (v.removeLine line).2, s.highlight id (r.highlights l.path))

/-- Replace matches of a file one after the other; the result counts
them. -/
def replaceRegions (f : FileResult) (id : BufferId) :
    List Region → Replacer → Store → Nat × Except FindError Unit × Replacer × Store
  | [], r, s => (0, .ok (), r, s)
  | region :: rest, r, s =>
    match r.replace ⟨f.path, 0, f.count, region⟩ id s with
    | .error e => (0, .error e, r, s)
    | .ok (replaced, r, s) =>
      let (n, out, r, s) := replaceRegions f id rest r s
      ((if replaced then 1 else 0) + n, out, r, s)

/-- How a file gets its buffer. -/
abbrev Opener := Path → Documents → Except FindError BufferId × Documents

/-- The buffer of a file with matches. -/
def bufferFor (opener : Opener) (f : FileResult) (d : Documents) :
    Except FindError BufferId × Documents :=
  match f.buffer with
  | some id => (.ok id, d)
  | none => opener f.path d

/-- Replace the pending matches of files one file after the other. -/
def replaceFiles (opener : Opener) :
    List FileResult → Replacer → Documents → Nat × Except FindError Unit × Replacer × Documents
  | [], r, d => (0, .ok (), r, d)
  | f :: fs, r, d =>
    match bufferFor opener f d with
    | (.error e, d) => (0, .error e, r, d)
    | (.ok id, d) =>
      match replaceRegions f id f.regions r d.store with
      | (n, .error e, r, s) => (n, .error e, r, { d with store := s })
      | (n, .ok (), r, s) =>
        let (m, out, r, d) := replaceFiles opener fs r { d with store := s.highlight id [] }
        (n + m, out, r, d)

/-- Replace every pending match, opening buffers as needed. The result is
the number of replacements. -/
def replaceAll (r : Replacer) (results : Results) (opener : Opener) (d : Documents) :
    Except FindError Nat × Replacer × Documents :=
  let (n, out, r, d) := replaceFiles opener results.files r d
  (out.map fun _ => n, r, d)

end Replacer
end Find
end CodeDesk
