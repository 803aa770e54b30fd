import CodeDesk.Document.Sidecar
import CodeDesk.Files.Disk
import CodeDesk.Find.FileTree
import CodeDesk.Find.Request
import CodeDesk.Find.Results

/-!
# Searching files

A search takes its candidates in the order in which they are discovered,
searches each of them, and lists the files with most matches first. Files
that are open in a buffer are searched in the buffer, so the size and the contents
of the file on disk do not matter then.

A search is carried out by several workers at once, which take the candidates
from a shared counter and hand their results in to a shared list. A `Crew` is
such a search between two of their steps, and `find` is what comes out of it.
-/

namespace CodeDesk
namespace Find

/-! ## Files that are left out -/

/-- Why a file is left out. -/
inductive SkipReason where
  /-- It has too many bytes. -/
  | tooBig
  /-- It is not in a language that is asked for. -/
  | language
  /-- It is a project file. -/
  | projectFile
  /-- It does not hold text. -/
  | binary
  /-- It is a sidecar. -/
  | sidecar
  deriving DecidableEq, Repr, Inhabited

/-- How many bytes at the start of a file tell whether it holds text. -/
def sniffLength : Nat := 8 * 1024

/-- Whether the start of a file holds a zero byte. A file that cannot be
read does not. -/
def isBinary (d : Disk) (p : Path) : Bool :=
  match d.read p with
  | .ok bytes => (bytes.take sniffLength).contains 0
  | .error _ => false

/-- Whether a name ends like the names of project files. -/
def isProjectName (c : Config) (name : String) : Bool :=
  !c.projectExt.isEmpty &&
    (dropLead? c.projectExt.toList.reverse name.toList.reverse).isSome

/-- Why a file of `size` bytes is left out, if it is. -/
def skipReason (d : Disk) (r : Request) (c : Config) (p : Path) (size : Nat) (hasBuffer : Bool) :
    Option SkipReason :=
  if isSidecar p then some .sidecar
  else if isProjectName c p.fileName then some .projectFile
  else if !r.wants (Language.ofPath? p) then some .language
  else if hasBuffer then none
  else if c.bigFileSize < size then some .tooBig
  else if isBinary d p then some .binary
  else none

/-! ## Where to look -/

/-- Where a search runs and what it sees. -/
structure Scope where
  /-- The root of the project. -/
  root : Path
  /-- The file tree. -/
  tree : Option Node
  /-- The active file. -/
  active : Option Path
  /-- The open buffers. -/
  buffers : List BufferId
  /-- The settings of the project. -/
  config : Config
  deriving Inhabited

/-- A file to search, with the buffer to search in its place. -/
structure Candidate where
  /-- The file. -/
  path : Path
  /-- The buffer. -/
  buffer : Option BufferId
  deriving DecidableEq, Repr, Inhabited

/-- The last of the open buffers that belongs to a file. -/
def Scope.bufferFor (sc : Scope) (s : Store) (p : Path) : Option BufferId :=
  sc.buffers.reverse.find? fun id => s.pathOf id == p

/-- A file with its buffer: the known one, or else an open one. -/
def Scope.candidate (sc : Scope) (s : Store) (p : Path) (known : Option BufferId) : Candidate :=
  ⟨p, known <|> sc.bufferFor s p⟩

/-- The regular files directly in a directory, by name. -/
def filesIn (d : Disk) (dir : Path) : List Path :=
  match d.list dir with
  | .ok entries => (entries.filter fun e => e.2.isFile).map fun e => dir.child e.1
  | .error _ => []

/-- The regular files below a directory. -/
def filesBelow (d : Disk) (root : Path) : List Path :=
  (d.filesUnder (· != hiddenDir) root).map Prod.fst

/-- The files that a request covers, in the order of discovery. -/
def candidates (s : Store) (r : Request) (sc : Scope) : Except FindError (List Candidate) :=
  let plain (ps : List Path) : List Candidate := ps.map fun p => sc.candidate s p none
  let seen (skipTop : Bool) : List Candidate :=
    match sc.tree with
    | some tree => (tree.openFiles skipTop).map fun f => sc.candidate s f.1 f.2
    | none => []
  match r.place with
  | .activeFile =>
    match sc.active with
    | some p => .ok (plain [p])
    | none => .error .noActiveFile
  | .activeDir =>
    match sc.active with
    | some p => .ok (plain (filesIn s.disk (p.parent?.getD sc.root)))
    | none => .error .noActiveFile
  | .openDirs => .ok (seen false)
  | .belowTop => .ok (seen true)
  | .everywhere => .ok (plain (filesBelow s.disk sc.root))

/-- The matches in a text, if there are any. -/
def matchesIn (p : Regex.Program) (c : Candidate) (text : String) : Option FileResult :=
  let regions := findRegions p text
  if regions.isEmpty then none
  else
    let all := lines text
    some ⟨c.path, regions.length, regions, regions.map fun r => (all[r.start.line]?).getD "",
      c.buffer⟩

/-- The matches in a candidate. A file that cannot be read has none. -/
def searchFile (s : Store) (p : Regex.Program) (r : Request) (cfg : Config) (c : Candidate) :
    Option FileResult :=
  match c.buffer with
  | some id =>
    if (skipReason s.disk r cfg c.path 0 true).isSome then none
    else matchesIn p c (s.textOf id)
  | none =>
    match s.disk.read c.path with
    | .error _ => none
    | .ok bytes =>
      if (skipReason s.disk r cfg c.path bytes.length false).isSome then none
      else matchesIn p c (Utf8.decodeLossy bytes)

/-- Files with more matches first, others in the order they come. -/
def rank (fs : List FileResult) : List FileResult :=
  fs.mergeSort fun a b => decide (b.count ≤ a.count)

/-- Run a search, which `cancelled` stops. -/
def find (s : Store) (r : Request) (sc : Scope) (cancelled : Bool) : Except FindError Results :=
  match r.program with
  | .error e => .error e
  | .ok p =>
    match candidates s r sc with
    | .error e => .error e
    | .ok cs =>
      if cancelled then .error .cancelled
      else .ok ⟨r, rank (cs.filterMap (searchFile s p r sc.config))⟩

/-! ## Several workers -/

/-- Where a worker stands. -/
inductive Stage where
  /-- It looks next whether the search is cancelled. -/
  | look
  /-- It claims the next candidate. -/
  | claim
  /-- It searches a candidate. -/
  | search (i : Nat)
  /-- It hands in what it has found in a candidate. -/
  | report (i : Nat) (f : FileResult)
  /-- It has left. -/
  | gone
  deriving DecidableEq, Inhabited

/-- What a crew has to do. -/
structure Task where
  /-- What is looked for. -/
  request : Request
  /-- Where it is looked for. -/
  candidates : List Candidate
  /-- What is found in a candidate. -/
  search : Candidate → Option FileResult

/-- What is found in the candidate of a number. -/
def Task.found? (t : Task) (i : Nat) : Option FileResult := t.candidates[i]?.bind t.search

/-- The workers of a search and what they share. -/
structure Crew where
  /-- Whether the search is cancelled. -/
  isCancelled : Bool
  /-- The number of the next candidate to claim. -/
  next : Nat
  /-- What was handed in. -/
  found : List (Nat × FileResult)
  /-- Where each worker stands. -/
  stages : List Stage
  /-- The answer, once the search is over. -/
  answer : Option (Except FindError Results)

/-- One step of a history. -/
inductive Turn where
  /-- A worker takes its next step. -/
  | work (k : Nat)
  /-- The search is cancelled. -/
  | cancel
  /-- All workers have left, and the answer is given. -/
  | conclude
  deriving DecidableEq

namespace Crew

/-- A number of workers before they begin. -/
def start (n : Nat) : Crew := ⟨false, 0, [], List.replicate n .look, none⟩

/-- What was handed in, in the order of the candidates. -/
def collected (c : Crew) : List FileResult :=
  (c.found.mergeSort fun a b => decide (a.1 ≤ b.1)).map Prod.snd

/-- The answer when all workers have left. -/
def conclusion (t : Task) (c : Crew) : Except FindError Results :=
  if c.isCancelled then .error .cancelled else .ok ⟨t.request, rank c.collected⟩

/-- Where a worker stands after its step; `none` if it has left. -/
def nextStage? (t : Task) (c : Crew) : Stage → Option Stage
  | .look => some (if c.isCancelled then .gone else .claim)
  | .claim => some (if c.next < t.candidates.length then .search c.next else .gone)
  | .search i => some (match t.found? i with
    | some f => .report i f
    | none => .look)
  | .report _ _ => some .look
  | .gone => none

/-- What a worker's step does to what the workers share. -/
def share (c : Crew) : Stage → Crew
  | .claim => { c with next := c.next + 1 }
  | .report i f => { c with found := c.found ++ [(i, f)] }
  | _ => c

/-- The crew after a turn; `none` if it cannot be taken. The search is
cancelled at most once, and nobody takes that back. -/
def step? (t : Task) (c : Crew) : Turn → Option Crew
  | .work k =>
    c.stages[k]?.bind fun st => (c.nextStage? t st).map fun st' =>
      { c.share st with stages := c.stages.set k st' }
  | .cancel => if c.isCancelled then none else some { c with isCancelled := true }
  | .conclude =>
    if c.answer.isNone && c.stages.all (· == .gone) then
      some { c with answer := some (c.conclusion t) }
    else none

/-- The crew after a history. -/
def run? (t : Task) (c : Crew) (ms : List Turn) : Option Crew := ms.foldlM (step? t) c

end Crew
end Find
end CodeDesk
