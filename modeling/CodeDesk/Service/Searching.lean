import CodeDesk.Find.Replacer
import CodeDesk.Find.Scan
import CodeDesk.Service.Documents

/-!
# Requests about searches

What a front end asks of the results of a search: their links and their
lines, and to replace what was found. The buffers of the results have
numbers, in the order in which the front end gets to know them.
-/

namespace CodeDesk
namespace Service

/-- A link to a match. -/
def link (l : Find.Link) : Value :=
  obj [("path", path l.path), ("results_line", num l.resultsLine), ("count", num l.count),
    ("region", region l.region), ("display", .text l.text)]

/-- The failure of a search. -/
def findFailure (e : Find.FindError) : Value :=
  match e with
  | .invalidPattern _ => failure "InvalidRegex" e.message
  | .noActiveFile => failure "NoActiveFile" e.message
  | .cancelled => failure "Cancelled" e.message
  | .badLink _ => failure "BadLink" e.message
  | .document e => documentFailure e

/-- The failure of a text that is not a link. -/
def badLink (s : String) : Value := findFailure (.badLink s)

/-- A request, which is blank when there is none. -/
def asRequest (v : Option Value) : Option Find.Request :=
  match v with
  | none => some Find.Request.blank
  | some v => Find.Request.ofValue? Value.isNull v

/-- What every search keeps to. -/
def asConfig (v : Value) : Option Find.Config :=
  match v with
  | .null => some Find.Config.standard
  | v => Find.Config.ofValue? v

/-- The word for a reason to skip a file. -/
def skipName : Find.SkipReason → String
  | .tooBig => "TooBig"
  | .language => "Language"
  | .projectFile => "ProjectFile"
  | .binary => "Binary"
  | .sidecar => "Autosave"

/-- The matches in a file. -/
def fileResult (f : Find.FileResult) : Value :=
  obj [("path", path f.path), ("count", num f.count), ("regions", regions f.regions),
    ("lines", .texts f.lines), ("buffer", .bool f.buffer.isSome)]

/-- Results. -/
def results (r : Find.Results) : List (String × Value) :=
  [("total", num r.total), ("empty", .bool r.isEmpty), ("files", .list (r.files.map fileResult))]

/-- A request about a view of results. -/
def viewRequest (name : String) (args : List Value) (r : Find.Results) (v : Find.View) :
    Option (Value × Find.View) :=
  let i := asNat (arg args 0)
  if name == "link_at" then some (Value.ofOption link (v.linkAt i), v)
  else if name == "next_link" then some (optNum (v.nextLink i), v)
  else if name == "links_for" then
    some (.texts ((v.linksFor (asPath (arg args 0))).map (·.text)), v)
  else if name == "remove_line" then
    let (l, v) := v.removeLine i
    some (optText l, v)
  else if name == "file" then
    some (Value.ofOption fileResult (r.file? (asPath (arg args 0))), v)
  else none

/-- What there is to know about a view. -/
def viewFields (v : Find.View) : List (String × Value) :=
  [("text", .text v.text), ("len", num v.lines.length), ("empty", .bool v.lines.isEmpty)]

/-- The matches in a file. -/
def asFileResult (v : Value) : Find.FileResult :=
  ⟨asPath (field v "path"), asNat (field v "count"), (listAt v "regions").map asRegion,
    (listAt v "lines").map asText, none⟩

mutual

/-- A file tree. -/
def node : Find.Node → Value
  | .file p b => obj [("path", path p), ("buffer", .bool b.isSome)]
  | .dir p o cs => obj [("path", path p), ("open", .bool o), ("children", .list (nodes cs))]

/-- File trees. -/
def nodes : List Find.Node → List Value
  | [] => []
  | n :: ns => node n :: nodes ns

end

/-- Make the buffers that a request describes. -/
def inputBuffers : List Value → Store → Except Value (List BufferId × Store)
  | [], s => .ok ([], s)
  | v :: vs, s =>
    let p := asPath (field v "path")
    let made : Except DocumentError (BufferId × Store) := match given v "text" with
      | some t => .ok (s.ofText p (contentText t))
      | none => s.openFile p
    match made with
    | .error e => .error (documentFailure e)
    | .ok (id, s) => (inputBuffers vs s).map fun r => (id :: r.1, r.2)

/-- What the steps of a search work on. Buffers are numbered for the answers by their place in
`numbers`. -/
structure FindState where
  /-- The documents. -/
  docs : Documents
  /-- The buffers in the order of their numbers. -/
  numbers : List BufferId
  /-- The results. -/
  results : Find.Results
  /-- The lines that show them. -/
  view : Find.View
  /-- What replaces matches. -/
  replacer : Find.Replacer

/-- The state with another store. -/
def FindState.stored (f : FindState) (s : Store) : FindState :=
  { f with docs := { f.docs with store := s } }

/-- Number the buffers that were made since a store had `count` of them. -/
def FindState.numberFrom (f : FindState) (count : Nat) : FindState :=
  let fresh := (List.range f.docs.store.buffers.length).drop count
  { f with numbers := f.numbers ++ fresh.filter fun id => !f.numbers.contains id }

/-- Open a file for a replacement. -/
def findOpener : Find.Replacer.Opener := fun p d =>
  match d.store.openFile p with
  | .ok (id, s) => (.ok id, { d with store := s })
  | .error e => (.error (.document e), d)

/-- A request about the results of a search. -/
def searchRequest (name : String) (args : List Value) (f : FindState) : Value × FindState :=
  let store := f.docs.store
  let a := arg args 0
  let withBuffer (v : Value) (g : BufferId → Value × FindState) : Value × FindState :=
    match f.numbers[asNat v]? with
    | some id => g id
    | none => (badInput "no such buffer", f)
  let withLink (v : Value) (g : Find.Link → Value × FindState) : Value × FindState :=
    match Find.Link.parse? (asText v) with
    | some l => g l
    | none => (badLink (asText v), f)
  match viewRequest name args f.results f.view with
  | some (v, view) => (v, { f with view := view })
  | none =>
    if name == "open" then
      match store.openFile (asPath a) with
      | .ok (id, s) =>
        let f := { f.stored s with numbers := f.numbers ++ [id] }
        (num (f.numbers.length - 1), f)
      | .error e => (documentFailure e, f)
    else if name == "edit" then
      withBuffer a fun id =>
        match store.replace id (asRegion (arg args 1)) (asText (arg args 2)) false with
        | .ok (e, s) => (edit e, f.stored s)
        | .error e => (documentFailure e, f)
    else if name == "buffer" then
      withBuffer a fun id => (Value.ofOption buffer (store.buffer? id), f)
    else if name == "close" then withBuffer a fun id => (.null, f.stored (store.close id))
    else if name == "view" then
      (obj (("lines", .texts f.view.lines) :: viewFields f.view), f)
    else if name == "highlights" then (regions (f.replacer.highlights (asPath a)), f)
    else if name == "current" then
      withLink a fun l => (Value.ofOption region (f.replacer.current l), f)
    else if name == "show" then
      withLink a fun l => withBuffer (arg args 1) fun id =>
        let (r, s) := f.replacer.reveal l id store
        (Value.ofOption region r, f.stored s)
    else if name == "replace" then
      withLink a fun l => withBuffer (arg args 1) fun id =>
        match f.replacer.replace l id store with
        | .ok (done, r, s) => (.bool done, { f.stored s with replacer := r })
        | .error e => (findFailure e, f)
    else if name == "replace_at" then
      withBuffer (arg args 1) fun id =>
        match f.replacer.replaceAt f.view (asNat a) id store with
        | .ok (done, r, v, s) => (.bool done, { f.stored s with replacer := r, view := v })
        | .error e => (findFailure e, f)
    else if name == "replace_all" then
      let count := store.buffers.length
      let (out, r, d) := f.replacer.replaceAll f.results findOpener f.docs
      let f := ({ f with docs := d, replacer := r }).numberFrom count
      let opened := (List.range d.store.buffers.length).drop count
      (obj
        [("replaced", match out with
            | .ok n => num n
            | .error e => findFailure e),
         ("opened", .list (opened.map fun id => path (d.store.pathOf id)))], f)
    else if name == "refresh" then
      match Find.Replacer.ofResults f.results with
      | .ok r => (.null, { f with replacer := r, view := f.results.render })
      | .error e => (findFailure e, f)
    else (.null, f)

end Service
end CodeDesk
