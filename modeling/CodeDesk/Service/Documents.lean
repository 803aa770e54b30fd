import CodeDesk.Document.Documents
import CodeDesk.Service.Answer

/-!
# Requests about documents

What a front end asks of buffers and of the list of open documents. It knows
buffers by their numbers, in the order in which they were made; a buffer may
have a number without being in the list.
-/

namespace CodeDesk
namespace Service

/-- What there is to know about a language. -/
def languageInfo (l : Language) : Value :=
  obj [("variant", .text l.keyword), ("name", .text l.name), ("display", .text l.name),
    ("source", .bool l.isSource)]

/-- The failure of an operation on a document. -/
def documentFailure (e : DocumentError) : Value :=
  failure
    (match e with
      | .read _ => "Read"
      | .write _ => "Write"
      | .invalidRegion _ => "InvalidRegion"
      | .detached _ => "Detached")
    e.message

/-- What there is to know about a buffer. -/
def bufferFields (b : Buffer) : List (String × Value) :=
  [("path", path b.path), ("name", .text b.name), ("dirty", .bool b.dirty),
   ("language", language b.language?), ("attached", .bool b.attached),
   ("has_mod_time", .bool true), ("text", .text b.text), ("highlights", regions b.highlights)]

/-- What there is to know about a buffer. -/
def buffer (b : Buffer) : Value := obj (bufferFields b)

/-- What to do with a sidecar. -/
def asSidecarChoice (v : Value) : SidecarChoice :=
  if asText v == "Discard" then .discard else .openSeparately

/-- What to do with unsaved changes. -/
def asSaveChoice (v : Value) : SaveChoice :=
  if asText v == "Cancel" then .cancel
  else if asText v == "Discard" then .discard
  else .saveAll

/-- An answer without a value. -/
def unitAnswer (r : Except DocumentError Unit) : Value :=
  match r with
  | .ok _ => .null
  | .error e => documentFailure e

/-- The names of buffers that were saved. -/
def savedNames (d : Documents) (ids : List BufferId) : Value := .texts (ids.map d.store.nameOf)

/-- What edits do to a region, one after the other. -/
def regionEdits : Option Region → List Value → List Value
  | _, [] => []
  | none, _ :: vs => obj [("overlaps", .null), ("now", .null)] :: regionEdits none vs
  | some r, v :: vs =>
    let e := asEdit v
    let now := r.adjusted e
    obj [("overlaps", .bool (r.overlaps e.region)), ("now", Value.ofOption region now)] ::
      regionEdits now vs

/-- A request about a buffer. -/
def bufferRequest (name : String) (id : BufferId) (b : Buffer) (args : List Value)
    (d : Documents) : Value × Documents :=
  let stored (s : Store) : Documents := { d with store := s }
  let a := arg args 0
  if name == "add" then
    let (isNew, d) := d.add id
    (.bool isNew, d)
  else if name == "remove" then
    let (was, d) := d.remove id
    (.bool was, d)
  else if name == "set_text" then (.null, stored (d.store.setText id (contentText a)))
  else if name == "set_dirty" then (.null, stored (d.store.setDirty id (asBool a)))
  else if name == "autosave" then
    match d.store.autosave id with
    | .ok (wrote, s) => (.bool wrote, stored s)
    | .error e => (documentFailure e, d)
  else if name == "save" then
    let (r, s) := d.store.save id
    (unitAnswer r, stored s)
  else if name == "revert" then
    let (r, s) := d.store.revert id
    (unitAnswer r, stored s)
  else if name == "close" then (.null, stored (d.store.close id))
  else if name == "text" then (.text b.text, d)
  else if name == "replace" then
    match d.store.replace id (asRegion a) (asText (arg args 1)) (asBool (arg args 2)) with
    | .ok (e, s) => (edit e, stored s)
    | .error e => (documentFailure e, d)
  else if name == "search" then (regions (b.search (asText a) (asBool (arg args 1))), d)
  else if name == "search_re" then
    match Regex.compile? false (asText a) with
    | some p => (regions (findRegions p b.text), d)
    | none => (silent "Regex", d)
  else if name == "highlight" then
    (.null, stored (d.store.highlight id ((asList a).map asRegion)))
  else if name == "info" then
    (obj (bufferFields b ++ [("autosave_enabled", .bool b.keepsSidecar)]), d)
  else if name == "reconcile" then
    let asked := if b.hasSidecar d.store.disk then
        Value.list [path b.path, path (sidecarOf b.path)] else .null
    match b.reconcile d.store.disk (asSidecarChoice a) with
    | .error e => (documentFailure e, d)
    | .ok (r, disk) =>
      let result := match r with
        | .nothing => Value.text "Nothing"
        | .discarded => .text "Discarded"
        | .openSeparately p => .list [.text "OpenSeparately", path p]
      (obj [("result", result), ("asked", asked)], stored { d.store with disk := disk })
  else (.null, d)

/-- A request about the open documents. -/
def documentsRequest (name : String) (args : List Value) (d : Documents) : Value × Documents :=
  let stored (s : Store) : Documents := { d with store := s }
  let a := arg args 0
  if name == "open" then
    match d.store.openFile (asPath a) with
    | .ok (id, s) => (num id, stored s)
    | .error e => (documentFailure e, d)
  else if name == "from_text" then
    let (id, s) := d.store.ofText (asPath a) (contentText (arg args 1))
    (num id, stored s)
  else if name == "purge" then (.null, d.purge)
  else if name == "buffers" then
    let (ids, d) := d.buffers
    (.list (ids.map num), d)
  else if name == "names" then
    let (ns, d) := d.names
    (.texts ns, d)
  else if name == "n_changed" then
    let (n, d) := d.changed
    (num n, d)
  else if name == "len" then
    let (ids, d) := d.buffers
    (.list [num ids.length, .bool ids.isEmpty], d)
  else if name == "by_name" then
    let (id, d) := d.byName (asText a)
    (optNum id, d)
  else if name == "by_path" then
    let (id, d) := d.byPath (asPath a)
    (optNum id, d)
  else if name == "save_all" then
    let (r, saved, d) := d.saveAll
    (obj
      [("saved", match r with
          | .ok n => num n
          | .error e => documentFailure e),
       ("after", savedNames d saved)], d)
  else if name == "save_all_check" then
    let (c, d) := d.saveAllCheck (asBool a) (asSaveChoice (arg args 1))
    (obj
      [("unsaved", match c.unsaved with
          | .ok b => .bool b
          | .error e => documentFailure e),
       ("asked", match c.asked with
          | some n => .list [num n, .bool (asBool a)]
          | none => .null),
       ("after", savedNames d c.saved), ("ran", .bool c.proceeds)], d)
  else if name == "write_autosave" then
    match Buffer.writeSidecar d.store.disk (asPath a) (asText (arg args 1)) with
    | .ok (p, disk) => (path p, stored { d.store with disk := disk })
    | .error e => (documentFailure e, d)
  else if name == "remove_autosave" then
    match Buffer.removeSidecar d.store.disk (asPath a) with
    | .ok (was, disk) => (.bool was, stored { d.store with disk := disk })
    | .error e => (documentFailure e, d)
  else
    match d.store.buffer? (asNat a) with
    | some b => bufferRequest name (asNat a) b (args.drop 1) d
    | none => (badInput "no such buffer", d)

end Service
end CodeDesk
