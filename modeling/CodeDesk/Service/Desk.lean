import CodeDesk.Desk.Intent
import CodeDesk.Service.Debugging
import CodeDesk.Service.Runs
import CodeDesk.Service.Searching
import CodeDesk.Service.Settings

/-!
# Requests to a desk

What a front end asks of a whole desk: to carry out an intent, to open and
save documents, to run commands, to search, to debug and to keep settings.
It addresses documents by their paths, and runs by numbers. Its debuggers
are scripted.
-/

namespace CodeDesk
namespace Service

/-- The failure of a desk. -/
def deskFailure (e : DeskError) : Value :=
  match e with
  | .document e => documentFailure e
  | .find e => findFailure e
  | .command e => commandFailure e
  | .debugger _ => failure "Start" e.message
  | e => reportFailure e.message

/-- A desk with what a front end knows about it. -/
structure DeskBench where
  /-- The desk. -/
  desk : Desk Debug.Script
  /-- The runs by their numbers. -/
  seen : Mentioned
  deriving Inhabited

namespace DeskBench

/-- Exchange the desk. -/
def withDesk (b : DeskBench) (d : Desk Debug.Script) : DeskBench := { b with desk := d }

/-- Work with the desk. -/
def on {α : Type} (b : DeskBench) (f : Desk Debug.Script → α × Desk Debug.Script) :
    α × DeskBench :=
  let (a, d) := f b.desk
  (a, b.withDesk d)

/-- Answer with what came of an operation. -/
def reply {α : Type} (b : DeskBench)
    (f : Desk Debug.Script → Except DeskError α × Desk Debug.Script)
    (answer : α → DeskBench → Value × DeskBench) : Value × DeskBench :=
  match b.on f with
  | (.error e, b) => (deskFailure e, b)
  | (.ok a, b) => answer a b

end DeskBench

/-! ## Events -/

/-- Something a desk tells. -/
def deskEvent (seen : Mentioned) : DeskEvent → Value × Mentioned
  | .output e => (.list [.text "Output", sinkEvent e], seen)
  | .run e =>
    let (v, seen) := runEvent seen e
    (.list [.text "Run", v], seen)
  | .debug e => (.list [.text "Debug", debugEvent e], seen)

/-- What a desk has told, by source. -/
def eventsBySource (seen : Mentioned) (c : Channels) : Value × Mentioned :=
  let (runs, seen) := runEvents seen c.runs
  (obj [("output", .list (c.output.map sinkEvent)), ("run", .list runs),
    ("debug", .list (c.debug.map debugEvent))], seen)

/-- The event that a request sends. -/
def asEvent? (name : String) (args : List Value) : Option DeskEvent :=
  let a := asText (arg args 0)
  if name == "line" then
    let text := asText (arg args 2)
    some (.output (.line a ⟨asStream (arg args 1), text, text⟩))
  else if name == "cleared" then some (.output (.cleared a))
  else if name == "started" then some (.run (.started 0 a (asBool (arg args 1))))
  else if name == "finished" then some (.run (.finished 0 a .success))
  else if name == "refresh" then some (.debug .refresh)
  else if name == "status" then some (.debug (.status .ready))
  else none

/-- A request to channels. -/
def channelsRequest (name : String) (args : List Value) (c : Channels) : Value × Channels :=
  let batch (es : List DeskEvent) : Value := .list (es.map fun e => (deskEvent [] e).1)
  match asEvent? name args with
  | some e => (.null, c.send e)
  | none =>
    if name == "drain" then
      let (es, c) := c.drain
      (batch es, c)
    else if name == "wait" then
      match c.ready?.bind c.wait? with
      | some (es, c) => (batch es, c)
      | none => (.null, c)
    else (.null, c)

/-- A request about an environment. -/
def environmentRequest (name : String) (args : List Value) (e : Environment) :
    Value × Environment :=
  let a := asText (arg args 0)
  let (r, e) : Value × Environment :=
    if name == "set" then (.null, e.set a (asText (arg args 1)))
    else if name == "unset" then
      let (was, e) := e.unset a
      (optText was, e)
    else if name == "get" then (optText (e.get? a), e)
    else if name == "go_mod" then (.null, e.setGoModules (asBool (arg args 0)))
    else (.null, e)
  (obj [("r", r), ("vars", textTable e.vars)], e)

/-! ## Intents -/

/-- What the debugger is asked for. -/
def asDebugRequest? (v : Value) : Option Desk.DebugRequest :=
  let xs := asList v
  let name := asText (arg xs 0)
  let a := arg xs 1
  let line := asNat (arg xs 2)
  if name == "Start" then some .start
  else if name == "Continue" then some .resume
  else if name == "StepOver" then some (.step .line)
  else if name == "StepInto" then some (.step .into)
  else if name == "StepOut" then some (.step .out)
  else if name == "StepInstruction" then some (.step .instruction)
  else if name == "Stop" then some .stop
  else if name == "Detach" then some .detach
  else if name == "AddBreak" then some (.addBreak (asPath a) line)
  else if name == "DeleteBreak" then some (.deleteBreak (asPath a) line)
  else if name == "ToggleBreak" then some (.toggleBreak (asPath a) line)
  else if name == "SetFrame" then some (.setFrame (asNat a))
  else if name == "SetThread" then some (.setThread (asNat a))
  else if name == "FindFrames" then some (.findFrames (asPath a) line)
  else if name == "ListGlobals" then some (.listGlobals (asText a))
  else if name == "ShowVar" then some (.showVar (asText a))
  else none

/-- What a user asks a desk for, or the failure of the request. -/
def asIntent (v : Value) : Except Value Intent :=
  let xs := asList v
  let name := asText (arg xs 0)
  let a := arg xs 1
  if name == "Save" then .ok .save
  else if name == "SaveAll" then .ok .saveAll
  else if name == "Build" then .ok .build
  else if name == "Run" then .ok .run
  else if name == "Command" then .ok (.command (asText a))
  else if name == "Kill" then .ok (.kill (asText a))
  else if name == "Find" then
    match Find.Request.ofValue? Value.isNull a with
    | some r => .ok (.find r)
    | none => .error jsonError
  else if name == "OpenResult" then .ok (.openResult (asNat a))
  else if name == "ReplaceAt" then .ok (.replaceAt (asNat a))
  else if name == "ReplaceAll" then .ok .replaceAll
  else if name == "Debug" then
    match asDebugRequest? a with
    | some r => .ok (.debug r)
    | none => .error (badInput "no such intent")
  else .error (badInput "no such intent")

/-- Find the document of a path. -/
def withDocument (b : DeskBench) (v : Value)
    (f : BufferId → DeskBench → Value × DeskBench) : Value × DeskBench :=
  match b.on fun d => d.onDocuments fun docs => docs.byPath (asPath v) with
  | (some id, b) => f id b
  | (none, b) => (badInput "no such buffer", b)

/-- The active editor, which shows an open document. -/
def withActive (b : DeskBench) (opts : Value)
    (f : Option ActiveView → DeskBench → Value × DeskBench) : Value × DeskBench :=
  match given opts "active" with
  | none => f none b
  | some p => withDocument b p fun id b =>
      f (some ⟨id, ((given opts "editor").map asEditor).getD ⟨0, 0, ""⟩⟩) b

/-- Wait for runs. -/
def waitEach (M : Machine) (b : DeskBench) (ids : List Command.RunId) :
    List Command.Outcome × DeskBench :=
  ids.foldl (fun (acc : List Command.Outcome × DeskBench) id =>
    let (o, r) := acc.2.desk.runner.wait M id
    (acc.1 ++ [o], acc.2.withDesk (acc.2.desk.withRunner r))) ([], b)

/-- The label of a run. -/
def runLabel (b : DeskBench) (id : Command.RunId) : Value :=
  .text (((b.desk.runner.runs[id]?).map (·.plan.label)).getD "")

/-- Runs with their numbers. -/
def numbered (b : DeskBench) : List Command.RunId → List Value × DeskBench
  | [] => ([], b)
  | id :: ids =>
    let (n, seen) := mention b.seen id
    let (vs, b) := numbered { b with seen := seen } ids
    (.list [n, runLabel b id] :: vs, b)

/-- Runs that were waited for, with how they have ended. -/
def labelled (b : DeskBench) (ids : List Command.RunId) (os : List Command.Outcome) : List Value :=
  (ids.zip os).map fun x => .list [runLabel b x.1, outcome x.2]

/-- Let the workers of the debugger finish. -/
def settleDebugger (H : Host Debug.Script) (b : DeskBench) : DeskBench :=
  (b.on fun d => d.onDebugger fun c => ((), c.settle H.debugging)).2

/-- Show the results of a search. -/
def showAnswer (b : DeskBench) (r : Find.Results) : Value × DeskBench :=
  b.reply (fun d => d.showResults r) fun view b =>
    (.list [.text "Searching", obj (results r), .texts view.lines], b)

/-- What came of an intent. -/
def intentAnswer (H : Host Debug.Script) (nowait : Bool) (b : DeskBench) :
    IntentOutcome → Value × DeskBench
  | .saved n => (.list [.text "Saved", num n], b)
  | .started ids =>
    let b := if nowait then b else (waitEach H.machine b ids).2
    let (vs, b) := numbered b ids
    (.list [.text "Started", .list vs], b)
  | .killed o => (.list [.text "Killed", optOutcome o], b)
  | .found r => showAnswer b r
  | .opened id r =>
    (.list [.text "Opened", path (b.desk.documents.store.pathOf id), region r], b)
  | .replaced n => (.list [.text "Replaced", num n], b)
  | .debugger (.following w) =>
    let b := settleDebugger H b
    let how := if b.desk.debugger.isAtWork w then "running" else "ended"
    (.list [.text "Continuing", .text how], b)
  | .debugger (.accepted yes) => (.list [.text "Debugger", .bool yes], settleDebugger H b)

/-- Carry out an intent. -/
def performRequest (H : Host Debug.Script) (args : List Value) (b : DeskBench) :
    Value × DeskBench :=
  let opts := arg args 1
  match asIntent (arg args 0) with
  | .error v => (v, b)
  | .ok i =>
    withActive b opts fun active b =>
      let r : Request := ⟨active, asPrompter opts, asBool (field opts "cancel")⟩
      b.reply (fun d => d.perform H i r) fun out b =>
        intentAnswer H (asBool (field opts "nowait")) b out

/-! ## Requests -/

/-- A document, or null. -/
def documentAnswer (d : Desk Debug.Script) (id : BufferId) : Value :=
  Value.ofOption buffer (d.documents.store.buffer? id)

/-- The names of the documents. -/
def namesAnswer (b : DeskBench) : Value × DeskBench :=
  let (names, b) := b.on fun d => d.onDocuments Documents.names
  (.texts names, b)

/-- A request about the documents of a desk. -/
def deskDocuments (H : Host Debug.Script) (name : String) (args : List Value) (b : DeskBench) :
    Option (Value × DeskBench) :=
  let a := arg args 0
  if name == "open_file" then
    let p := asPath a
    let asked := match Desk.sidecarFound? b.desk.documents p with
      | some sidecar => Value.list [path p, path sidecar]
      | none => .null
    some (b.reply (fun d => d.openFile p (asSidecarChoice (arg args 1))) fun id b =>
      let (names, b) := namesAnswer b
      (obj [("buffer", documentAnswer b.desk id), ("asked", asked), ("names", names)], b))
  else if name == "close_file" then
    some (withDocument b a fun id b => namesAnswer (b.withDesk (b.desk.closeFile id)))
  else if name == "docs" then
    let (names, b) := namesAnswer b
    let (changed, b) := b.on fun d => d.onDocuments Documents.changed
    some (obj [("names", names), ("changed", num changed)], b)
  else if name == "edit" then
    some (withDocument b a fun id b =>
      let region := asRegion (arg args 1)
      match b.desk.documents.store.replace id region (asText (arg args 2)) false with
      | .ok (e, s) => (edit e, b.withDesk (b.desk.withStore s))
      | .error e => (documentFailure e, b))
  else if name == "buffer" then some (withDocument b a fun id b => (documentAnswer b.desk id, b))
  else if name == "save_file" then
    some (withDocument b a fun id b =>
      b.reply (fun d => d.saveFile H.machine id (asPrompter (arg args 1))) fun ids b =>
        let (os, b) := waitEach H.machine b ids
        (.list (labelled b ids os), b))
  else if name == "save_all_check" then
    let (c, b) := b.on fun d => d.saveAllCheck H.machine (asBool a) (asSaveChoice (arg args 1))
      (asPrompter (arg args 2))
    some
      (obj
        [("unsaved", match c.unsaved with
            | .ok yes => .bool yes
            | .error e => documentFailure e),
         ("asked", match c.asked with
            | some n => .list [num n, .bool (asBool a)]
            | none => .null),
         ("ran", .bool c.proceeds)], b)
  else none

/-- A request about the runs of a desk. -/
def deskRuns (H : Host Debug.Script) (name : String) (args : List Value) (b : DeskBench) :
    Option (Value × DeskBench) :=
  let M := H.machine
  let a := arg args 0
  let label := asText a
  let runner := b.desk.runner
  if name == "run_command" then
    let opts := arg args 1
    some (withActive b opts fun active b =>
      b.reply (fun d => d.runCommand M label active (asPrompter opts)) fun id b =>
        let (os, b) := waitEach M b [id]
        (.list [runLabel b id, optOutcome os.head?], b))
  else if name == "settle" then some (.null, b.withDesk (b.desk.withRunner (runner.waitAll M)))
  else if name == "events" then
    let (v, seen) := eventsBySource b.seen b.desk.channels
    some (v, ⟨b.desk.withChannels Channels.empty, seen⟩)
  else if name == "values" then some (valuesAnswer b.desk.values, b)
  else if name == "sink" then some (sinkLines runner.sinks label, b)
  else if name == "sinks" then some (.texts runner.sinks.names, b)
  else if name == "kill" then
    let (o, b) := b.on fun d => d.kill M label
    some (optOutcome o, b)
  else if name == "running" then some (.texts runner.table.keys, b)
  else if name == "env" then
    some (obj [("env", textTable b.desk.env.vars), ("runner", textTable runner.env)], b)
  else if name == "set_env" then
    some (.null, b.withDesk (b.desk.setVariable label (asText (arg args 1))))
  else if name == "no_prompt" then some (.null, b.withDesk { b.desk with noPrompt := asBool a })
  else if name == "labels" then some (.texts b.desk.registry.labels, b)
  else none

/-- A request about the settings of a desk. -/
def deskSettings (name : String) (args : List Value) (b : DeskBench) :
    Option (Value × DeskBench) :=
  let a := arg args 0
  if name == "find_config" then
    some (match asConfig a with
      | some c => (.null, b.withDesk { b.desk with findConfig := c })
      | none => (jsonError, b))
  else if name == "set" then
    some (match replaceSettings b.desk.settings a with
      | some s => (.null, b.withDesk (b.desk.updateSettings s))
      | none => (jsonError, b))
  else if name == "settings" then some (settingsAnswer b.desk.settings, b)
  else if name == "post_save" then
    some (match languageNamed? a with
      | some l =>
        (.null, b.withDesk { b.desk with
          languages := b.desk.languages.setPostSave l (asTexts (arg args 1)) })
      | none => (jsonError, b))
  else if name == "save_project" then some (b.reply Desk.saveProject fun _ b => (.null, b))
  else none

/-- A request about the searches of a desk. -/
def deskSearches (name : String) (args : List Value) (b : DeskBench) :
    Option (Value × DeskBench) :=
  let a := arg args 0
  if name == "find" then
    let opts := arg args 1
    some (match Find.Request.ofValue? Value.isNull a with
      | none => (jsonError, b)
      | some r =>
        b.reply
          (fun d => d.find r ((given opts "active").map asPath) (asBool (field opts "cancel")))
          fun view b => (.texts view.lines, b))
  else if name == "find_results" then
    some (Value.ofOption (fun f => obj (results f.results)) b.desk.findings, b)
  else if name == "find_view" then
    some (Value.ofOption (fun f => .texts f.view.lines) b.desk.findings, b)
  else if name == "open_result" then
    some (b.reply (fun d => d.openResult (asNat a)) fun r b =>
      (.list [documentAnswer b.desk r.1, region r.2], b))
  else if name == "replace_at" then
    some (b.reply (fun d => d.replaceAt (asNat a)) fun yes b => (.bool yes, b))
  else if name == "replace_all" then
    some (b.reply Desk.replaceAll fun n b => (num n, b))
  else none

/-- A time in seconds, or `now` if the clock has shown it since `start`. -/
def timeAnswer (start now t : Stamp) : Value :=
  if start ≤ t && t ≤ now then .text "now" else num (t / 1000000000)

/-- A request about the debugger of a desk; `start` is the time at which the
clock started. -/
def deskDebugger (H : Host Debug.Script) (start : Stamp) (name : String) (args : List Value)
    (b : DeskBench) : Option (Value × DeskBench) :=
  let a := arg args 0
  let onController (f : Bench → Bench) : DeskBench :=
    (b.on fun d => d.onDebugger fun c => ((), f c)).2
  if name == "latest_change" then
    some (timeAnswer start b.desk.disk.clock b.desk.latestChange, b)
  else if name == "script" then
    some (.null, onController fun c => { c with world := editScript a c.world })
  else if name == "fire" then some (.null, onController fun c => fireStatus c "Finished" (asText a))
  else if name == "debugger" then
    let (calls, b) := b.on fun d => d.onDebugger takeCalls
    let c := b.desk.debugger
    some (obj [("view", debugView c), ("calls", calls), ("marked", marked c.marks)], b)
  else if name == "shutdown" then
    some (.null, settleDebugger H (b.withDesk (b.desk.shutdown H)))
  else none

/-- A request to a desk. -/
def deskRequest (H : Host Debug.Script) (start : Stamp) (name : String) (args : List Value)
    (b : DeskBench) : Value × DeskBench :=
  if name == "perform" then performRequest H args b
  else
    ((deskDocuments H name args b <|> deskRuns H name args b <|> deskSettings name args b <|>
      deskSearches name args b <|> deskDebugger H start name args b).getD (.null, b))

/-! ## Opening -/

/-- What a desk is opened with, and the disk then, or the failure of the
request. -/
def asSupplies (v : Value) (d : Disk) : Except Value (Supplies Debug.Script × Disk) := do
  let registry ← match given v "registry" with
    | none => Except.ok Command.Registry.defaults
    | some cs =>
      match (asList cs).mapM Command.Spec.ofValue? with
      | some cs => Except.ok (Command.Registry.ofList cs)
      | none => Except.error jsonError
  let languages ← match given v "lang_opts" with
    | none => Except.ok Settings.Stored.standard
    | some o =>
      match Settings.LanguageOptions.ofValue? o with
      | some o => Except.ok o
      | none => Except.error jsonError
  let supplies (recent : Option (Settings.StateFile Settings.Recent)) : Supplies Debug.Script :=
    ⟨registry, languages, recent, Debug.Script.blank, Debug.Marks.blank⟩
  match given v "recent" with
  | none => Except.ok (supplies none, d)
  | some p =>
    match Settings.StateFile.openAt d (asPath p) with
    | (.ok f, d) => Except.ok (supplies (some f), d)
    | (.error e, _) => Except.error (stateFailure e)

/-- Open the desk that a request describes. -/
def openDesk (v : Value) (d : Disk) : Except Value DeskBench := do
  let (w, d) ← asSupplies v d
  match given v "open" with
  | some p =>
    match Desk.openProject (asPath p) w d with
    | .ok desk => .ok ⟨desk, []⟩
    | .error e => .error (deskFailure e)
  | none =>
    match replaceSettings (Settings.ProjectSettings.ofRoot (asPath (field v "root")))
        (field v "settings") with
    | some s => .ok ⟨Desk.ofSettings s w d, []⟩
    | none => .error jsonError

end Service
end CodeDesk
