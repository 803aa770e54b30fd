import CodeDesk.Desk.Basic

/-!
# Debugging at a desk

The debugger runs the executable of the project. It is told when the
project last changed, so that it builds anew what is out of date: when a
source file or a file that steers the build was written, or the project
file itself.
-/

namespace CodeDesk
namespace Desk

variable {σ : Type}

/-- The names of files that steer a build. -/
def buildFiles : List String :=
  ["go.mod", "go.sum", "Cargo.toml", "Cargo.lock", "Makefile", "CMakeLists.txt", "package.json"]

/-- The names of directories that hold no sources. -/
def outputDirs : List String := [".git", "target", "node_modules"]

/-- Whether what is built depends on a file. -/
def isBuildInput (p : Path) : Bool :=
  (Language.ofPath? p).any Language.isSource || p.fileName?.any buildFiles.contains

/-- When the project last changed. -/
def latestChange (d : Desk σ) : Stamp :=
  let files := d.disk.filesUnder (fun name => !outputDirs.contains name) d.settings.root
  let times := (files.filter fun f => isBuildInput f.1).map fun f =>
    match f.2 with
    | .file _ modified _ => modified
    | _ => 0
  times.foldl max d.lastSave

/-- Start debugging the executable of the project. -/
def startDebugging (S : Debug.Setup σ) (d : Desk σ) : Except DeskError Unit × Desk σ :=
  let (now, d) := d.tick
  let launch : Debug.Launch := ⟨d.settings.exePath, d.settings.root, d.settings.debug.params⟩
  let (r, c, sinks) := d.debugger.start S d.runner.sinks launch d.latestChange now
  (r.mapError .debugger,
    { d with debugger := c, runner := { d.runner with sinks := sinks } })

/-- What the debugger is asked for. -/
inductive DebugRequest where
  /-- Start. -/
  | start
  /-- Run on. -/
  | resume
  /-- Take a step. -/
  | step (k : Debug.StepKind)
  /-- Stop the program. -/
  | stop
  /-- End the session. -/
  | detach
  /-- Set a breakpoint. -/
  | addBreak (p : Path) (line : Nat)
  /-- Take a breakpoint away. -/
  | deleteBreak (p : Path) (line : Nat)
  /-- Switch a breakpoint on or off. -/
  | toggleBreak (p : Path) (line : Nat)
  /-- Look at a frame. -/
  | setFrame (depth : Nat)
  /-- Look at a thread. -/
  | setThread (id : Nat)
  /-- Look for the frames at a line. -/
  | findFrames (p : Path) (line : Nat)
  /-- Look for global variables. -/
  | listGlobals (filter : String)
  /-- Show a variable. -/
  | showVar (name : String)
  deriving DecidableEq, Repr, Inhabited

/-- What the debugger answers. -/
inductive DebugAnswer where
  /-- The program runs on, and a worker follows it. -/
  | following (w : Debug.Worker)
  /-- Whether the request was accepted. -/
  | accepted (yes : Bool)
  deriving DecidableEq, Repr, Inhabited

/-- Ask the debugger for something other than to start. -/
def askDebugger (S : Debug.Setup σ) (c : Debug.Controller σ) :
    DebugRequest → DebugAnswer × Debug.Controller σ
  | .start => (.accepted false, c)
  | .resume =>
    match c.resume S with
    | (some w, c) => (.following w, c)
    | (none, c) => (.accepted false, c)
  | .step k => let (r, c) := c.step S k; (.accepted r, c)
  | .stop => let (r, c) := c.stop S; (.accepted r, c)
  | .detach => (.accepted true, c.detach S)
  | .addBreak p line => (.accepted true, c.addBreak S p line)
  | .deleteBreak p line => let (r, c) := c.deleteBreak S p line; (.accepted r, c)
  | .toggleBreak p line => let (r, c) := c.toggleBreak S p line; (.accepted r.isSome, c)
  | .setFrame depth => let (r, c) := c.setFrame S depth; (.accepted r, c)
  | .setThread id => let (r, c) := c.setThread S id; (.accepted r, c)
  | .findFrames p line => let (r, c) := c.findFrames S p line; (.accepted !r.isEmpty, c)
  | .listGlobals filter => let (r, c) := c.listGlobals S filter; (.accepted !r.isEmpty, c)
  | .showVar name => let (r, c) := c.showVar S name; (.accepted r.isSome, c)

/-- Carry out a request to the debugger. -/
def debug (S : Debug.Setup σ) (d : Desk σ) (r : DebugRequest) :
    Except DeskError DebugAnswer × Desk σ :=
  match r with
  | .start =>
    let (out, d) := d.startDebugging S
    (out.map fun _ => .accepted true, d)
  | r =>
    let (a, d) := d.onDebugger fun c => askDebugger S c r
    (.ok a, d)

end Desk
end CodeDesk
