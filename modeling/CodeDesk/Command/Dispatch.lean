import CodeDesk.Command.Registry
import CodeDesk.Command.Schedule

/-!
# Dispatching commands

What has to be settled before a command runs: the user confirms it, the
buffer it is about is there, and the answers that its templates need are
given. A command that is refused leaves the runner as it is; only answers
that were given stay with the values.
-/

namespace CodeDesk
namespace Command

/-- What the user is asked. -/
inductive Question where
  /-- Whether the command is to run. -/
  | confirm
  /-- The value for a slot. -/
  | slot (n : Nat)
  deriving DecidableEq, Repr, Inhabited

/-- Who answers for the user. -/
structure Prompter where
  /-- Whether a command is to run. -/
  confirms : Spec → Bool
  /-- The value for a slot of a command; `none` refuses it. -/
  answer? : Spec → Nat → Option String

/-- Confirms everything and answers nothing. -/
def Prompter.silent : Prompter := ⟨fun _ => true, fun _ _ => none⟩

/-- The circumstances in which a command is run. -/
structure Circumstances where
  /-- Whether the output of the run before stays in the sink. -/
  keepOutput : Bool
  /-- Whether slots without an answer count as empty, so that nobody is
  asked. -/
  noPrompt : Bool
  /-- Whether there is an active buffer. -/
  hasBuffer : Bool
  /-- The directory for commands that name none. -/
  home : Path
  deriving DecidableEq, Repr, Inhabited

/-- Ask for slots until one is refused: the values with the answers, and
the slots that were asked for. -/
def askSlots (answer? : Nat → Option String) :
    List Nat → Template.Values → Except Template.BindError Unit × Template.Values × List Nat
  | [], v => (.ok (), v, [])
  | n :: ns, v =>
    match answer? n with
    | none => (.ok (), v, [n])
    | some text =>
      match v.setPrompt n text with
      | .error e => (.error e, v, [n])
      | .ok v =>
        let (e, v, asked) := askSlots answer? ns v
        (e, v, n :: asked)

/-- What a command is started with once its values are known. -/
def Spec.plan (c : Spec) (v : Template.Values) (at_ : Circumstances) : Plan where
  label := c.label
  steps := c.steps.map fun s => ⟨v.bind s.program, s.args.map v.bind⟩
  dir := let dir := v.bind c.dir
    if dir.isEmpty then at_.home else ⟨dir⟩
  wait := c.wait
  focus := c.focus
  filter := c.filter
  clear := !at_.keepOutput

/-- What was settled about a command: a plan, or why it is refused; the
values with the answers; what was asked, in order. -/
structure Settled where
  /-- The plan. -/
  plan : Except CommandError Plan
  /-- The values. -/
  values : Template.Values
  /-- What was asked. -/
  asked : List Question

/-- Settle everything about the answers that a command needs. -/
def Spec.settleAnswers (c : Spec) (v : Template.Values) (p : Prompter) (at_ : Circumstances)
    (asked : List Question) : Settled :=
  if at_.noPrompt then ⟨.ok (c.plan v at_), v, asked⟩
  else
    let (e, v, slots) := askSlots (p.answer? c) (v.missingPromptsOf c.templates) v
    let asked := asked ++ slots.map .slot
    match e with
    | .error e => ⟨.error (.badTemplate e), v, asked⟩
    | .ok _ =>
      match v.checkPrompts c.templates with
      | .error e => ⟨.error (.badTemplate e), v, asked⟩
      | .ok _ => ⟨.ok (c.plan v at_), v, asked⟩

/-- Settle everything that a command needs. -/
def Spec.settle (c : Spec) (v : Template.Values) (p : Prompter) (at_ : Circumstances) : Settled :=
  if c.confirm && !p.confirms c then ⟨.error (.notConfirmed c.label), v, [.confirm]⟩
  else
    let asked := if c.confirm then [.confirm] else []
    if c.needsBuffer && !at_.hasBuffer then ⟨.error (.noActiveBuffer c.label), v, asked⟩
    else c.settleAnswers v p at_ asked

/-- What came of dispatching a command. -/
structure Dispatched where
  /-- The run, or why the command is refused. -/
  run : Except CommandError RunId
  /-- The values with the answers. -/
  values : Template.Values
  /-- What was asked, in order. -/
  asked : List Question
  /-- The runner. -/
  runner : Runner

/-- Start a command. A run of the same label is killed first. -/
def Runner.dispatch (M : Machine) (r : Runner) (c : Spec) (v : Template.Values) (p : Prompter)
    (at_ : Circumstances) : Dispatched :=
  let s := c.settle v p at_
  match s.plan with
  | .error e => ⟨.error e, s.values, s.asked, r⟩
  | .ok plan =>
    let (id, r) := r.start M plan
    ⟨.ok id, s.values, s.asked, r⟩

end Command
end CodeDesk
