import CodeDesk.Desk.Debugging
import CodeDesk.Desk.Running
import CodeDesk.Proofs.Command.Settling
import CodeDesk.Proofs.Debug.Dismissal
import CodeDesk.Proofs.Files.Join
/-!
# The executable — what is run and what is debugged

A project has one setting for its executable, and it is resolved twice: the
command `Run: Run Exec` starts what the variable `RunExec` stands for
(`runsAlone_runExec`), and the debugger is started on `exePath`
(`debugs_exePath`). The one is taken from the root of the project, the other
from the directory that it is built in. So what is run is what is debugged
exactly if the setting is absolute, or the project is built in its root
(`sameExecutable_iff`).
-/

namespace CodeDesk

namespace Command

open Template Template.Values

/-- The command that runs the executable of the project. -/
def runExec : Spec :=
  Registry.simple "Run" "Run Exec" "run the project executable" "Any" "\x7bRunExec\x7d" []
    "\x7bBuildDir\x7d" true .plain

theorem get_runExec : Registry.defaults.get "Run: Run Exec" = .ok runExec := by decide +kernel

theorem bind_runExec (lookup : String → Option String) :
    Template.bind lookup "\x7bRunExec\x7d" = (lookup "RunExec").getD "" := by
  have hsegments : segments "\x7bRunExec\x7d" = [.var "RunExec"] := by
    simp [segments, segmentsOf, piece, cutFirst, isName, isIdentChar]
  rw [bind_eq_fillAll, hsegments]
  simp [Segment.fill]

/-- The command is never refused. -/
theorem settle_runExec (v : Values) (p : Prompter) (at_ : Circumstances) :
    (runExec.settle v p at_).plan = .ok (runExec.plan v at_) := by
  refine settle_of_unasked rfl (by decide +kernel) (fun slot h => ?_) v p at_
  obtain ⟨template, htemplate, name, hname, hslot⟩ := h
  have hnone : ∀ template ∈ runExec.templates, ∀ name ∈ names template,
      promptSlot? name = none := by decide +kernel
  rw [hnone template htemplate name hname] at hslot
  cases hslot

/-- It starts what the variable stands for. -/
theorem steps_runExec (file : Option Path) (project : ProjectPaths) (editor : Option EditorContext)
    (at_ : Circumstances) : (runExec.plan (resolve file project editor) at_).steps =
      [⟨(project.absolute project.runExec).text, []⟩] := by
  have hbound := bind_runExec (resolve file project editor).get?
  rw [get?_resolve_runExec, Option.getD_some] at hbound
  exact congrArg (fun program => [Step.mk program []]) hbound

end Command

namespace Settings.ProjectSettings

variable {s : ProjectSettings}

/-- Where the executable is that is debugged. -/
theorem exePath_eq (s : ProjectSettings) :
    s.exePath = (s.root.join s.buildDir).join s.runExec := by
  rw [exePath]
  split
  · next habsolute => rw [Path.join_absolute habsolute]
  · rfl

/-- **Two ways to the executable** lead to the same one if it is absolute, and
otherwise if the project is built in its root. -/
theorem join_beq_exePath_iff (hroot : s.root.isAbsolute = true) :
    (s.root.join s.runExec == s.exePath) = true ↔
      s.runExec.isAbsolute = true ∨ (s.root.join s.buildDir == s.root) = true := by
  rw [exePath_eq]
  cases hrun : s.runExec.isAbsolute with
  | true =>
    rw [Path.join_absolute hrun, Path.join_absolute hrun]
    exact iff_of_true (Path.beq_refl _) (.inl rfl)
  | false =>
    have hrootText := Path.text_ne_of_isAbsolute hroot
    have hbuildText : (s.root.join s.buildDir).text ≠ "" := by
      cases hbuild : s.buildDir.isAbsolute with
      | true =>
        rw [Path.join_absolute hbuild]
        exact Path.text_ne_of_isAbsolute hbuild
      | false => exact Path.text_join_ne hrootText hbuild
    rw [Path.join_beq_join_iff hrootText hbuildText hrun, or_iff_right Bool.false_ne_true,
      Path.beq_comm]

end Settings.ProjectSettings

namespace Desk

variable {σ : Type}

/-- The command of a label starts one program, without arguments. -/
def RunsAlone (M : Machine) (d : Desk σ) (label : String) (active : Option ActiveView)
    (p : Command.Prompter) (program : Path) : Prop :=
  ∃ plan : Command.Plan, plan.steps = [⟨program.text, []⟩] ∧
    (d.runCommand M label active p).1 = .ok (d.runner.start M plan).1 ∧
    (d.runCommand M label active p).2.runner = (d.runner.start M plan).2

/-- Debugging is started on an executable. -/
structure Debugs (S : Debug.Setup σ) (d : Desk (σ × List Debug.Exchange)) (exe : Path) : Prop where
  /-- No debugger is started on another one. -/
  only : Debug.Controller.Asked (fun x => ∀ l, x.call = .start l → l.exe = exe) d.debugger
    (d.startDebugging S.logged).2.debugger
  /-- Without a session there is one question, to start a debugger on it. -/
  fresh : d.debugger.session = none → ∃ l r, l.exe = exe ∧
    (d.startDebugging S.logged).2.debugger.world.2 =
      d.debugger.world.2 ++ [⟨d.debugger.starts + 1, .start l, r⟩]

/-- A relative path of the settings is taken from the root. -/
theorem absolute_runExec (d : Desk σ) (hrun : d.settings.runExec.text ≠ "") :
    d.paths.absolute d.settings.runExec = d.settings.root.join d.settings.runExec := by
  rw [Template.ProjectPaths.absolute, String.isEmpty_eq_false_iff.2 hrun, Bool.false_or]
  split
  · next habsolute => exact (Path.join_absolute habsolute _).symm
  · rfl

/-- **What is run** by the command for the executable. -/
theorem runsAlone_runExec (M : Machine) (d : Desk σ) (active : Option ActiveView)
    (p : Command.Prompter) (hcommand : d.registry.get "Run: Run Exec" = .ok Command.runExec) :
    d.RunsAlone M "Run: Run Exec" active p (d.paths.absolute d.settings.runExec) := by
  refine ⟨_, Command.steps_runExec (d.activePath active) d.paths (active.map (·.editor))
    (d.circumstances active.isSome), ?_⟩
  have hsettled := Command.settle_runExec
    (Template.Values.resolve (d.activePath active) d.paths (active.map (·.editor))) p
    (d.circumstances active.isSome)
  rw [runCommand, hcommand]
  dsimp only
  rw [Command.Runner.dispatch, hsettled]
  exact ⟨rfl, rfl⟩

/-- **What is debugged.** -/
theorem debugs_exePath (S : Debug.Setup σ) (d : Desk (σ × List Debug.Exchange)) :
    d.Debugs S d.settings.exePath := by
  let l : Debug.Launch := ⟨d.settings.exePath, d.settings.root, d.settings.debug.params⟩
  have hstart : (d.startDebugging S.logged).2.debugger =
      (d.debugger.start S.logged d.runner.sinks l d.tick.2.latestChange d.tick.1).2.1 := rfl
  constructor
  · obtain ⟨new, hlog, hnew⟩ :=
      Debug.Controller.asks_start d.runner.sinks l d.tick.2.latestChange d.tick.1
    refine ⟨new, hlog, fun x hx l' hcall => ?_⟩
    cases hnew x hx with
    | present s session number request =>
      rw [hcall] at request
      rcases request with request | request <;> cases request
    | next l'' latestChange now isStart number request =>
      cases isStart
      cases hcall.symm.trans request
      rfl
  · intro hnone
    obtain ⟨r, hlog, -⟩ := Debug.Controller.log_build (S := S) (c := d.debugger) d.runner.sinks l
      d.tick.1
    obtain ⟨new, hready, hnew⟩ := Debug.Controller.log_readied (S := S) (c := d.debugger)
    obtain ⟨-, rfl⟩ | ⟨s, -, hsome, -⟩ := hnew
    · refine ⟨l, r, rfl, ?_⟩
      rw [hstart, Debug.Controller.start, hnone]
      rw [hready, List.append_nil] at hlog
      exact hlog
    · cases hnone.symm.trans hsome

/-- **Run and debug use the same executable** exactly if it is absolute or the
project is built in its root. -/
theorem sameExecutable_iff (M : Machine) (S : Debug.Setup σ) (d : Desk (σ × List Debug.Exchange))
    (active : Option ActiveView) (p : Command.Prompter)
    (hcommand : d.registry.get "Run: Run Exec" = Command.Registry.defaults.get "Run: Run Exec")
    (hroot : d.settings.root.isAbsolute = true) (hrun : d.settings.runExec.text ≠ "") :
    ∃ run, (Template.Values.resolve (d.activePath active) d.paths
        (active.map (·.editor))).get? "RunExec" = some run ∧
      d.RunsAlone M "Run: Run Exec" active p ⟨run⟩ ∧ d.Debugs S d.settings.exePath ∧
      ((⟨run⟩ == d.settings.exePath) = true ↔ d.settings.runExec.isAbsolute = true ∨
        (d.settings.root.join d.settings.buildDir == d.settings.root) = true) := by
  refine ⟨_, Template.Values.get?_resolve_runExec _ _ _,
    runsAlone_runExec M d active p (hcommand.trans Command.get_runExec), debugs_exePath S d, ?_⟩
  rw [show d.paths.runExec = d.settings.runExec from rfl, absolute_runExec d hrun]
  exact Settings.ProjectSettings.join_beq_exePath_iff hroot

/-- A project with its executable in a file `app`, and the directory that it
is built in. -/
def builtIn (buildDir : Path) : Desk (Debug.Script × List Debug.Exchange) :=
  ofSettings { (default : Settings.ProjectSettings) with
      root := ⟨"/work/app"⟩
      buildDir := buildDir
      runExec := ⟨"app"⟩ }
    ⟨Command.Registry.defaults, Settings.LanguageOptions.empty, none, (Debug.Script.blank, []),
      .hidden⟩ default

/-- The project is built in its root, which is written in another way. -/
theorem sameExecutable_root :
    (builtIn ⟨"./"⟩).settings.root.isAbsolute = true ∧
      (builtIn ⟨"./"⟩).settings.runExec.text ≠ "" ∧
      (builtIn ⟨"./"⟩).settings.exePath = ⟨"/work/app/./app"⟩ ∧
      ∃ run, (builtIn ⟨"./"⟩).RunsAlone ⟨fun _ _ => .error default⟩ "Run: Run Exec" none .silent
          ⟨run⟩ ∧
        (builtIn ⟨"./"⟩).Debugs Debug.Scene.played (builtIn ⟨"./"⟩).settings.exePath ∧
        ((⟨run⟩ : Path) == (builtIn ⟨"./"⟩).settings.exePath) = true := by
  have hroot : (builtIn ⟨"./"⟩).settings.root.isAbsolute = true := by decide +kernel
  have hrun : (builtIn ⟨"./"⟩).settings.runExec.text ≠ "" := by decide +kernel
  obtain ⟨run, -, hruns, hdebugs, hsame⟩ := sameExecutable_iff ⟨fun _ _ => .error default⟩
    Debug.Scene.played (builtIn ⟨"./"⟩) none .silent rfl hroot hrun
  exact ⟨hroot, hrun, by decide +kernel, run, hruns, hdebugs, hsame.2 (.inr (by decide +kernel))⟩

/-- **The project is built in a directory of its own**: what is run lies in
the root, and what is debugged where the project is built. -/
theorem not_sameExecutable_build :
    (builtIn ⟨"build"⟩).settings.root.isAbsolute = true ∧
      (builtIn ⟨"build"⟩).settings.runExec.text ≠ "" ∧
      (Template.Values.resolve none (builtIn ⟨"build"⟩).paths none).get? "RunExec" =
        some "/work/app/app" ∧
      (builtIn ⟨"build"⟩).RunsAlone ⟨fun _ _ => .error default⟩ "Run: Run Exec" none .silent
        ⟨"/work/app/app"⟩ ∧
      (builtIn ⟨"build"⟩).settings.exePath = ⟨"/work/app/build/app"⟩ ∧
      (builtIn ⟨"build"⟩).Debugs Debug.Scene.played ⟨"/work/app/build/app"⟩ ∧
      ((⟨"/work/app/app"⟩ : Path) == ⟨"/work/app/build/app"⟩) = false := by
  have hexe : (builtIn ⟨"build"⟩).settings.exePath = ⟨"/work/app/build/app"⟩ := by decide +kernel
  have hrun : (builtIn ⟨"build"⟩).paths.absolute (builtIn ⟨"build"⟩).settings.runExec =
      ⟨"/work/app/app"⟩ := by decide +kernel
  refine ⟨by decide +kernel, by decide +kernel, by decide +kernel, ?_, hexe, ?_, by decide +kernel⟩
  · rw [← hrun]
    exact runsAlone_runExec _ _ none .silent Command.get_runExec
  · rw [← hexe]
    exact debugs_exePath _ _

end Desk
end CodeDesk
