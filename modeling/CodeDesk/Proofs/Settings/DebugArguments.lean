import CodeDesk.Settings.ProjectSettings
import Mathlib.Data.List.TakeDrop
import Mathlib.Data.List.TakeWhile
/-!
# The arguments of debugging — which of them survive being stored

Project settings keep the arguments of the debugger and those of the program
in one list, with a bare `--` between them. `splitArgs_eq_iff` says which
lists are split into which two: the first separator is the one that counts,
and a list without one has arguments of the program only.

That list is written without a separator when the debugger has no
arguments. So a separator among the arguments of the program is taken for
the one in between, and what comes before it goes to the debugger
(`params_ofParams_led`). Nothing else goes wrong: parameters survive exactly
if the debugger's arguments have no separator, and the program's have none
either in case the debugger has no arguments (`survive_iff`).
-/

namespace CodeDesk

namespace Debug.Params

variable {combined front back : List String} {p : Params}

theorem ne_separator_of_notMem (h : separator ∉ front) : ∀ a ∈ front, (a != separator) = true :=
  fun _ ha => bne_iff_ne.2 fun heq => h (heq ▸ ha)

theorem splitArgs_of_notMem (h : separator ∉ combined) : splitArgs combined = ([], combined) := by
  rw [splitArgs, List.span_eq_takeWhile_dropWhile,
    List.dropWhile_eq_nil_iff.2 (ne_separator_of_notMem h)]

/-- The first separator is the one that counts. -/
theorem splitArgs_append (h : separator ∉ front) (back : List String) :
    splitArgs (front ++ separator :: back) = (front, back) := by
  have hfront := ne_separator_of_notMem h
  have hstop : (separator != separator) = false := bne_self_eq_false separator
  rw [splitArgs, List.span_eq_takeWhile_dropWhile, List.takeWhile_append_of_pos hfront,
    List.dropWhile_append_of_pos hfront, List.takeWhile_cons, List.dropWhile_cons, hstop]
  exact congrArg (fun l => (l, back)) (List.append_nil front)

/-- **Which lists are split into which two.** -/
theorem splitArgs_eq_iff : splitArgs combined = (front, back) ↔
    (separator ∉ combined ∧ front = [] ∧ back = combined) ∨
      (separator ∉ front ∧ combined = front ++ separator :: back) := by
  constructor
  · intro h
    by_cases hmem : separator ∈ combined
    · obtain ⟨before, behind, hcombined, hbefore⟩ := List.eq_append_cons_of_mem hmem
      rw [hcombined, splitArgs_append hbefore, Prod.mk.injEq] at h
      obtain ⟨rfl, rfl⟩ := h
      exact .inr ⟨hbefore, hcombined⟩
    · rw [splitArgs_of_notMem hmem, Prod.mk.injEq] at h
      exact .inl ⟨hmem, h.1.symm, h.2.symm⟩
  · rintro (⟨hmem, rfl, rfl⟩ | ⟨hfront, rfl⟩)
    · exact splitArgs_of_notMem hmem
    · exact splitArgs_append hfront back

/-- Whether the arguments can be told apart in one list. -/
def Separable (p : Params) : Prop :=
  separator ∉ p.debugArgs ∧ (p.debugArgs = [] → separator ∉ p.args)

theorem combinedArgs_of_nil (h : p.debugArgs = []) : p.combinedArgs = p.args :=
  if_pos (List.isEmpty_iff.2 h)

theorem combinedArgs_of_ne_nil (h : p.debugArgs ≠ []) :
    p.combinedArgs = p.debugArgs ++ separator :: p.args :=
  if_neg (mt List.isEmpty_iff.1 h)

theorem splitArgs_combinedArgs_iff :
    splitArgs p.combinedArgs = (p.debugArgs, p.args) ↔ p.Separable := by
  rw [splitArgs_eq_iff, Separable]
  by_cases hnil : p.debugArgs = []
  · rw [combinedArgs_of_nil hnil, hnil]
    constructor
    · rintro (⟨hmem, -, -⟩ | ⟨-, hself⟩)
      · exact ⟨List.not_mem_nil, fun _ => hmem⟩
      · exact absurd hself List.ne_cons_self
    · rintro ⟨-, hmem⟩
      exact .inl ⟨hmem rfl, rfl, rfl⟩
  · rw [combinedArgs_of_ne_nil hnil]
    constructor
    · rintro (⟨-, hnil', -⟩ | ⟨hmem, -⟩)
      · exact absurd hnil' hnil
      · exact ⟨hmem, fun hnil' => absurd hnil' hnil⟩
    · rintro ⟨hmem, -⟩
      exact .inr ⟨hmem, rfl⟩

end Debug.Params

namespace Settings.DebugSettings

open Debug (Params)
open Debug.Params (separator splitArgs)

/-- **Debug parameters survive being stored** exactly if their arguments can
be told apart in one list. -/
theorem survive_iff (p : Params) :
    (splitArgs p.combinedArgs = (p.debugArgs, p.args) ↔ p.Separable) ∧
      ((ofParams p).params = p ↔ p.Separable) := by
  refine ⟨Params.splitArgs_combinedArgs_iff, ?_⟩
  rw [← Params.splitArgs_combinedArgs_iff]
  constructor
  · intro hparams
    exact congrArg (fun q => (q.debugArgs, q.args)) hparams
  · intro hsplit
    rw [params, ofParams]
    dsimp only
    rw [hsplit]

/-- Where the debugger has no arguments, what the program has in front of a
separator is the debugger's afterwards. -/
theorem params_ofParams_led {front back : List String} (p : Params) (hnil : p.debugArgs = [])
    (hargs : p.args = front ++ separator :: back) (hfront : separator ∉ front) :
    (ofParams p).params = { p with debugArgs := front, args := back } := by
  rw [params, ofParams]
  dsimp only
  rw [Params.combinedArgs_of_nil hnil, hargs, Params.splitArgs_append hfront]

/-- The first argument of a program comes out as one of the debugger. -/
theorem not_survive_led :
    let p : Params := ⟨.exec, 0, [], ["a", "--", "b"], ""⟩
    separator ∉ p.debugArgs ∧ splitArgs p.combinedArgs ≠ (p.debugArgs, p.args) ∧
      (ofParams p).params = ⟨.exec, 0, ["a"], ["b"], ""⟩ := by
  intro p
  have hfront : separator ∉ ["a"] := by decide
  refine ⟨List.not_mem_nil, fun hsurvive => ?_, params_ofParams_led p rfl rfl hfront⟩
  have hsplit : splitArgs p.combinedArgs = (["a"], ["b"]) := Params.splitArgs_append hfront ["b"]
  rw [hsplit] at hsurvive
  cases hsurvive

end Settings.DebugSettings
end CodeDesk
