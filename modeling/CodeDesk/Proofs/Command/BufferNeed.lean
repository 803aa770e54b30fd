import Mathlib.Algebra.Order.BigOperators.Group.List
import Mathlib.Algebra.Order.Group.Nat
import CodeDesk.Command.Spec
import CodeDesk.Proofs.Template.Values
/-!
# Buffer need — which commands depend on the active buffer

A command that needs no buffer is bound to the same programs, arguments and
directory whatever file and editor are active. A command that needs one can
tell some buffer from none: every variable that a buffer gives a value to is
longer with the one than without, and no other value changes, so the longer
text is not made up for elsewhere in the template. Both hold for every project
and all answers (`needsBuffer_exact`).
-/

namespace CodeDesk

namespace Template
namespace Values

variable {v v' : Values} {name template : String} {project : ProjectPaths}

/-! ## Longer values -/

/-- If no value of a template is shorter and one is longer, then so is what it
is bound to. -/
theorem length_bind_lt
    (hle : ∀ name ∈ names template, (v.textAt name).length ≤ (v'.textAt name).length)
    (hlt : ∃ name ∈ names template, (v.textAt name).length < (v'.textAt name).length) :
    (v.bind template).length < (v'.bind template).length := by
  rw [bind, bind, bind_eq_fillAll, bind_eq_fillAll, fillAll, fillAll, String.length_join,
    String.length_join, List.map_map, List.map_map]
  refine List.sum_lt_sum _ _ ?_ ?_
  · intro seg hseg
    cases seg with
    | text s => exact Nat.le_refl _
    | var name => exact hle name (mem_names_iff.2 hseg)
  · obtain ⟨name, hname, hlt⟩ := hlt
    exact ⟨.var name, mem_names_iff.1 hname, hlt⟩

/-! ## A buffer that shows in every value -/

/-- Without a file there is no directory within the project. -/
theorem projectRelative_empty (root : Path) : (projectRelative root Path.empty).text = "" := by
  have hcomponents : Path.empty.components = [] := by decide
  rw [projectRelative, Path.stripPrefix?, hcomponents]
  cases hroot : root.components with
  | nil => decide
  | cons first rest => exact show (rootless Path.empty).text = "" by decide

theorem leads_pair {cs : List Component} {a b : Component} (h : Path.leads cs [a, b]) :
    cs = [] ∨ cs = [a] ∨ cs = [a, b] := by
  match cs with
  | [] => exact Or.inl rfl
  | [x] =>
    simp only [Path.leads, Bool.and_eq_true, beq_iff_eq] at h
    exact Or.inr (Or.inl (by rw [h.1]))
  | x :: y :: rest =>
    cases rest with
    | nil =>
      simp only [Path.leads, Bool.and_eq_true, beq_iff_eq] at h
      exact Or.inr (Or.inr (by rw [h.1, h.2.1]))
    | cons z rest => simp [Path.leads] at h

/-- A file in either of two directories. -/
def samples : List Path := [⟨"/aa/cc.dd"⟩, ⟨"/bb/cc.dd"⟩]

/-- The cursor and the selection have two characters each. -/
def sampleEditor : EditorContext := ⟨9, 9, "ee"⟩

/-- Of the two directories one is not the project's root, and so it has a name
within the project. -/
theorem exists_sample (root : Path) : ∃ file ∈ samples,
    2 ≤ (projectRelative root (file.parent?.getD Path.empty)).text.length := by
  have hparent : (Path.mk "/aa/cc.dd").parent?.getD Path.empty = ⟨"/aa"⟩ := by decide
  have hparent' : (Path.mk "/bb/cc.dd").parent?.getD Path.empty = ⟨"/bb"⟩ := by decide
  have hcomponents : (Path.mk "/aa").components = [.root, .name "aa"] := by decide
  by_cases hroot : root.components = [.root, .name "aa"]
  · refine ⟨⟨"/bb/cc.dd"⟩, List.mem_cons_of_mem _ List.mem_cons_self, ?_⟩
    rw [hparent', projectRelative, Path.stripPrefix?, hroot]
    decide
  · refine ⟨⟨"/aa/cc.dd"⟩, List.mem_cons_self, ?_⟩
    rw [hparent, projectRelative, Path.stripPrefix?, hcomponents]
    by_cases hlead : Path.leads root.components [.root, .name "aa"]
    · obtain hnil | hslash | hsame := leads_pair hlead
      · rw [hnil]
        decide
      · rw [hslash]
        decide
      · exact absurd hsame hroot
    · rw [Bool.not_eq_true] at hlead
      rw [hlead]
      exact show 2 ≤ (rootless ⟨"/aa"⟩).text.length by decide

/-- The names in the order of the variables. -/
theorem bufferNames_eq : bufferNames =
    ["FilePath", "FileDir", "FileDirProjRel", "Filename", "FilenameNoExt", "FileExt",
     "CursorLine", "CursorCol", "SelectionText"] := rfl

/-- Without a buffer its variables have one character at most. -/
theorem length_textAt_none (project : ProjectPaths) :
    ∀ name ∈ bufferNames, ((resolve none project none).textAt name).length ≤ 1 := by
  have hrelative := projectRelative_empty project.root
  have hparent : Path.empty.parent?.getD Path.empty = Path.empty := by decide
  have hparts : Path.empty.text.length ≤ 1 ∧ Path.empty.fileName.length ≤ 1 ∧
      (Path.empty.fileStem?.getD "").length ≤ 1 ∧ (Path.empty.extension?.getD "").length ≤ 1 ∧
      (Nat.repr 0).length ≤ 1 := by decide
  rw [bufferNames_eq]
  simp [textAt, get?, resolve, Table.ofList, Table.get?_set, hrelative, hparent, hparts]

/-- Every part of the path of a sample has two characters at least. -/
theorem two_le_of_mem_samples : ∀ file ∈ samples, file.isAbsolute ∧ 2 ≤ file.text.length ∧
    2 ≤ (file.parent?.getD Path.empty).fileName.length ∧ 2 ≤ file.fileName.length ∧
    2 ≤ (file.fileStem?.getD "").length ∧ 2 ≤ (file.extension?.getD "").length := by
  rw [samples, List.forall_mem_cons, List.forall_mem_singleton]
  decide

/-- With a sample and that editor they have two at least. -/
theorem length_textAt_some {project : ProjectPaths} {file : Path} (hfile : file ∈ samples)
    (hrelative : 2 ≤ (projectRelative project.root (file.parent?.getD Path.empty)).text.length) :
    ∀ name ∈ bufferNames,
      2 ≤ ((resolve (some file) project (some sampleEditor)).textAt name).length := by
  obtain ⟨habs, htext, hdir, hname, hstem, hextension⟩ := two_le_of_mem_samples file hfile
  have habsolute : project.absolute file = file := by
    rw [ProjectPaths.absolute, habs, Bool.or_true, if_pos rfl]
  have heditor : 2 ≤ (Nat.repr (wordSucc 9)).length ∧ 2 ≤ "ee".length := by decide
  rw [bufferNames_eq]
  simp [textAt, get?, resolve, Table.ofList, Table.get?_set, habsolute, htext, hname, hdir, hstem,
    hextension, hrelative, heditor, sampleEditor]

/-- Answers do not change what a buffer gives. -/
theorem textAt_answered (hname : name ∈ bufferNames) (v : Values) (answers : List (Nat × String)) :
    (v.answered answers).textAt name = v.textAt name := by
  have hslots : ∀ name ∈ bufferNames, promptSlot? name = none := by decide
  rw [textAt, get?_answered_of_ne, textAt]
  rintro ⟨slot, _⟩ - hone hslot rfl
  have hnone := hslots _ hname
  rw [← paddedName_zero, promptSlot?_paddedName 0 hone hslot] at hnone
  cases hnone

/-- What refers to a variable of the buffer becomes longer with a sample. -/
theorem length_bind_none_lt {file : Path} (hfile : file ∈ samples)
    (hrelative : 2 ≤ (projectRelative project.root (file.parent?.getD Path.empty)).text.length)
    (answers : List (Nat × String)) (hrefers : ∃ name ∈ names template, name ∈ bufferNames) :
    (((resolve none project none).answered answers).bind template).length <
      (((resolve (some file) project (some sampleEditor)).answered answers).bind template).length := by
  have hlonger : ∀ name ∈ bufferNames,
      (((resolve none project none).answered answers).textAt name).length <
        (((resolve (some file) project (some sampleEditor)).answered answers).textAt name).length := by
    intro name hbuffer
    rw [textAt_answered hbuffer, textAt_answered hbuffer]
    have := length_textAt_none project name hbuffer
    have := length_textAt_some hfile hrelative name hbuffer
    omega
  obtain ⟨name, hname, hbuffer⟩ := hrefers
  refine length_bind_lt (fun name _ => ?_) ⟨name, hname, hlonger name hbuffer⟩
  by_cases hbuffer : name ∈ bufferNames
  · exact Nat.le_of_lt (hlonger name hbuffer)
  · rw [textAt, textAt, get?_answered_congr (get?_resolve_congr hbuffer ..) answers]

end Values

/-- A variable needs a buffer exactly if a buffer gives it its value. -/
theorem needsBuffer_iff_mem (name : String) :
    (lookup? name).any (fun v => v.kind.needsBuffer) ↔ name ∈ Values.bufferNames := by
  constructor
  · intro h
    cases hlookup : lookup? name with
    | none =>
      rw [hlookup] at h
      cases h
    | some v =>
      rw [hlookup] at h
      have hname := List.find?_some hlookup
      rw [beq_iff_eq] at hname
      exact List.mem_map.2 ⟨v, List.mem_filter.2 ⟨List.mem_of_find?_eq_some hlookup, h⟩, hname⟩
  · have hall : ∀ name ∈ Values.bufferNames, (lookup? name).any fun v => v.kind.needsBuffer := by
      decide
    exact hall name

end Template

namespace Command

open Template Template.Values

/-- A command needs a buffer when a template refers to what a buffer gives. -/
theorem needsBuffer_eq_true_iff (c : Spec) : c.needsBuffer = true ↔
    ∃ t ∈ c.templates, ∃ name ∈ names t, name ∈ bufferNames := by
  rw [Spec.needsBuffer, List.any_eq_true]
  constructor
  · rintro ⟨v, hv, hneeds⟩
    obtain ⟨name, hname, hlookup⟩ := List.mem_filterMap.1 hv
    obtain ⟨t, ht, hname⟩ := List.mem_flatMap.1 hname
    exact ⟨t, ht, name, hname, (needsBuffer_iff_mem name).1 (by rw [hlookup]; exact hneeds)⟩
  · rintro ⟨t, ht, name, hname, hbuffer⟩
    have hany := (needsBuffer_iff_mem name).2 hbuffer
    cases hlookup : lookup? name with
    | none =>
      rw [hlookup] at hany
      cases hany
    | some v =>
      rw [hlookup] at hany
      exact ⟨v, List.mem_filterMap.2 ⟨name, List.mem_flatMap.2 ⟨t, ht, hname⟩, hlookup⟩, hany⟩

/-- **A command needs a buffer exactly if it depends on the buffer.** For every
project and all answers: unless the command needs one, any two files with any
two editors bind each of its templates alike, and if it does, some two bind
one of its templates differently. -/
theorem needsBuffer_exact (c : Spec) (project : ProjectPaths) (answers : List (Nat × String)) :
    (c.needsBuffer = false → ∀ file file' editor editor', ∀ t ∈ c.templates,
      ((resolve file project editor).answered answers).bind t =
        ((resolve file' project editor').answered answers).bind t) ∧
    (c.needsBuffer = true → ∃ file file' editor editor', ∃ t ∈ c.templates,
      ((resolve file project editor).answered answers).bind t ≠
        ((resolve file' project editor').answered answers).bind t) := by
  constructor
  · intro hneeds file file' editor editor' t ht
    refine bind_congr fun name hname => get?_answered_congr (get?_resolve_congr ?_ ..) answers
    intro hbuffer
    rw [(needsBuffer_eq_true_iff c).2 ⟨t, ht, name, hname, hbuffer⟩] at hneeds
    cases hneeds
  · intro hneeds
    obtain ⟨t, ht, name, hname, hbuffer⟩ := (needsBuffer_eq_true_iff c).1 hneeds
    obtain ⟨file, hfile, hrelative⟩ := exists_sample project.root
    have hlength := length_bind_none_lt hfile hrelative answers ⟨name, hname, hbuffer⟩
    refine ⟨none, some file, none, some sampleEditor, t, ht, fun heq => ?_⟩
    rw [heq] at hlength
    exact Nat.lt_irrefl _ hlength

/-- A command that formats the active file, and one that builds the project. -/
theorem needsBuffer_exact_fmt :
    let fmt : Spec := ⟨"Rust", "Fmt File", "", [], [], [⟨"rustfmt", ["\x7bFilePath\x7d"]⟩],
      "\x7bProjectRoot\x7d", false, false, false, .plain⟩
    let make : Spec := ⟨"Build", "Make", "", [], [], [⟨"make", ["\x7bPromptString1\x7d"]⟩],
      "\x7bBuildDir\x7d", false, false, false, .plain⟩
    let project : ProjectPaths := ⟨⟨"/aa"⟩, ⟨"build"⟩, ⟨"out"⟩, ⟨"out"⟩⟩
    (fmt.needsBuffer = true ∧ ∃ file file' editor editor', ∃ t ∈ fmt.templates,
      ((resolve file project editor).answered [(1, "all")]).bind t ≠
        ((resolve file' project editor').answered [(1, "all")]).bind t) ∧
    (make.needsBuffer = false ∧ "\x7bBuildDir\x7d" ∈ make.templates ∧
      ∀ file, ((resolve file project none).answered [(1, "all")]).bind "\x7bBuildDir\x7d" =
        ((resolve none project none).answered [(1, "all")]).bind "\x7bBuildDir\x7d") := by
  intro fmt make project
  have hfmt : fmt.needsBuffer = true := by decide +kernel
  have hmake : make.needsBuffer = false := by decide +kernel
  have hdir : "\x7bBuildDir\x7d" ∈ make.templates := by decide
  exact ⟨⟨hfmt, (needsBuffer_exact fmt project _).2 hfmt⟩, hmake, hdir,
    fun file => (needsBuffer_exact make project _).1 hmake file none none none _ hdir⟩

end Command
end CodeDesk
