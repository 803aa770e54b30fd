import CodeDesk.Command.Dispatch
import CodeDesk.Proofs.Files.Join
import CodeDesk.Proofs.Template.Values
/-!
# Working directories — where a command beside its file is run

The directory of a file is told to templates as seen from the root of the
project. What is told is relative, whichever way the file and the root are
written: below the root it is what remains of the directory when the root is
taken away, and elsewhere it is the directory without the root of the disk
(`projectRelative_spec`). Taken from the root of the project, or from that
of the disk, it is the directory again. So a command whose directory is
`besideFile` is run in the directory of the file, if that is in the project.
-/

namespace CodeDesk

namespace Template

/-- The template of the directory of the active file. -/
def besideFile : String := "\x7bProjectRoot\x7d/\x7bFileDirProjRel\x7d"

theorem bind_besideFile (lookup : String → Option String) :
    bind lookup besideFile =
      (lookup "ProjectRoot").getD "" ++ "/" ++ (lookup "FileDirProjRel").getD "" := by
  have hsegments : segments besideFile =
      [.var "ProjectRoot", .text "/", .var "FileDirProjRel"] := by
    simp [besideFile, segments, segmentsOf, piece, cutFirst, isName, isIdentChar]
  rw [bind_eq_fillAll, hsegments]
  simp [Segment.fill, String.append_assoc]

namespace Values

variable {project : ProjectPaths} {root file dir : Path} {editor : Option EditorContext}

/-- The path without its root has the same parts. -/
theorem steps_rootless (hdir : dir.isAbsolute = true) :
    (rootless dir).steps = dir.steps ∧ (rootless dir).isAbsolute = false := by
  have hparts : dir.components.filter (fun c => c != .root) = dir.steps := by
    rw [Path.components_absolute hdir, List.filter_cons_of_neg (by simp), List.filter_eq_self]
    intro c hc
    rw [bne_iff_ne]
    rintro rfl
    exact dir.root_notMem_steps hc
  rw [rootless, hparts]
  exact Path.steps_ofComponents fun c hc => Path.exists_segment_of_mem_steps hc

/-- **Where a directory lies**, as seen from the root of the project or, if it
lies elsewhere, from that of the disk. -/
theorem projectRelative_spec (hroot : root.isAbsolute = true) (hdir : dir.isAbsolute = true) :
    (projectRelative root dir).isAbsolute = false ∧
      (if root.components <+: dir.components then
        root.components ++ (projectRelative root dir).steps = dir.components
      else .root :: (projectRelative root dir).steps = dir.components) := by
  rw [projectRelative]
  split
  · next hwithin =>
    obtain ⟨below, hbelow, hrelative, hparts⟩ :=
      Path.components_stripPrefix? hdir hroot hwithin
    rw [hbelow]
    exact ⟨hrelative, hparts⟩
  · next helsewhere =>
    have hnone : dir.stripPrefix? root = none := by
      rw [Path.stripPrefix?]
      exact if_pos (by rw [Bool.not_eq_true', ← Bool.not_eq_true, Path.leads_iff]; exact helsewhere)
    obtain ⟨hparts, hrelative⟩ := steps_rootless hdir
    rw [hnone]
    exact ⟨hrelative, by rw [Option.getD_none, hparts, Path.components_absolute hdir]⟩

/-- A path is made absolute by an absolute root, unless it is empty. -/
theorem isAbsolute_absolute (hroot : project.root.isAbsolute = true) (hfile : file.text ≠ "") :
    (project.absolute file).isAbsolute = true := by
  rw [ProjectPaths.absolute, String.isEmpty_eq_false_iff.2 hfile, Bool.false_or]
  split
  · next h => exact h
  · next h => rw [Path.isAbsolute_join _ (Bool.not_eq_true _ ▸ h), hroot]

/-- The directory of a file is absolute. -/
theorem isAbsolute_dir (hroot : project.root.isAbsolute = true)
    (hdir : (project.absolute file).parent? = some dir) : dir.isAbsolute = true := by
  refine Path.isAbsolute_of_parent? (isAbsolute_absolute hroot fun hfile => ?_) hdir
  rw [ProjectPaths.absolute, if_pos (by rw [hfile]; rfl), Path.parent?, Path.lastComponent,
    Path.components, Path.firstComponent, Path.segments, hfile] at hdir
  cases hdir

/-- What is told of the directory of a file. -/
theorem get?_fileDirProjRel (hdir : (project.absolute file).parent? = some dir)
    (editor : Option EditorContext) :
    (resolve (some file) project editor).get? "FileDirProjRel" =
      some (projectRelative project.root dir).text := by
  rw [get?_resolve_fileDirProjRel, hdir, Option.getD_some]

end Values
end Template

namespace Command

open Template

variable {project : ProjectPaths} {file dir : Path}

/-- A command beside its file is run in the root of the project or below
it. -/
theorem dir_plan_besideFile {c : Spec} (hc : c.dir = besideFile)
    (hdir : (project.absolute file).parent? = some dir) (editor : Option EditorContext)
    (at_ : Circumstances) :
    (c.plan (Values.resolve (some file) project editor) at_).dir =
      ⟨project.root.text ++ "/" ++ (Values.projectRelative project.root dir).text⟩ := by
  have hbound : (Values.resolve (some file) project editor).bind c.dir =
      project.root.text ++ "/" ++ (Values.projectRelative project.root dir).text := by
    rw [hc, Values.bind, bind_besideFile, Values.get?_resolve_projectRoot,
      Values.get?_fileDirProjRel hdir, Option.getD_some, Option.getD_some]
  rw [Spec.plan]
  dsimp only
  rw [hbound, if_neg (by simp [String.isEmpty_iff])]

/-- **The directory of a file is found from what is told of it.** It is told
as a relative path, and taken from the root of the project, or from that of
the disk if the file lies elsewhere, this leads to the directory. In the
project, a command beside its file is run there, and there is one such
command in every table. -/
theorem fileDirectory_located (project : ProjectPaths) (file dir : Path)
    (editor : Option EditorContext) (hroot : project.root.isAbsolute = true)
    (hdir : (project.absolute file).parent? = some dir) :
    ∃ rel, (Values.resolve (some file) project editor).get? "FileDirProjRel" = some rel ∧
      rel.toList.head? ≠ some '/' ∧
      (project.root.components <+: dir.components →
        (project.root.join ⟨rel⟩ == dir) = true ∧
        ∀ (c : Spec) (at_ : Circumstances), c.dir = besideFile →
          ((c.plan (Values.resolve (some file) project editor) at_).dir == dir) = true) ∧
      (¬ project.root.components <+: dir.components →
        (Path.join ⟨"/"⟩ ⟨rel⟩ == dir) = true) ∧
      (Registry.defaults.get "Go: Run File").map Spec.dir = .ok besideFile := by
  have hdirAbsolute := Values.isAbsolute_dir hroot hdir
  obtain ⟨hrelative, hparts⟩ := Values.projectRelative_spec hroot hdirAbsolute
  have hrootText := Path.text_ne_of_isAbsolute hroot
  refine ⟨_, Values.get?_fileDirProjRel hdir editor, fun hhead => ?_, fun hwithin => ?_,
    fun helsewhere => ?_, by decide +kernel⟩
  · rw [Path.isAbsolute, hhead] at hrelative
    cases hrelative
  · rw [if_pos hwithin] at hparts
    refine ⟨Path.beq_iff.2 ((Path.components_join hrootText hrelative).trans hparts),
      fun c at_ hc => Path.beq_iff.2 ?_⟩
    rw [dir_plan_besideFile hc hdir, Path.components_slash hrootText, hparts]
  · rw [if_neg helsewhere] at hparts
    refine Path.beq_iff.2 ((Path.components_join (by decide) hrelative).trans ?_)
    rw [← hparts]
    rfl

/-- A file that is reached by going up from a root that is written with an
idle segment, and one outside of it. -/
theorem fileDirectory_located_both :
    let project : ProjectPaths := ⟨⟨"/work/./proj/"⟩, .empty, .empty, .empty⟩
    project.root.isAbsolute = true ∧
      (project.absolute ⟨"../x//a.go"⟩).parent? = some ⟨"/work/./proj/../x"⟩ ∧
      project.root.components <+: Path.components ⟨"/work/./proj/../x"⟩ ∧
      (∃ rel, (Values.resolve (some ⟨"../x//a.go"⟩) project none).get? "FileDirProjRel" = some rel ∧
        (project.root.join ⟨rel⟩ == ⟨"/work/./proj/../x"⟩) = true) ∧
      (project.absolute ⟨"/work//project/a.go"⟩).parent? = some ⟨"/work//project"⟩ ∧
      ¬ project.root.components <+: Path.components ⟨"/work//project"⟩ ∧
      ∃ rel, (Values.resolve (some ⟨"/work//project/a.go"⟩) project none).get? "FileDirProjRel" =
          some rel ∧ (Path.join ⟨"/"⟩ ⟨rel⟩ == ⟨"/work//project"⟩) = true := by
  intro project
  have hroot : project.root.isAbsolute = true := by decide +kernel
  have hinside : (project.absolute ⟨"../x//a.go"⟩).parent? = some ⟨"/work/./proj/../x"⟩ := by
    decide +kernel
  have hwithin : project.root.components <+: Path.components ⟨"/work/./proj/../x"⟩ := by
    decide +kernel
  have houtside : (project.absolute ⟨"/work//project/a.go"⟩).parent? = some ⟨"/work//project"⟩ := by
    decide +kernel
  have helsewhere : ¬ project.root.components <+: Path.components ⟨"/work//project"⟩ := by
    decide +kernel
  obtain ⟨rel, hrel, -, hjoin, -⟩ := fileDirectory_located project _ _ none hroot hinside
  obtain ⟨rel', hrel', -, -, hjoin', -⟩ := fileDirectory_located project _ _ none hroot houtside
  exact ⟨hroot, hinside, hwithin, ⟨rel, hrel, (hjoin hwithin).1⟩, houtside, helsewhere,
    ⟨rel', hrel', hjoin' helsewhere⟩⟩

end Command
end CodeDesk
