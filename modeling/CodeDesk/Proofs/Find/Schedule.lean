import CodeDesk.Proofs.Find.Captured
import CodeDesk.Proofs.Find.Crew
/-!
# Schedules — what a search answers, whoever searches what when

The answer of a search is put together in three steps. The files that the
request covers are discovered in an order, and each of them gets the buffer
that the tree knows for it, or else an open one of its path
(`candidates_eq`). Each candidate is searched in the text of its buffer as
it is, or else in the contents of its file if these are a text of bearable
size (`searchFile_eq`). And the results are ranked: more matches first,
otherwise as they were discovered (`isRanking_rank`).

A crew of workers gives this very answer in every schedule, or none at all
because it was cancelled (`find_any_schedule`).
-/

namespace CodeDesk
namespace Find

variable {s : Store} {r : Request} {sc : Scope} {p : Regex.Program}

/-! ## Candidates -/

/-- The files that a request covers in the order of discovery, each with
the buffer that the tree knows for it. -/
def discovered (s : Store) (r : Request) (sc : Scope) :
    Except FindError (List (Path × Option BufferId)) :=
  match r.place, sc.active with
  | .activeFile, some p => .ok [(p, none)]
  | .activeDir, some p => .ok ((filesIn s.disk (p.parent?.getD sc.root)).map (·, none))
  | .activeFile, none | .activeDir, none => .error .noActiveFile
  | .openDirs, _ => .ok ((sc.tree.map fun tree => tree.openFiles false).getD [])
  | .belowTop, _ => .ok ((sc.tree.map fun tree => tree.openFiles true).getD [])
  | .everywhere, _ => .ok ((filesBelow s.disk sc.root).map (·, none))

/-- A candidate for every file that is discovered. -/
theorem candidates_eq (s : Store) (r : Request) (sc : Scope) :
    candidates s r sc =
      (discovered s r sc).map fun files => files.map fun f => sc.candidate s f.1 f.2 := by
  have hplain : ∀ ps : List Path, (ps.map fun p => sc.candidate s p none) =
      (ps.map (·, none)).map fun f => sc.candidate s f.1 f.2 := by
    intro ps
    rw [List.map_map]
    rfl
  rw [candidates, discovered]
  cases r.place with
  | activeFile => cases sc.active <;> rfl
  | activeDir =>
    cases sc.active with
    | none => rfl
    | some p => exact congrArg Except.ok (hplain _)
  | openDirs => cases sc.tree <;> rfl
  | belowTop => cases sc.tree <;> rfl
  | everywhere => exact congrArg Except.ok (hplain _)

/-- What it means for a candidate to have the right buffer for a file. -/
structure Candidate.Stands (s : Store) (sc : Scope) (f : Path × Option BufferId)
    (c : Candidate) : Prop where
  /-- It is that file. -/
  path : c.path = f.1
  /-- It has the buffer that the tree knows. -/
  known : ∀ id, f.2 = some id → c.buffer = some id
  /-- If the tree knows none, it has no other than an open one of its
  path. -/
  opened : f.2 = none → ∀ id, c.buffer = some id → id ∈ sc.buffers ∧ (s.pathOf id == f.1) = true
  /-- It has none only if there is none. -/
  bare : c.buffer = none → f.2 = none ∧ ∀ id ∈ sc.buffers, (s.pathOf id == f.1) = false

theorem stands_candidate (s : Store) (sc : Scope) (f : Path × Option BufferId) :
    (sc.candidate s f.1 f.2).Stands s sc f := by
  obtain ⟨q, known⟩ := f
  cases known with
  | some id =>
    exact ⟨rfl, fun j hj => hj, nofun, nofun⟩
  | none =>
    refine ⟨rfl, nofun, fun _ id hid => ?_, fun hnone => ⟨rfl, fun id hmem => ?_⟩⟩
    · have hfind : sc.bufferFor s q = some id := hid
      have hpath := List.find?_some (p := fun id => s.pathOf id == q) hfind
      exact ⟨List.mem_reverse.1 (List.mem_of_find?_eq_some hfind), hpath⟩
    · have hfind : sc.bufferFor s q = none := hnone
      exact Bool.not_eq_true _ ▸ List.find?_eq_none.1 hfind id (List.mem_reverse.2 hmem)

/-- **Every candidate has the right buffer.** -/
theorem stands_candidates {cs : List Candidate} (h : candidates s r sc = .ok cs) :
    ∃ files, discovered s r sc = .ok files ∧ List.Forall₂ (Candidate.Stands s sc) files cs := by
  rw [candidates_eq] at h
  cases hfiles : discovered s r sc with
  | error e =>
    rw [hfiles] at h
    cases h
  | ok files =>
    rw [hfiles] at h
    cases h
    exact ⟨files, rfl, List.forall₂_map_right_iff.2
      (List.forall₂_same.2 fun f _ => stands_candidate s sc f)⟩

/-! ## The text that is searched -/

/-- Whether a file is looked at, going by its name. -/
def Request.admits (r : Request) (cfg : Config) (q : Path) : Bool :=
  !isSidecar q && !isProjectName cfg q.fileName && r.wants (Language.ofPath? q)

/-- The text of a candidate: that of its buffer as it is, or else what its
file holds, if it can be read, is not too large and starts without a zero
byte. -/
def textFor? (s : Store) (cfg : Config) (c : Candidate) : Option String :=
  match c.buffer with
  | some id => some (s.textOf id)
  | none =>
    match s.disk.read c.path with
    | .ok bytes =>
      if bytes.length ≤ cfg.bigFileSize ∧ 0 ∉ bytes.take sniffLength then
        some (Utf8.decodeLossy bytes)
      else none
    | .error _ => none

theorem skipReason_eq_none {d : Disk} {cfg : Config} {q : Path} {size : Nat} {hasBuffer : Bool} :
    skipReason d r cfg q size hasBuffer = none ↔
      r.admits cfg q = true ∧
        (hasBuffer = true ∨ size ≤ cfg.bigFileSize ∧ isBinary d q = false) := by
  by_cases hadmits : r.admits cfg q = true
  · have hnamed := hadmits
    simp only [Request.admits, Bool.and_eq_true, Bool.not_eq_true'] at hnamed
    obtain ⟨⟨hsidecar, hproject⟩, hwants⟩ := hnamed
    cases hasBuffer with
    | true => simp [skipReason, hsidecar, hproject, hwants, hadmits]
    | false =>
      by_cases hbig : cfg.bigFileSize < size
      · simp [skipReason, hsidecar, hproject, hwants, hadmits, hbig, Nat.not_le.2]
      · simp [skipReason, hsidecar, hproject, hwants, hadmits, hbig, Nat.not_lt.1]
  · refine iff_of_false (fun hnone => hadmits ?_) fun h => hadmits h.1
    -- What is not admitted is left out by its name already.
    rw [skipReason] at hnone
    split at hnone
    · cases hnone
    · split at hnone
      · cases hnone
      · split at hnone
        · cases hnone
        · simp_all [Request.admits]

theorem isBinary_of_read {d : Disk} {q : Path} {bytes : Bytes} (h : d.read q = .ok bytes) :
    isBinary d q = false ↔ 0 ∉ bytes.take sniffLength := by
  rw [isBinary, h]
  simp

/-- **What is found in a candidate** is what its text has, if its name is
admitted. -/
theorem searchFile_eq (s : Store) (p : Regex.Program) (r : Request) (cfg : Config)
    (c : Candidate) :
    searchFile s p r cfg c =
      if r.admits cfg c.path then (textFor? s cfg c).bind (matchesIn p c) else none := by
  have hskip : ∀ {size hasBuffer},
      (skipReason s.disk r cfg c.path size hasBuffer).isSome = true ↔
        ¬ (r.admits cfg c.path = true ∧
          (hasBuffer = true ∨ size ≤ cfg.bigFileSize ∧ isBinary s.disk c.path = false)) := by
    intro size hasBuffer
    rw [← skipReason_eq_none]
    exact Option.isSome_iff_ne_none
  rw [searchFile, textFor?]
  cases c.buffer with
  | some id =>
    dsimp only
    by_cases hname : r.admits cfg c.path = true
    · rw [if_pos hname, if_neg (hskip.not.2 (not_not.2 ⟨hname, .inl rfl⟩)), Option.bind_some]
    · rw [if_neg hname, if_pos (hskip.2 fun h => hname h.1)]
  | none =>
    cases hread : s.disk.read c.path with
    | error e =>
      dsimp only
      rw [Option.bind_none, ite_self]
    | ok bytes =>
      dsimp only
      by_cases hname : r.admits cfg c.path = true
      · rw [if_pos hname]
        by_cases htext : bytes.length ≤ cfg.bigFileSize ∧ 0 ∉ bytes.take sniffLength
        · have hplain := htext.imp_right (isBinary_of_read hread).2
          rw [if_pos htext, if_neg (hskip.not.2 (not_not.2 ⟨hname, .inr hplain⟩)),
            Option.bind_some]
        · rw [if_neg htext, Option.bind_none]
          refine if_pos (hskip.2 fun h => ?_)
          rcases h.2 with hbuffer | hplain
          · cases hbuffer
          · exact htext (hplain.imp_right (isBinary_of_read hread).1)
      · rw [if_neg hname, if_pos (hskip.2 fun h => hname h.1)]

/-! ## The ranking -/

/-- What it means for files to be ranked: those with more matches come
first, and those with equally many in the order that they had. -/
structure IsRanking (fs gs : List FileResult) : Prop where
  /-- They are the same files. -/
  perm : gs.Perm fs
  /-- More matches come first. -/
  descending : gs.Pairwise fun a b => b.count ≤ a.count
  /-- Equally many leave the order as it was. -/
  stable : ∀ n, (gs.filter fun f => f.count == n) = fs.filter fun f => f.count == n

/-- **A search ranks its results.** -/
theorem isRanking_rank (fs : List FileResult) : IsRanking fs (rank fs) := by
  have htrans : ∀ a b c : FileResult, decide (b.count ≤ a.count) = true →
      decide (c.count ≤ b.count) = true → decide (c.count ≤ a.count) = true := by
    intro a b c hab hbc
    exact decide_eq_true ((of_decide_eq_true hbc).trans (of_decide_eq_true hab))
  have htotal : ∀ a b : FileResult,
      (decide (b.count ≤ a.count) || decide (a.count ≤ b.count)) = true := by
    intro a b
    rw [Bool.or_eq_true, decide_eq_true_iff, decide_eq_true_iff]
    exact Nat.le_total b.count a.count
  have hperm : (rank fs).Perm fs := List.mergeSort_perm fs _
  refine ⟨hperm, ?_, fun n => ?_⟩
  · exact (List.pairwise_mergeSort htrans htotal fs).imp of_decide_eq_true
  · -- Files with one count are in order already, so sorting leaves them as they are.
    have hsame : (fs.filter fun f => f.count == n).Pairwise
        fun a b => decide (b.count ≤ a.count) = true := by
      refine List.pairwise_of_forall_mem_list fun a ha b hb => ?_
      have hcount : a.count = n := beq_iff_eq.1 (List.mem_filter.1 ha).2
      have hcount' : b.count = n := beq_iff_eq.1 (List.mem_filter.1 hb).2
      exact decide_eq_true (hcount'.trans hcount.symm).le
    have hsub : (fs.filter fun f => f.count == n).Sublist (rank fs) :=
      List.sublist_mergeSort htrans htotal hsame List.filter_sublist
    have hsub' := hsub.filter fun f : FileResult => f.count == n
    rw [List.filter_filter] at hsub'
    simp only [Bool.and_self] at hsub'
    exact (hsub'.eq_of_length (hperm.filter _).length_eq.symm).symm

/-! ## Schedules -/

/-- What a crew has to do for a search. -/
def taskOf (s : Store) (p : Regex.Program) (r : Request) (cfg : Config) (cs : List Candidate) :
    Task :=
  ⟨r, cs, searchFile s p r cfg⟩

theorem find_of_candidates {cs : List Candidate} (hp : r.program = .ok p)
    (hcs : candidates s r sc = .ok cs) :
    find s r sc false = .ok (taskOf s p r sc.config cs).results := by
  rw [find, hp, hcs]
  rfl

theorem find_of_error {e : FindError} (hp : r.program = .ok p)
    (hcs : candidates s r sc = .error e) (cancelled : Bool) :
    find s r sc cancelled = .error e := by
  rw [find, hp, hcs]

/-- **A search by several workers answers as one worker would.** Whatever
the order in which they claim candidates and hand in what they find, the
answer is that of the candidates one after the other, ranked; only a
cancelling before the end takes its place, and never gives a part of it.
Every schedule comes to an end, and none is stuck before. -/
theorem find_any_schedule (s : Store) (sc : Scope) (hp : r.program = .ok p) {n : Nat}
    (hn : 0 < n) :
    (∀ e cancelled, candidates s r sc = .error e → find s r sc cancelled = .error e) ∧
    ∀ cs, candidates s r sc = .ok cs →
      (∃ files, discovered s r sc = .ok files ∧
        List.Forall₂ (Candidate.Stands s sc) files cs) ∧
      (∀ c, searchFile s p r sc.config c =
        if r.admits sc.config c.path then (textFor? s sc.config c).bind (matchesIn p c)
        else none) ∧
      (∃ gs, IsRanking (cs.filterMap (searchFile s p r sc.config)) gs ∧
        find s r sc false = .ok ⟨r, gs⟩) ∧
      ∀ ms c, (Crew.start n).run? (taskOf s p r sc.config cs) ms = some c →
        ms.length ≤ 4 * cs.length + 2 * n + 2 ∧
        (c.answer = none →
          ∃ m, m ≠ .cancel ∧ (c.step? (taskOf s p r sc.config cs) m).isSome) ∧
        ∀ out, c.answer = some out →
          (.cancel ∉ ms → out = find s r sc false) ∧
          (out = find s r sc false ∨ out = .error .cancelled) ∧
          ∃ before behind, ms = before ++ .conclude :: behind ∧
            (out = .error .cancelled ↔ .cancel ∈ before) := by
  refine ⟨fun e cancelled hcs => find_of_error hp hcs cancelled, fun cs hcs => ?_⟩
  have hfind := find_of_candidates hp hcs
  refine ⟨stands_candidates hcs, searchFile_eq s p r sc.config,
    ⟨_, isRanking_rank _, hfind⟩, fun ms c hrun => ?_⟩
  refine ⟨Crew.length_le hrun, Crew.exists_step, fun out hout => ?_⟩
  obtain ⟨before, behind, rfl, hanswer⟩ := Crew.answer_eq hn hrun hout
  by_cases hcancel : Turn.cancel ∈ before
  · rw [if_pos hcancel] at hanswer
    refine ⟨fun hno => absurd (List.mem_append_left _ hcancel) hno, .inr hanswer,
      before, behind, rfl, iff_of_true hanswer hcancel⟩
  · rw [if_neg hcancel, ← hfind] at hanswer
    refine ⟨fun _ => hanswer, .inl hanswer, before, behind, rfl,
      iff_of_false (fun herror => ?_) hcancel⟩
    rw [hanswer, hfind] at herror
    cases herror

/-- Two buffers that were never saved. -/
def unsaved : Store :=
  ⟨⟨[], 2, []⟩, [Buffer.ofText 0 ⟨"/a"⟩ "a", Buffer.ofText 1 ⟨"/b"⟩ "a"]⟩

/-- A tree of these two. -/
def inUnsaved : Scope :=
  ⟨⟨"/"⟩, some (.dir ⟨"/"⟩ true [.file ⟨"/a"⟩ (some 0), .file ⟨"/b"⟩ (some 1)]), none, [0, 1],
    Config.standard⟩

/-- What is looked for. -/
def letter : Request := ⟨"a", "", false, false, .openDirs, []⟩

/-- They are the candidates. -/
def both : List Candidate := [⟨⟨"/a"⟩, some 0⟩, ⟨⟨"/b"⟩, some 1⟩]

/-- What is found in them, in the order of discovery. -/
def inBoth : List FileResult :=
  [⟨⟨"/a"⟩, 1, [⟨⟨0, 0⟩, ⟨0, 1⟩⟩], ["a"], some 0⟩, ⟨⟨"/b"⟩, 1, [⟨⟨0, 0⟩, ⟨0, 1⟩⟩], ["a"], some 1⟩]

/-- The first of two workers claims the first buffer, the second one claims the
second buffer and hands in what it has found there. Only then the first one
searches its buffer. -/
def overtaken : List Turn :=
  [.work 0, .work 0, .work 1, .work 1, .work 1, .work 1, .work 0, .work 0, .work 0, .work 0,
    .work 1, .work 1, .conclude]

/-- Two workers that hand in their results the other way round find what one
finds. -/
theorem find_any_schedule_overtaken :
    0 < 2 ∧ letter.program = .ok (Regex.literal false "a") ∧
      candidates unsaved letter inUnsaved = .ok both ∧ .cancel ∉ overtaken ∧
      ∃ c, (Crew.start 2).run? (taskOf unsaved (Regex.literal false "a") letter
          Config.standard both) overtaken = some c ∧
        c.found.map Prod.fst = [1, 0] ∧ c.answer = some (.ok ⟨letter, inBoth⟩) ∧
          find unsaved letter inUnsaved false = .ok ⟨letter, inBoth⟩ := by
  have hp : letter.program = .ok (Regex.literal false "a") := rfl
  have hcs : candidates unsaved letter inUnsaved = .ok both := rfl
  have hno : Turn.cancel ∉ overtaken := by decide
  obtain ⟨-, hall⟩ := find_any_schedule unsaved inUnsaved hp Nat.two_pos
  obtain ⟨-, -, -, hrun⟩ := hall _ hcs
  have hfiles : both.filterMap (searchFile unsaved (Regex.literal false "a") letter
      Config.standard) = inBoth := by decide +kernel
  have hover : ((Crew.start 2).run? (taskOf unsaved (Regex.literal false "a") letter
      Config.standard both) overtaken).any
        (fun c => c.answer.isSome && c.found.map Prod.fst == [1, 0]) = true := by
    decide +kernel
  obtain ⟨c, hc, hend⟩ := (Option.any_eq_true _ _).1 hover
  rw [Bool.and_eq_true, beq_iff_eq] at hend
  obtain ⟨out, hout⟩ := Option.isSome_iff_exists.1 hend.1
  have hfind : find unsaved letter inUnsaved false = .ok ⟨letter, inBoth⟩ := by
    have hrank : rank inBoth = inBoth := List.mergeSort_of_pairwise (by decide)
    rw [find, hp, hcs]
    simp only [Bool.false_eq_true, if_false, inUnsaved, hfiles, hrank]
  have hanswer := ((hrun overtaken c hc).2.2 out hout).1 hno
  exact ⟨Nat.two_pos, hp, hcs, hno, c, hc, hend.2,
    hout.trans (congrArg some (hanswer.trans hfind)), hfind⟩

end Find
end CodeDesk
