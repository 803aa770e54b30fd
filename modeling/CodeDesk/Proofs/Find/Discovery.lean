import CodeDesk.Proofs.Files.Locate
import CodeDesk.Proofs.Files.Path
import CodeDesk.Proofs.Files.Walk
import CodeDesk.Proofs.Find.Schedule
/-!
# Discovery — the tree and the disk

A search everywhere walks the disk, and a search in the open directories
goes through the tree. Both discover files in the order of the walk that
leaves nothing out: the walk all files outside of hidden directories
(`filesBelow_eq`), the tree those for which all directories on the way are
open and not hidden (`openFiles_scan`). So where every directory is open
both discover the same files. The tree knows the first buffer of a path and
the walk takes the last, which is the same one if the open buffers have
different paths (`find?_reverse`).
-/

namespace CodeDesk
namespace Find

variable {d : Disk} {isOpen : Path → Bool} {root : Path} {place : Location}

/-- Whether a directory of a name and a path is entered: it is not hidden
and it is open. -/
def enters (isOpen : Path → Bool) (e : String × Path) : Bool := e.1 != hiddenDir && isOpen e.2

/-- Whether a file below a directory is to be seen in its tree: all
directories on the way are entered. -/
def seenIn (isOpen : Path → Bool) (root : Path) (names : List String) : Bool :=
  (root.wayTo names).all (enters isOpen)

/-- **What is to be seen**: the files all of whose directories strictly
below the root are open and not hidden. -/
theorem seenIn_iff {names : List String} :
    seenIn isOpen root names = true ↔ ∀ front n back, names = front ++ n :: back → back ≠ [] →
      n ≠ hiddenDir ∧ isOpen (root.descend (front ++ [n])) = true := by
  have henters : ∀ e : String × Path,
      enters isOpen e = true ↔ e.1 ≠ hiddenDir ∧ isOpen e.2 = true := by
    intro e
    rw [enters, Bool.and_eq_true, bne_iff_ne]
  rw [seenIn, List.all_eq_true]
  constructor
  · intro h front n back hnames hback
    exact (henters _).1 (h (n, root.descend (front ++ [n]))
      (Path.mem_wayTo.2 ⟨front, back, hnames, hback, rfl⟩))
  · intro h e he
    obtain ⟨front, back, hnames, hback, hpath⟩ := Path.mem_wayTo.1 he
    rw [henters, hpath]
    exact h front e.1 back hnames hback

/-! ## The tree -/

namespace Node

theorem visibleAll_eq (ns : List Node) : visibleAll ns = ns.flatMap visible := by
  induction ns with
  | nil => rfl
  | cons n ns ih => rw [visibleAll, ih, List.flatMap_cons]

/-- What nodes that are made of a list show is what each of them shows. -/
theorem visibleAll_filterMap {α : Type} (f : α → Option Node) (xs : List α) :
    visibleAll (xs.filterMap f) = xs.flatMap fun x => ((f x).map visible).getD [] := by
  rw [visibleAll_eq]
  induction xs with
  | nil => rfl
  | cons x xs ih =>
    rw [List.flatMap_cons, ← ih, List.filterMap_cons]
    cases f x with
    | none => rfl
    | some n => rfl

/-- What a listing shows is what a walk through open directories meets. -/
theorem visibleAll_listing (d : Disk) (isOpen : Path → Bool) (fuel : Nat) (place : Location)
    (p : Path) :
    visibleAll (listing d isOpen fuel place p) =
      (d.pathsBelow (enters isOpen) fuel place p).map (·, none) := by
  induction fuel generalizing place p with
  | zero => rfl
  | succ fuel ih =>
    rw [listing, visibleAll_filterMap, Disk.pathsBelow, List.map_flatMap]
    refine List.flatMap_congr fun e _ => ?_
    obtain ⟨n, e⟩ := e
    cases e with
    | file b t m => rfl
    | dir =>
      by_cases hhidden : n = hiddenDir
      · simp [hhidden, enters]
      · by_cases hopen : isOpen (p.child n) = true
        · simp [hhidden, hopen, enters, visible, ih]
        · simp [hhidden, hopen, enters, visible]
    | link target => rfl

/-- The same for the directories of a listing. -/
theorem visibleAll_dirs (d : Disk) (isOpen : Path → Bool) (fuel : Nat) (place : Location)
    (p : Path) :
    visibleAll ((listing d isOpen (fuel + 1) place p).filter isDir) =
      (((d.namesBelow (fuel + 1) place).filter fun ns =>
        decide (1 < ns.length) && seenIn isOpen p ns).map p.descend).map (·, none) := by
  have hdirs := d.pathsBelow_dirs_eq (enters isOpen) fuel place p
  rw [listing, List.filter_filterMap, visibleAll_filterMap]
  simp only [seenIn]
  rw [← hdirs, List.map_flatMap]
  refine List.flatMap_congr fun e _ => ?_
  obtain ⟨n, e⟩ := e
  cases e with
  | file b t m => rfl
  | dir =>
    by_cases hhidden : n = hiddenDir
    · simp [hhidden, enters]
    · by_cases hopen : isOpen (p.child n) = true
      · simp [hhidden, hopen, enters, visible, isDir, Option.filter, visibleAll_listing]
      · simp [hhidden, hopen, enters, visible, isDir, Option.filter]
  | link target => rfl

/-- **What the tree of a directory shows**: the files that are to be seen,
in the order of the walk that leaves nothing out, and no others. -/
theorem openFiles_scan (d : Disk) (isOpen : Path → Bool) (root : Path) (place : Location)
    (skipTop : Bool) :
    (dir root true (listing d isOpen d.depth place root)).openFiles skipTop =
      (((d.allNames place).filter fun ns =>
        (!skipTop || decide (1 < ns.length)) && seenIn isOpen root ns).map root.descend).map
          (·, none) := by
  cases skipTop with
  | true => exact visibleAll_dirs d isOpen _ place root
  | false =>
    have hall : (dir root true (listing d isOpen d.depth place root)).openFiles false =
        visibleAll (listing d isOpen d.depth place root) := rfl
    rw [hall, visibleAll_listing, Disk.pathsBelow_eq]
    rfl

/-- A directory that is there has a tree. -/
theorem scan_eq (isOpen : Path → Bool) (hplace : d.locate true root = .ok place)
    (hdir : d.entryAt? place = some .dir) :
    scan d isOpen root = .ok (dir root true (listing d isOpen d.depth place root)) := by
  simp only [scan, Disk.list, hplace, hdir]

end Node

/-! ## The walk -/

/-- **What a walk meets**: the files outside of hidden directories, in the
order of the walk that leaves nothing out. -/
theorem filesBelow_eq (hplace : d.locate true root = .ok place)
    (hdir : d.entryAt? place = some .dir) (hroot : root.fileName ≠ hiddenDir) :
    filesBelow d root =
      ((d.allNames place).filter (seenIn (fun _ => true) root)).map root.descend := by
  have hwalk : d.filesUnder (· != hiddenDir) root =
      d.filesBelow (· != hiddenDir) d.depth place root := by
    -- The root is a directory, or a link to it.
    rcases Disk.locate_noFollow hplace with hsame | ⟨stop, target, hstop, hlink⟩
    · have hentry : d.entry false root = .ok .dir := by simp only [Disk.entry, hsame, hdir]
      rw [Disk.filesUnder, hentry]
      simp only [hplace, bne_iff_ne.2 hroot, if_true]
    · have hentry : d.entry false root = .ok (.link target) := by
        simp only [Disk.entry, hstop, hlink]
      rw [Disk.filesUnder, hentry]
      simp only [hplace, hdir]
  have hkeep : (fun e : String × Path => e.1 != hiddenDir) = enters fun _ => true := by
    funext e
    rw [enters, Bool.and_true]
  rw [filesBelow, hwalk, Disk.map_fst_filesBelow, hkeep, Disk.pathsBelow_eq]
  rfl

/-! ## Both -/

/-- What holds of at most one member is found from either end. -/
theorem find?_reverse {α : Type} {p : α → Bool} {xs : List α}
    (h : xs.Pairwise fun a b => ¬ (p a = true ∧ p b = true)) :
    xs.reverse.find? p = xs.find? p := by
  induction xs with
  | nil => rfl
  | cons x xs ih =>
    obtain ⟨hx, hxs⟩ := List.pairwise_cons.1 h
    rw [List.reverse_cons, List.find?_append, ih hxs, List.find?_cons, List.find?_cons]
    cases hp : p x with
    | false => rw [List.find?_nil, Option.or_none]
    | true =>
      have hnone : xs.find? p = none := List.find?_eq_none.2 fun a ha hpa => hx a ha ⟨hp, hpa⟩
      rw [hnone, Option.none_or]

/-- The buffer that the tree is given for a file is the one that a search
takes if the tree knows none. -/
theorem candidate_attached {s : Store} (sc : Scope)
    (h : sc.buffers.Pairwise fun a b => (s.pathOf a == s.pathOf b) = false) (p : Path) :
    sc.candidate s p (sc.buffers.find? fun id => s.pathOf id == p) = sc.candidate s p none := by
  have hone : sc.buffers.Pairwise fun a b =>
      ¬ ((s.pathOf a == p) = true ∧ (s.pathOf b == p) = true) := by
    refine h.imp fun {a b} hne hboth => ?_
    rw [Path.beq_iff.2 ((Path.beq_iff.1 hboth.1).trans (Path.beq_iff.1 hboth.2).symm)] at hne
    cases hne
  have hsame : sc.bufferFor s p = sc.buffers.find? fun id => s.pathOf id == p :=
    find?_reverse hone
  rw [Scope.candidate, Scope.candidate, hsame]
  cases sc.buffers.find? fun id => s.pathOf id == p <;> rfl

/-- A search in the tree of a directory, in which the files have the buffers
that are open. -/
def Scope.ofTree (s : Store) (root : Path) (tree : Node) (active : Option Path)
    (ids : List BufferId) (cfg : Config) : Scope :=
  ⟨root, some (tree.attachBuffers s ids), active, ids, cfg⟩

section Both

variable {s : Store} {r : Request} {sc : Scope} {active : Option Path} {ids : List BufferId}
  {cfg : Config} {tree : Node}

/-- The candidates that the tree of a directory gives. -/
theorem map_candidate_openFiles (sc : Scope) (ids : List BufferId) (htree : tree =
      .dir root true (Node.listing s.disk isOpen s.disk.depth place root)) (skipTop : Bool) :
    ((tree.attachBuffers s ids).openFiles skipTop).map (fun f => sc.candidate s f.1 f.2) =
      (((s.disk.allNames place).filter fun ns =>
        (!skipTop || decide (1 < ns.length)) && seenIn isOpen root ns).map root.descend).map
          fun p => sc.candidate s p (ids.find? fun id => s.pathOf id == p) := by
  rw [Node.attachBuffers, Node.openFiles_attach, htree, Node.openFiles_scan, List.map_map,
    List.map_map]
  refine List.map_congr_left fun p _ => ?_
  simp only [Function.comp_apply, Node.withKnown]
  cases ids.find? fun id => s.pathOf id == p <;> rfl

theorem candidates_openDirs (htree : tree =
      .dir root true (Node.listing s.disk isOpen s.disk.depth place root)) :
    candidates s { r with place := .openDirs } (Scope.ofTree s root tree active ids cfg) =
      .ok ((((s.disk.allNames place).filter (seenIn isOpen root)).map root.descend).map
        fun p => (Scope.ofTree s root tree active ids cfg).candidate s p
          (ids.find? fun id => s.pathOf id == p)) := by
  have hseen := map_candidate_openFiles (Scope.ofTree s root tree active ids cfg) ids htree false
  simp only [Bool.not_false, Bool.true_or, Bool.true_and] at hseen
  exact congrArg Except.ok hseen

theorem candidates_belowTop (htree : tree =
      .dir root true (Node.listing s.disk isOpen s.disk.depth place root)) :
    candidates s { r with place := .belowTop } (Scope.ofTree s root tree active ids cfg) =
      .ok (((((s.disk.allNames place).filter (seenIn isOpen root)).filter
        fun ns => decide (1 < ns.length)).map root.descend).map
          fun p => (Scope.ofTree s root tree active ids cfg).candidate s p
            (ids.find? fun id => s.pathOf id == p)) := by
  have hseen := map_candidate_openFiles (Scope.ofTree s root tree active ids cfg) ids htree true
  simp only [Bool.not_true, Bool.false_or, ← List.filter_filter] at hseen
  exact congrArg Except.ok hseen

/-- Where every directory is open, the tree gives the candidates of the
walk. -/
theorem candidates_openDirs_eq (hplace : s.disk.locate true root = .ok place)
    (hdir : s.disk.entryAt? place = some .dir) (hroot : root.fileName ≠ hiddenDir)
    (htree : tree = .dir root true (Node.listing s.disk isOpen s.disk.depth place root))
    (hopen : ∀ p, isOpen p = true)
    (hpaths : ids.Pairwise fun a b => (s.pathOf a == s.pathOf b) = false) :
    candidates s { r with place := .openDirs } (Scope.ofTree s root tree active ids cfg) =
      candidates s { r with place := .everywhere } (Scope.ofTree s root tree active ids cfg) := by
  have hwalk : candidates s { r with place := .everywhere }
      (Scope.ofTree s root tree active ids cfg) = .ok ((filesBelow s.disk root).map
        fun p => (Scope.ofTree s root tree active ids cfg).candidate s p none) := rfl
  have hall : isOpen = fun _ => true := funext hopen
  rw [candidates_openDirs htree, hwalk, filesBelow_eq hplace hdir hroot, hall]
  exact congrArg Except.ok (List.map_congr_left fun p _ =>
    candidate_attached (Scope.ofTree s root tree active ids cfg) hpaths p)

/-- A search reads nothing of where it looks but the candidates. -/
theorem find_congr {a b : Place}
    (h : candidates s { r with place := a } sc = candidates s { r with place := b } sc)
    (cancelled : Bool) :
    (find s { r with place := a } sc cancelled).map (·.files) =
      (find s { r with place := b } sc cancelled).map (·.files) := by
  have hprogram : ({ r with place := a } : Request).program =
      ({ r with place := b } : Request).program := rfl
  rw [find, find, h, hprogram]
  split
  · rfl
  · split
    · rfl
    · cases cancelled <;> rfl

end Both

/-- **The tree and the disk agree.** Over the tree of a directory that has
every directory open, a search in the open directories finds what a search
everywhere finds, if the open buffers have different paths and the
directory is not hidden itself. And whichever directories are open, the
search covers the files all of whose directories below the root are open
and not hidden, and a search below the top those of them that are not
directly in the root, both in the order of the walk. -/
theorem tree_agrees_with_walk (s : Store) (isOpen : Path → Bool)
    (hplace : s.disk.locate true root = .ok place) (hdir : s.disk.entryAt? place = some .dir) :
    ∃ tree, Node.scan s.disk isOpen root = .ok tree ∧
      (∀ (r : Request) (active : Option Path) (ids : List BufferId) (cfg : Config)
          (cancelled : Bool),
        (∀ p, isOpen p = true) → root.fileName ≠ hiddenDir →
        (ids.Pairwise fun a b => (s.pathOf a == s.pathOf b) = false) →
        (find s { r with place := .openDirs }
            (Scope.ofTree s root tree active ids cfg) cancelled).map (·.files) =
          (find s { r with place := .everywhere }
            (Scope.ofTree s root tree active ids cfg) cancelled).map (·.files)) ∧
      (∀ (r : Request) (active : Option Path) (ids : List BufferId) (cfg : Config),
        ∃ seen below,
          candidates s { r with place := .openDirs }
            (Scope.ofTree s root tree active ids cfg) = .ok seen ∧
          candidates s { r with place := .belowTop }
            (Scope.ofTree s root tree active ids cfg) = .ok below ∧
          seen.map (·.path) =
            ((s.disk.allNames place).filter (seenIn isOpen root)).map root.descend ∧
          below.map (·.path) = (((s.disk.allNames place).filter (seenIn isOpen root)).filter
            fun ns => decide (1 < ns.length)).map root.descend) ∧
      (∀ names, names ∈ s.disk.allNames place ↔ s.disk.HoldsFile place names) ∧
      ∀ names, seenIn isOpen root names = true ↔
        ∀ front n back, names = front ++ n :: back → back ≠ [] →
          n ≠ hiddenDir ∧ isOpen (root.descend (front ++ [n])) = true := by
  refine ⟨_, Node.scan_eq isOpen hplace hdir, ?_, ?_, fun _ => Disk.mem_allNames,
    fun _ => seenIn_iff⟩
  · intro r active ids cfg cancelled hopen hroot hpaths
    exact find_congr (candidates_openDirs_eq hplace hdir hroot rfl hopen hpaths) cancelled
  · intro r active ids cfg
    refine ⟨_, _, candidates_openDirs rfl, candidates_belowTop rfl, ?_, ?_⟩
    · rw [List.map_map]
      exact List.map_id _
    · rw [List.map_map]
      exact List.map_id _

/-- A file at the top and one in a directory. -/
def nested : Store :=
  ⟨⟨[(["a"], .file [97] 0 0), (["sub"], .dir), (["sub", "b"], .file [97] 0 0)], 1, []⟩, []⟩

/-- The tree of the disk shows the file in the directory, and a search in it
finds what a search everywhere finds. -/
theorem tree_agrees_with_walk_nested :
    nested.disk.locate true ⟨"/"⟩ = .ok [] ∧ nested.disk.entryAt? [] = some .dir ∧
      ∃ tree, Node.scan nested.disk (fun _ => true) ⟨"/"⟩ = .ok tree ∧
        (find nested { letter with place := .openDirs }
            (Scope.ofTree nested ⟨"/"⟩ tree none [] Config.standard) false).map (·.files) =
          (find nested { letter with place := .everywhere }
            (Scope.ofTree nested ⟨"/"⟩ tree none [] Config.standard) false).map (·.files) ∧
        ∃ seen, candidates nested { letter with place := .openDirs }
            (Scope.ofTree nested ⟨"/"⟩ tree none [] Config.standard) = .ok seen ∧
          ⟨"/sub/b"⟩ ∈ seen.map (·.path) := by
  have hplace : nested.disk.locate true ⟨"/"⟩ = .ok [] := by
    have hsegs : Disk.segmentsOf "/" = ["", ""] := by decide +kernel
    refine Disk.locate_eq_ok.2 ⟨by decide +kernel, ?_⟩
    rw [hsegs]
    exact .stay rfl (.inl rfl) (.stay rfl (.inl rfl) .done)
  have hdir : nested.disk.entryAt? [] = some .dir := rfl
  obtain ⟨tree, hscan, hfind, hcovers, hfiles, hseen⟩ :=
    tree_agrees_with_walk nested (fun _ => true) hplace hdir
  have hsub : ("sub", Entry.dir) ∈ nested.disk.entriesIn [] :=
    Disk.mem_entriesIn.2 (by simp [nested])
  have hb : ("b", Entry.file [97] 0 0) ∈ nested.disk.entriesIn ["sub"] :=
    Disk.mem_entriesIn.2 (by simp [nested])
  have hfile : nested.disk.HoldsFile [] ["sub", "b"] := .inside hsub (.here hb rfl)
  obtain ⟨seen, below, hcandidates, -, hpaths, -⟩ := hcovers letter none [] Config.standard
  refine ⟨hplace, hdir, tree, hscan,
    hfind letter none [] Config.standard false (fun _ => rfl) (by decide) List.Pairwise.nil,
    seen, hcandidates, ?_⟩
  rw [hpaths]
  have hpath : Path.descend ⟨"/"⟩ ["sub", "b"] = ⟨"/sub/b"⟩ := by decide
  exact List.mem_map.2 ⟨["sub", "b"],
    List.mem_filter.2 ⟨(hfiles _).2 hfile, by decide⟩, hpath⟩

end Find
end CodeDesk
