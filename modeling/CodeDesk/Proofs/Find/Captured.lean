import CodeDesk.Proofs.Find.Matches
/-!
# Captured buffers — what a search holds on to

A search that looks into buffers in place of files keeps their numbers in
its results. It gets them from two sides: from the tree, where every file
has the buffer that belongs to it, and from the list of the open documents.
Both are the documents that are open at the time of the search
(`mem_of_captured`).
-/

namespace CodeDesk
namespace Find

namespace Node

variable {known : Path → Option BufferId} {f : Path × Option BufferId}

/-- A file with the buffer that is known for it. -/
def withKnown (known : Path → Option BufferId) (f : Path × Option BufferId) :
    Path × Option BufferId :=
  (f.1, known f.1 <|> f.2)

theorem attachAll_eq (known : Path → Option BufferId) (ns : List Node) :
    attachAll known ns = ns.map (attach known) := by
  induction ns with
  | nil => rw [attachAll, List.map_nil]
  | cons n ns ih => rw [attachAll, ih, List.map_cons]

mutual

/-- Attaching buffers changes no more than the buffers of the files. -/
theorem visible_attach (known : Path → Option BufferId) :
    ∀ n : Node, (n.attach known).visible = n.visible.map (withKnown known)
  | file p b => by
    rw [attach, visible, visible]
    rfl
  | dir p isOpen children => by
    rw [attach, visible, visible]
    split
    · exact visibleAll_attachAll known children
    · rfl

/-- Attaching buffers changes no more than the buffers of the files. -/
theorem visibleAll_attachAll (known : Path → Option BufferId) :
    ∀ ns : List Node, visibleAll (attachAll known ns) = (visibleAll ns).map (withKnown known)
  | [] => by
    rw [attachAll, visibleAll]
    rfl
  | n :: ns => by
    rw [attachAll, visibleAll, visibleAll, List.map_append, visible_attach known n,
      visibleAll_attachAll known ns]

end

theorem isDir_attach (known : Path → Option BufferId) (n : Node) :
    (n.attach known).isDir = n.isDir := by
  cases n <;> rw [attach] <;> rfl

theorem openFiles_attach (known : Path → Option BufferId) (skipTop : Bool) (n : Node) :
    (n.attach known).openFiles skipTop = (n.openFiles skipTop).map (withKnown known) := by
  have hchildren : (n.attach known).children = attachAll known n.children := by
    cases n <;> rw [attach] <;> rfl
  have hdirs : (attachAll known n.children).filter isDir =
      attachAll known (n.children.filter isDir) := by
    rw [attachAll_eq, attachAll_eq, List.filter_map]
    exact congrArg _ (List.filter_congr fun m _ => isDir_attach known m)
  rw [openFiles, hchildren, openFiles]
  split
  · rw [hdirs, visibleAll_attachAll]
  · rw [visibleAll_attachAll]

theorem mem_visibleAll {ns : List Node} : f ∈ visibleAll ns ↔ ∃ n ∈ ns, f ∈ n.visible := by
  induction ns with
  | nil => simp [visibleAll]
  | cons n ns ih => simp [visibleAll, ih]

/-- A listing of the disk knows no buffers. -/
theorem snd_of_mem_listing {d : Disk} {isOpen : Path → Bool} {fuel : Nat} {place : Location}
    {p : Path} {n : Node} (hn : n ∈ listing d isOpen fuel place p) (hf : f ∈ n.visible) :
    f.2 = none := by
  induction fuel generalizing place p n with
  | zero => cases hn
  | succ fuel ih =>
    rw [listing] at hn
    obtain ⟨e, -, he⟩ := List.mem_filterMap.1 hn
    dsimp only at he
    split at he
    · cases he
      rw [visible, List.mem_singleton] at hf
      rw [hf]
    · split at he
      · cases he
      · cases he
        -- An open directory shows what is listed below it, with less fuel.
        rw [visible] at hf
        split at hf
        · obtain ⟨m, hm, hfm⟩ := mem_visibleAll.1 hf
          exact ih hm hfm
        · cases hf
    · cases he

/-- Nor does the tree that is made of it. -/
theorem snd_of_mem_openFiles {d : Disk} {isOpen : Path → Bool} {root : Path} {n : Node}
    (h : scan d isOpen root = .ok n) {skipTop : Bool} (hf : f ∈ n.openFiles skipTop) :
    f.2 = none := by
  rw [scan] at h
  split at h
  · cases h
  · split at h
    · cases h
    · cases h
      rw [openFiles] at hf
      obtain ⟨m, hm, hfm⟩ := mem_visibleAll.1 hf
      split at hm
      · exact snd_of_mem_listing (List.mem_filter.1 hm).1 hfm
      · exact snd_of_mem_listing hm hfm

/-- **What a tree knows after buffers were attached** are these buffers. -/
theorem mem_of_attachBuffers {d : Disk} {isOpen : Path → Bool} {root : Path} {n : Node}
    (h : scan d isOpen root = .ok n) {s : Store} {ids : List BufferId} {skipTop : Bool}
    (hf : f ∈ (n.attachBuffers s ids).openFiles skipTop) {id : BufferId} (hid : f.2 = some id) :
    id ∈ ids := by
  rw [attachBuffers, openFiles_attach] at hf
  obtain ⟨f₀, hf₀, rfl⟩ := List.mem_map.1 hf
  rw [withKnown, snd_of_mem_openFiles h hf₀] at hid
  rw [Option.orElse_eq_orElse, Option.orElse_eq_or, Option.or_none] at hid
  exact List.mem_of_find?_eq_some hid

end Node

variable {s : Store} {req : Request} {sc : Scope} {cancelled : Bool} {res : Results}
  {f : FileResult} {c : Candidate} {id : BufferId}

/-- A file with a match has the buffer of a file that was searched. -/
theorem exists_candidate (h : find s req sc cancelled = .ok res) (hf : f ∈ res.files) :
    ∃ cs, candidates s req sc = .ok cs ∧ ∃ c ∈ cs, f.buffer = c.buffer := by
  rw [find] at h
  split at h
  · cases h
  · next p _ =>
    split at h
    · cases h
    · next cs hcs =>
      split at h
      · cases h
      · cases h
        rw [rank, List.mem_mergeSort, List.mem_filterMap] at hf
        obtain ⟨c, hc, hsearch⟩ := hf
        refine ⟨cs, hcs, c, hc, ?_⟩
        rw [searchFile] at hsearch
        split at hsearch
        · split at hsearch
          · cases hsearch
          · exact (matchesIn_some hsearch).2.1
        · split at hsearch
          · cases hsearch
          · split at hsearch
            · cases hsearch
            · exact (matchesIn_some hsearch).2.1

/-- The buffer of a candidate is the known one, or an open one. -/
theorem mem_of_candidate {p : Path} (known : Option BufferId)
    (hknown : known = some id → id ∈ sc.buffers)
    (hid : (sc.candidate s p known).buffer = some id) : id ∈ sc.buffers := by
  rw [Scope.candidate] at hid
  cases known with
  | some j => exact hknown hid
  | none =>
    exact List.mem_reverse.1 (List.mem_of_find?_eq_some hid)

/-- What is searched in place of a file is an open buffer, if those are all
that the tree knows. -/
theorem mem_of_mem_candidates {cs : List Candidate}
    (htree : ∀ tree skipTop, sc.tree = some tree → ∀ g ∈ tree.openFiles skipTop,
      g.2 = some id → id ∈ sc.buffers)
    (h : candidates s req sc = .ok cs) (hc : c ∈ cs) (hid : c.buffer = some id) :
    id ∈ sc.buffers := by
  have hplain : ∀ ps : List Path, c ∈ (ps.map fun p => sc.candidate s p none) →
      id ∈ sc.buffers := by
    intro ps hmem
    obtain ⟨p, -, rfl⟩ := List.mem_map.1 hmem
    exact mem_of_candidate none (fun hnone => absurd hnone.symm (Option.some_ne_none id)) hid
  have hseen : ∀ skipTop tree, sc.tree = some tree →
      c ∈ ((tree.openFiles skipTop).map fun g => sc.candidate s g.1 g.2) → id ∈ sc.buffers := by
    intro skipTop tree heq hmem
    obtain ⟨g, hg, rfl⟩ := List.mem_map.1 hmem
    exact mem_of_candidate g.2 (htree tree skipTop heq g hg) hid
  rw [candidates] at h
  dsimp only at h
  split at h
  · split at h
    · cases h
      exact hplain _ hc
    · cases h
  · split at h
    · cases h
      exact hplain _ hc
    · cases h
  · cases h
    split at hc
    · next tree heq => exact hseen false tree heq hc
    · cases hc
  · cases h
    split at hc
    · next tree heq => exact hseen true tree heq hc
    · cases hc
  · cases h
    exact hplain _ hc

/-- **The buffers that a search holds on to** were open when it was made. -/
theorem mem_of_captured {isOpen : Path → Bool} {root : Path} {tree : Node} {active : Option Path}
    {ids : List BufferId} {cfg : Config} (hscan : Node.scan s.disk isOpen root = .ok tree)
    (h : find s req ⟨root, some (tree.attachBuffers s ids), active, ids, cfg⟩ cancelled = .ok res)
    (hf : f ∈ res.files) (hid : f.buffer = some id) : id ∈ ids := by
  obtain ⟨cs, hcs, c, hc, hbuffer⟩ := exists_candidate h hf
  refine mem_of_mem_candidates ?_ hcs hc (hbuffer ▸ hid)
  intro known skipTop hknown g hg hid'
  cases hknown
  exact Node.mem_of_attachBuffers hscan hg hid'

end Find
end CodeDesk
