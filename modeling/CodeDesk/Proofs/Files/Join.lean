import CodeDesk.Proofs.Files.Path
import Mathlib.Data.List.Induction
/-!
# Paths — what lies below a directory

Taken from a directory, a relative path adds its meaningful segments to the
components of the directory (`components_join`). So two directories are the
same exactly if the same relative path leads to the same place from both.

Conversely, a directory that leads to a path can be taken away from it: the
rest is relative, and taken from the directory it is the path again
(`components_stripPrefix?`). The path of the components without the root is
another relative one (`steps_ofComponents`), and so a path always has a
parent that is as absolute as itself.
-/

namespace CodeDesk

theorem splitChars_cons_ne (sep c : Char) (cs : List Char) : splitChars sep (c :: cs) ≠ [[]] := by
  obtain ⟨part, parts, hparts⟩ := List.exists_cons_of_ne_nil (splitChars_ne_nil sep cs)
  rw [splitChars, hparts]
  dsimp only
  split <;> simp

/-- Parts without a separator are read back from the text they are joined
to. -/
theorem splitChars_joinChars {sep : Char} {parts : List (List Char)} (hne : parts ≠ [])
    (h : ∀ part ∈ parts, sep ∉ part) : splitChars sep (joinChars sep parts) = parts := by
  induction parts with
  | nil => exact absurd rfl hne
  | cons part parts ih =>
    obtain ⟨hpart, hparts⟩ := List.forall_mem_cons.1 h
    cases parts with
    | nil => exact splitChars_of_notMem hpart
    | cons next parts =>
      rw [joinChars, splitChars_append_sep, splitChars_of_notMem hpart,
        ih (List.cons_ne_nil next parts) hparts]
      · rfl
      · rintro ⟨⟩

namespace Path

variable {p q r base : Path} {first : List Char} {segs : List (List Char)}

/-- The meaningful parts of a path behind another one. -/
def steps (p : Path) : List Component := p.segments.filterMap Component.ofSegment

/-! ## Segments and components -/

theorem segments_ne_nil (p : Path) : p.segments ≠ [] := splitChars_ne_nil '/' p.text.toList

theorem segments_ne_blank (h : p.text ≠ "") : p.segments ≠ [[]] := by
  cases htext : p.text.toList with
  | nil => exact absurd (String.toList_eq_nil_iff.1 htext) h
  | cons c cs =>
    rw [segments, htext]
    exact splitChars_cons_ne '/' c cs

/-- What the first segment of a longer path means. -/
def lead (first : List Char) : List Component :=
  if first = [] then [.root]
  else if first = ['.'] then [.current]
  else (Component.ofSegment first).toList

theorem firstComponent_eq (h : p.segments = first :: segs) (hblank : p.segments ≠ [[]]) :
    p.firstComponent = lead first := by
  rw [h] at hblank
  rw [firstComponent, h, lead]
  dsimp only
  split
  · next hfirst =>
    subst hfirst
    cases segs with
    | nil => exact absurd rfl hblank
    | cons _ _ => rfl
  · rfl

theorem components_eq (h : p.segments = first :: segs) (hblank : p.segments ≠ [[]]) :
    p.components = lead first ++ segs.filterMap Component.ofSegment := by
  rw [components, firstComponent_eq h hblank, h, List.tail_cons]

/-! ## Joining -/

/-- The segments of a path behind those of another one, which may have ended
in a slash. -/
theorem components_append {front : List (List Char)} (hp : p.text ≠ "") (hfront : front ≠ [])
    (hsegs : p.segments = front ∨ p.segments = front ++ [[]])
    (h : r.segments = front ++ q.segments) : r.components = p.components ++ q.steps := by
  obtain ⟨first, segs, rfl⟩ := List.exists_cons_of_ne_nil hfront
  have hr : r.segments ≠ [[]] := by
    rw [h]
    simp [q.segments_ne_nil]
  have hmore : p.components = lead first ++ segs.filterMap Component.ofSegment := by
    rcases hsegs with hsegs | hsegs
    · exact components_eq hsegs (segments_ne_blank hp)
    · rw [List.cons_append] at hsegs
      rw [components_eq hsegs (segments_ne_blank hp), List.filterMap_append]
      exact congrArg _ (List.append_nil _)
  rw [List.cons_append] at h
  rw [components_eq h hr, hmore, List.filterMap_append, ← List.append_assoc, steps]

theorem steps_append {front : List (List Char)}
    (hsegs : p.segments = front ∨ p.segments = front ++ [[]])
    (h : r.segments = front ++ q.segments) : r.steps = p.steps ++ q.steps := by
  rw [steps, h, List.filterMap_append, steps, steps]
  rcases hsegs with hsegs | hsegs
  · rw [hsegs]
  · rw [hsegs, List.filterMap_append]
    exact congrArg (· ++ _) (List.append_nil _).symm

theorem segments_slash (p : Path) (q : Path) :
    (Path.mk (p.text ++ "/" ++ q.text)).segments = p.segments ++ q.segments := by
  have htext : (p.text ++ "/" ++ q.text).toList = p.text.toList ++ '/' :: q.text.toList := by
    rw [String.toList_append, String.toList_append, List.append_assoc]
    rfl
  rw [segments, htext, splitChars_append_sep]
  rfl

theorem segments_join (hp : p.text ≠ "") (hq : q.isAbsolute = false) :
    ∃ front ≠ [], (p.segments = front ∨ p.segments = front ++ [[]]) ∧
      (p.join q).segments = front ++ q.segments := by
  rw [join, if_neg (by rw [hq]; exact Bool.false_ne_true)]
  split
  · next hopen =>
    rw [Bool.or_eq_true, String.isEmpty_iff, beq_iff_eq, or_iff_right hp] at hopen
    obtain ⟨front, hfront⟩ := List.getLast?_eq_some_iff.1 hopen
    refine ⟨splitChars '/' front, splitChars_ne_nil '/' front, .inr ?_, ?_⟩
    · rw [segments, hfront, splitChars_append_sep]
      rfl
    · rw [segments, String.toList_append, hfront, List.append_assoc, List.singleton_append,
        splitChars_append_sep]
      rfl
  · exact ⟨p.segments, p.segments_ne_nil, .inl rfl, segments_slash p q⟩

/-- A path behind a slash adds its meaningful parts, absolute or not. -/
theorem components_slash (hp : p.text ≠ "") (q : Path) :
    (Path.mk (p.text ++ "/" ++ q.text)).components = p.components ++ q.steps :=
  components_append hp p.segments_ne_nil (.inl rfl) (segments_slash p q)

/-- **A relative path taken from another one** adds its meaningful parts. -/
theorem components_join (hp : p.text ≠ "") (hq : q.isAbsolute = false) :
    (p.join q).components = p.components ++ q.steps := by
  obtain ⟨front, hfront, hsegs, hjoin⟩ := segments_join hp hq
  exact components_append hp hfront hsegs hjoin

theorem join_empty_left (hp : p.text = "") (q : Path) : p.join q = q := by
  rw [join]
  split
  · rfl
  · rw [if_pos (by rw [hp]; rfl), hp, String.empty_append]

theorem steps_join (p : Path) (hq : q.isAbsolute = false) :
    (p.join q).steps = p.steps ++ q.steps := by
  by_cases hp : p.text = ""
  · have hsteps : p.steps = [] := by
      rw [steps, segments, hp]
      rfl
    rw [join_empty_left hp, hsteps, List.nil_append]
  · obtain ⟨front, -, hsegs, hjoin⟩ := segments_join hp hq
    exact steps_append hsegs hjoin

theorem join_absolute (hq : q.isAbsolute = true) (p : Path) : p.join q = q := if_pos hq

theorem text_join_ne (hp : p.text ≠ "") (hq : q.isAbsolute = false) : (p.join q).text ≠ "" := by
  rw [join, if_neg (by rw [hq]; exact Bool.false_ne_true)]
  split <;> simp [hp]

theorem isAbsolute_join (p : Path) (hq : q.isAbsolute = false) :
    (p.join q).isAbsolute = p.isAbsolute := by
  by_cases hp : p.text = ""
  · rw [join_empty_left hp, hq, isAbsolute, hp]
    rfl
  · obtain ⟨c, cs, hcs⟩ := List.exists_cons_of_ne_nil (mt String.toList_eq_nil_iff.1 hp)
    rw [join, if_neg (by rw [hq]; exact Bool.false_ne_true)]
    split <;> simp [isAbsolute, hcs]

theorem text_ne_of_isAbsolute (h : p.isAbsolute = true) : p.text ≠ "" := by
  intro htext
  rw [isAbsolute, htext] at h
  cases h

/-- **Directories are the same** exactly if a relative path leads to the same
place from both. -/
theorem join_beq_join_iff (hp : p.text ≠ "") (hq : q.text ≠ "") (hr : r.isAbsolute = false) :
    (p.join r == q.join r) = true ↔ (p == q) = true := by
  rw [beq_iff, beq_iff, components_join hp hr, components_join hq hr, List.append_cancel_right_eq]

/-! ## Taking a directory away -/

theorem leads_iff {cs ds : List Component} : leads cs ds = true ↔ cs <+: ds := by
  induction cs generalizing ds with
  | nil => exact iff_of_true rfl (List.nil_prefix)
  | cons c cs ih =>
    cases ds with
    | nil => exact iff_of_false Bool.false_ne_true fun h => List.cons_ne_nil c cs (List.prefix_nil.1 h)
    | cons d ds => rw [leads, Bool.and_eq_true, beq_iff_eq, ih, List.cons_prefix_cons]

theorem filterMap_dropNames (n : Nat) (segs : List (List Char)) :
    (dropNames n segs).filterMap Component.ofSegment =
      (segs.filterMap Component.ofSegment).drop n := by
  induction segs generalizing n with
  | nil => simp [dropNames]
  | cons seg segs ih =>
    rw [dropNames.eq_def]
    dsimp only
    cases hseg : Component.ofSegment seg with
    | none => rw [Option.isNone_none, if_pos rfl, ih, List.filterMap_cons_none hseg]
    | some c =>
      rw [Option.isNone_some, if_neg Bool.false_ne_true, List.filterMap_cons_some hseg]
      cases n with
      | zero => exact List.filterMap_cons_some hseg
      | succ n => rw [List.drop_succ_cons]; exact ih n

theorem dropNames_suffix (n : Nat) (segs : List (List Char)) : dropNames n segs <:+ segs := by
  induction segs generalizing n with
  | nil => exact dropNames.eq_def n [] ▸ List.suffix_refl []
  | cons seg segs ih =>
    rw [dropNames.eq_def]
    dsimp only
    split
    · exact (ih n).trans (List.suffix_cons seg segs)
    · cases n with
      | zero => exact List.suffix_refl _
      | succ n => exact (ih n).trans (List.suffix_cons seg segs)

/-- What is left begins with a segment that means something. -/
theorem isSome_of_dropNames {n : Nat} {segs more : List (List Char)}
    (h : dropNames n segs = first :: more) : (Component.ofSegment first).isSome := by
  induction segs generalizing n with
  | nil =>
    rw [dropNames.eq_def] at h
    cases h
  | cons seg segs ih =>
    rw [dropNames.eq_def] at h
    dsimp only at h
    split at h
    · exact ih h
    · next hseg =>
      cases n with
      | zero =>
        cases h
        exact Option.isSome_iff_ne_none.2 (mt Option.isNone_iff_eq_none.2 hseg)
      | succ n => exact ih h

theorem dropIdle_cons (first : List Char) (segs : List (List Char)) :
    dropIdle (first :: segs) =
      first :: (segs.reverse.dropWhile fun s => (Component.ofSegment s).isNone).reverse := rfl

theorem filterMap_dropWhile_isNone (segs : List (List Char)) :
    (segs.dropWhile fun s => (Component.ofSegment s).isNone).filterMap Component.ofSegment =
      segs.filterMap Component.ofSegment := by
  induction segs with
  | nil => rfl
  | cons seg segs ih =>
    cases hseg : Component.ofSegment seg with
    | none => rw [List.dropWhile_cons_of_pos (by rw [hseg]; rfl), ih, List.filterMap_cons_none hseg]
    | some c => rw [List.dropWhile_cons_of_neg (by rw [hseg]; exact Bool.false_ne_true)]

/-- Segments that mean nothing are no loss. -/
theorem filterMap_dropIdle (segs : List (List Char)) :
    (dropIdle segs).filterMap Component.ofSegment = segs.filterMap Component.ofSegment := by
  cases segs with
  | nil => rfl
  | cons first segs =>
    have hmore : (segs.reverse.dropWhile fun s => (Component.ofSegment s).isNone).reverse.filterMap
        Component.ofSegment = segs.filterMap Component.ofSegment := by
      rw [List.filterMap_reverse, filterMap_dropWhile_isNone, List.filterMap_reverse,
        List.reverse_reverse]
    rw [dropIdle_cons, List.filterMap_cons, hmore, List.filterMap_cons]

theorem mem_of_mem_dropIdle {seg : List Char} (h : seg ∈ dropIdle segs) : seg ∈ segs := by
  cases segs with
  | nil => exact h
  | cons first segs =>
    rw [dropIdle_cons, List.mem_cons, List.mem_reverse] at h
    rcases h with rfl | h
    · exact List.mem_cons_self
    · exact List.mem_cons_of_mem first (List.mem_reverse.1 ((List.dropWhile_sublist _).mem h))

/-- The path of segments that are joined again. -/
theorem steps_joinChars (h : ∀ seg ∈ segs, '/' ∉ seg) :
    (Path.mk (String.ofList (joinChars '/' segs))).steps =
      segs.filterMap Component.ofSegment := by
  rw [steps, Path.segments, String.toList_ofList]
  by_cases hnil : segs = []
  · rw [hnil]
    rfl
  · rw [splitChars_joinChars hnil h]

/-- It is absolute only if the first of them is blank. -/
theorem isAbsolute_joinChars {more : List (List Char)} (hfirst : first ≠ []) (hslash : '/' ∉ first) :
    (Path.mk (String.ofList (joinChars '/' (first :: more)))).isAbsolute = false := by
  obtain ⟨c, cs, rfl⟩ := List.exists_cons_of_ne_nil hfirst
  have hhead : (joinChars '/' ((c :: cs) :: more)).head? = some c := by
    cases more <;> rfl
  rw [isAbsolute, String.toList_ofList, hhead, beq_eq_false_iff_ne, ne_eq, Option.some.injEq]
  rintro rfl
  exact hslash List.mem_cons_self

theorem mem_of_mem_dropNames {n : Nat} {seg : List Char}
    (h : seg ∈ dropIdle (dropNames n segs)) : seg ∈ segs :=
  (dropNames_suffix n segs).mem (mem_of_mem_dropIdle h)

/-- What stands behind some names is relative. -/
theorem isAbsolute_dropNames {n : Nat} (h : ∀ seg ∈ segs, '/' ∉ seg) :
    (Path.mk (String.ofList (joinChars '/' (dropIdle (dropNames n segs))))).isAbsolute = false := by
  cases hdrop : dropNames n segs with
  | nil => rfl
  | cons first rest =>
    have hsome := isSome_of_dropNames hdrop
    have hne : first ≠ [] := by
      rintro rfl
      exact absurd hsome Bool.false_ne_true
    have hfirst : first ∈ segs := (dropNames_suffix n segs).mem (hdrop ▸ List.mem_cons_self)
    rw [dropIdle_cons]
    exact isAbsolute_joinChars hne (h first hfirst)

theorem segments_of_isAbsolute (h : p.isAbsolute = true) :
    ∃ more ≠ [], p.segments = [] :: more := by
  obtain ⟨cs, hcs⟩ := List.head?_eq_some_iff.1 (beq_iff_eq.1 h)
  refine ⟨splitChars '/' cs, splitChars_ne_nil '/' cs, ?_⟩
  rw [segments, hcs]
  exact splitChars_append_sep '/' [] cs

theorem firstComponent_of_isAbsolute (h : p.isAbsolute = true) : p.firstComponent = [.root] := by
  obtain ⟨more, hmore, hsegs⟩ := segments_of_isAbsolute h
  exact firstComponent_eq hsegs (by simp [hsegs, hmore])

/-- The components of an absolute path are those below the root. -/
theorem components_absolute (h : p.isAbsolute = true) : p.components = .root :: p.steps := by
  obtain ⟨more, hmore, hsegs⟩ := segments_of_isAbsolute h
  rw [components, firstComponent_of_isAbsolute h, steps, hsegs]
  rfl

/-- What stays behind as many names as the directory has. -/
theorem stripPrefix?_eq (hp : p.isAbsolute = true) (hbase : base.isAbsolute = true)
    (hsegs : p.segments = [] :: segs) (h : base.components <+: p.components) :
    p.stripPrefix? base =
      some ⟨String.ofList (joinChars '/' (dropIdle (dropNames base.steps.length segs)))⟩ := by
  have hbaseComps := components_absolute hbase
  have hlength : base.components.length - p.firstComponent.length = base.steps.length := by
    rw [hbaseComps, firstComponent_of_isAbsolute hp, List.length_cons, List.length_singleton,
      Nat.add_sub_cancel]
  rw [stripPrefix?]
  dsimp only
  rw [leads_iff.2 h, Bool.not_true, if_neg Bool.false_ne_true, hlength, hsegs, List.tail_cons,
    if_neg (by rw [hbaseComps]; exact Bool.false_ne_true)]
  split
  · next hnil =>
    rw [hnil]
    rfl
  · rfl

/-- **What lies below a directory**, taken from it, is the path again. -/
theorem components_stripPrefix? (hp : p.isAbsolute = true) (hbase : base.isAbsolute = true)
    (h : base.components <+: p.components) :
    ∃ below : Path, p.stripPrefix? base = some below ∧ below.isAbsolute = false ∧
      base.components ++ below.steps = p.components := by
  obtain ⟨more, -, hsegs⟩ := segments_of_isAbsolute hp
  have hslash : ∀ seg ∈ more, '/' ∉ seg := fun seg hseg =>
    notMem_of_mem_splitChars (hsegs ▸ List.mem_cons_of_mem [] hseg : seg ∈ p.segments)
  have hsteps : p.steps = more.filterMap Component.ofSegment := by
    rw [steps, hsegs]
    rfl
  refine ⟨_, stripPrefix?_eq hp hbase hsegs h, isAbsolute_dropNames hslash, ?_⟩
  rw [components_absolute hbase, components_absolute hp, List.cons_prefix_cons] at h
  rw [steps_joinChars fun seg hseg => hslash seg (mem_of_mem_dropNames hseg),
    filterMap_dropIdle, filterMap_dropNames, ← hsteps, components_absolute hbase,
    components_absolute hp, List.cons_append, List.prefix_iff_eq_append.1 h.2]

/-! ## The path of components, and the parent -/

/-- A segment by itself is a path of one part. -/
theorem steps_segment {seg : List Char} {c : Component} (hslash : '/' ∉ seg)
    (hseg : Component.ofSegment seg = some c) :
    (Path.mk (String.ofList seg)).steps = [c] ∧
      (Path.mk (String.ofList seg)).isAbsolute = false := by
  have hne : seg ≠ [] := by
    rintro rfl
    cases hseg
  have habsolute : (Path.mk (String.ofList (joinChars '/' [seg]))).isAbsolute = false :=
    isAbsolute_joinChars hne hslash
  refine ⟨?_, habsolute⟩
  rw [steps, segments, String.toList_ofList, splitChars_of_notMem hslash,
    List.filterMap_cons_some hseg, List.filterMap_nil]

theorem ofComponents_concat {seg : List Char} {c : Component} (cs : List Component)
    (hseg : Component.ofSegment seg = some c) :
    ofComponents (cs ++ [c]) = (ofComponents cs).child (String.ofList seg) := by
  rw [ofComponents, List.foldl_append, ← ofComponents, List.foldl_cons, List.foldl_nil]
  cases c with
  | name n => rw [Component.eq_of_ofSegment hseg]
  | parent =>
    rw [Component.ofSegment] at hseg
    split at hseg
    · cases hseg
    · split at hseg
      · next hdots => rw [hdots]
      · cases hseg
  | _ =>
    rw [Component.ofSegment] at hseg
    split at hseg
    · cases hseg
    · split at hseg <;> cases hseg

/-- **The path of parts** has these parts and is relative, if each of them is
what a segment means. -/
theorem steps_ofComponents {cs : List Component}
    (h : ∀ c ∈ cs, ∃ seg, '/' ∉ seg ∧ Component.ofSegment seg = some c) :
    (ofComponents cs).steps = cs ∧ (ofComponents cs).isAbsolute = false := by
  induction cs using List.reverseRecOn with
  | nil => exact ⟨rfl, rfl⟩
  | append_singleton cs c ih =>
    obtain ⟨hsteps, hrelative⟩ := ih fun c' hc' => h c' (List.mem_append_left [c] hc')
    obtain ⟨seg, hslash, hseg⟩ := h c (List.mem_append_right cs (List.mem_singleton_self c))
    obtain ⟨hone, hname⟩ := steps_segment hslash hseg
    rw [ofComponents_concat cs hseg, child, steps_join _ hname, isAbsolute_join _ hname]
    exact ⟨by rw [hsteps, hone], hrelative⟩

/-- The parts of a path are what its segments mean. -/
theorem exists_segment_of_mem_steps {c : Component} (h : c ∈ p.steps) :
    ∃ seg, '/' ∉ seg ∧ Component.ofSegment seg = some c := by
  obtain ⟨seg, hmem, hseg⟩ := List.mem_filterMap.1 h
  exact ⟨seg, notMem_of_mem_splitChars hmem, hseg⟩

theorem root_notMem_steps (p : Path) : .root ∉ p.steps := by
  intro h
  obtain ⟨seg, -, hseg⟩ := exists_segment_of_mem_steps h
  rw [Component.ofSegment] at hseg
  split at hseg
  · cases hseg
  · split at hseg <;> cases hseg

theorem isAbsolute_ofSegments (segs : List (List Char)) :
    (ofSegments ([] :: segs)).isAbsolute = true := by
  cases segs <;> simp [ofSegments, joinChars, isAbsolute]

/-- A path with a last name has a segment behind the root. -/
theorem dropIdle_of_lastComponent {c : Component} (hp : p.isAbsolute = true)
    (hlast : p.lastComponent = some c) (hroot : c ≠ .root) :
    ∃ seg more, dropIdle p.segments = [] :: seg :: more := by
  obtain ⟨more, -, hsegs⟩ := segments_of_isAbsolute hp
  have hkept := filterMap_dropIdle p.segments
  rw [hsegs, dropIdle_cons] at hkept ⊢
  cases hidle : (more.reverse.dropWhile fun s => (Component.ofSegment s).isNone).reverse with
  | cons seg segs => exact ⟨seg, segs, rfl⟩
  | nil =>
    rw [hidle, ← hsegs, ← steps] at hkept
    rw [lastComponent, components_absolute hp, ← hkept] at hlast
    exact absurd (Option.some.inj hlast).symm hroot

/-- The parent of an absolute path is absolute. -/
theorem isAbsolute_of_parent? {dir : Path} (hp : p.isAbsolute = true)
    (h : p.parent? = some dir) : dir.isAbsolute = true := by
  rw [parent?] at h
  split at h
  · cases h
  · cases h
  · next c hroot hlast =>
    obtain ⟨seg, more, hsegs⟩ := dropIdle_of_lastComponent hp hlast hroot
    rw [hsegs] at h
    rw [← Option.some.inj h]
    exact isAbsolute_ofSegments _

end Path
end CodeDesk
