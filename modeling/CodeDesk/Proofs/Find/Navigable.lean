import CodeDesk.Find.Results
import CodeDesk.Proofs.Files.Path
import CodeDesk.Proofs.Find.Spelling
import Mathlib.Algebra.GroupWithZero.Nat
import Mathlib.Data.List.Basic
/-!
# Navigable results — a line of the view leads to its match

A line joins a link, a tab and the text around the match, and the link joins
a path and numbers. Number signs in the path do no harm, for the numbers
behind it hold none and the path ends at the last one; nor do tabs in the
text around the match. But the line is cut at its first tab, and a number is
read only where it fits a word. So a line leads to its match exactly if the
link on it is plain (`Link.Plain`).

The layout is a matter of counting. The lines of a file begin where those of
the files before it end, and each of these has one line more than it has
matches (`Results.headerLine`). With both, the results are navigable as a
whole exactly if all their links are plain (`navigable_iff`).
-/

namespace CodeDesk
namespace Find

/-! ## Plain links -/

/-- A link that can be read from the front of a line: there is no tab in its
path, and its numbers fit a word. -/
structure Link.Plain (l : Link) : Prop where
  /-- The line is not cut within the path. -/
  tabless : '\t' ∉ l.path.text.toList
  /-- The numbers can be read. -/
  words : ∀ n ∈ l.numbers, n < wordLimit

/-! ## The link on a line -/

namespace View

variable {l : Link} {line : String}

/-- **A plain link is found on its line**, whatever stands behind it. -/
theorem linkOf_of_plain (h : l.Plain) (hpath : l.path.text ≠ "") (rest : String) :
    linkOf (l.text ++ "\t" ++ rest) = some l := by
  have hspelled : l.Spelled l.text := Link.spelled_text_iff.2 ⟨hpath, h.words⟩
  have htab : '\t' ∉ l.text.toList := by
    obtain ⟨-, a, b, c, d, e, f, hl, htext⟩ := Link.spelled_iff.1 hspelled
    have hfragment : '\t' ∉ (fragmentText a b c d e f).toList := hl.notMem (by decide) (by decide)
    have hscheme : '\t' ∉ Link.scheme.toList := by decide
    rw [htext]
    simp only [String.toList_append, List.mem_append, hscheme, h.tabless, hfragment, or_false,
      false_or]
    decide
  have hline : (l.text ++ "\t" ++ rest).toList = l.text.toList ++ '\t' :: rest.toList := by simp
  have hsplit := splitChars_append_sep '\t' l.text.toList rest.toList
  rw [splitChars_of_notMem htab, ← hline, List.singleton_append] at hsplit
  rw [linkOf, hsplit]
  dsimp only
  rw [String.ofList_toList, Link.parse?_eq_some_iff.2 hspelled]

/-- **What is found on a line is plain.** -/
theorem plain_of_linkOf (h : linkOf line = some l) : l.Plain := by
  rw [linkOf] at h
  split at h
  · next first parts hsplit =>
    have htab : '\t' ∉ first := notMem_of_mem_splitChars (hsplit ▸ List.mem_cons_self)
    have hspelled := Link.parse?_eq_some_iff.1 h
    obtain ⟨-, a, b, c, d, e, f, -, htext⟩ := Link.spelled_iff.1 hspelled
    -- the path is a part of the front of the line, which is cut at the first tab
    refine ⟨fun hin => htab ?_, hspelled.words⟩
    rw [← String.toList_ofList (l := first), htext]
    simp only [String.toList_append, List.mem_append]
    exact .inl (.inl (.inr hin))
  · cases h

/-- The header of a file does not look like a link. -/
theorem linkOf_header (f : FileResult) : linkOf f.header = none := by
  obtain ⟨cs, hheader⟩ : ∃ cs, f.header.toList = '[' :: cs :=
    ⟨(toString f.count).toList ++ ("] ".toList ++ f.path.text.toList), by
      simp only [FileResult.header, String.toList_append, List.append_assoc]
      rfl⟩
  obtain ⟨part, parts, hparts⟩ := List.exists_cons_of_ne_nil (splitChars_ne_nil '\t' cs)
  have hsplit : splitChars '\t' f.header.toList = ('[' :: part) :: parts := by
    rw [hheader, splitChars, hparts]
    exact if_neg (by decide)
  rw [linkOf, hsplit]
  dsimp only
  rw [Link.parse?, String.toList_ofList]
  rfl

end View

/-! ## The layout -/

/-- A file of results that is as the search makes them: it has a region and
a line for each match that it counts. -/
structure FileResult.Complete (f : FileResult) : Prop where
  /-- There is a region for each match. -/
  regions : f.regions.length = f.count
  /-- There is a line for each match. -/
  lines : f.lines.length = f.count
  /-- The path has a text. -/
  path : f.path.text ≠ ""

/-- The link of a match, where those of its file begin on line
`resultsLine`. -/
def FileResult.link (f : FileResult) (resultsLine : Nat) (region : Region) : Link :=
  ⟨f.path, resultsLine, f.count, region⟩

/-- How many lines the first `k` files take. -/
def linesBefore (fs : List FileResult) (k : Nat) : Nat :=
  ((fs.take k).map fun f => f.count + 1).sum

/-- The line of the header of file number `k`. -/
def Results.headerLine (r : Results) (k : Nat) : Nat := linesBefore r.files k

section Layout

variable {fs : List FileResult} {f : FileResult} {start i k : Nat} {region : Region}

theorem linesBefore_succ (f : FileResult) (fs : List FileResult) (k : Nat) :
    linesBefore (f :: fs) (k + 1) = f.count + 1 + linesBefore fs k := by
  rw [linesBefore, linesBefore, List.take_succ_cons, List.map_cons, List.sum_cons]

theorem FileResult.Complete.length_block (h : f.Complete) (start : Nat) :
    (f.block start).length = f.count + 1 := by
  rw [block, List.length_cons, List.length_map, List.length_zip, h.regions, h.lines, Nat.min_self]

/-- **Each file has its lines where those before it end.** -/
theorem getElem?_blocks (h : ∀ f ∈ fs, f.Complete) (hf : fs[k]? = some f) (hi : i < f.count + 1)
    (start : Nat) :
    (blocks start fs)[linesBefore fs k + i]? = (f.block (start + linesBefore fs k))[i]? := by
  induction fs generalizing start k with
  | nil => cases hf
  | cons g fs ih =>
    obtain ⟨hg, hfs⟩ := List.forall_mem_cons.1 h
    have hlength := hg.length_block start
    cases k with
    | zero =>
      rw [List.getElem?_cons_zero, Option.some.injEq] at hf
      subst hf
      have hzero : linesBefore (g :: fs) 0 = 0 := rfl
      rw [blocks, hzero, Nat.zero_add, Nat.add_zero]
      exact List.getElem?_append_left (by omega)
    | succ k =>
      rw [List.getElem?_cons_succ] at hf
      have hline := linesBefore_succ g fs k
      have hrest := ih hfs hf (start + (g.count + 1))
      rw [blocks, hlength, List.getElem?_append_right (by omega), hlength, hline]
      have hindex : g.count + 1 + linesBefore fs k + i - (g.count + 1) = linesBefore fs k + i := by
        omega
      rw [hindex, hrest, Nat.add_assoc]

theorem length_blocks (h : ∀ f ∈ fs, f.Complete) (start : Nat) :
    (blocks start fs).length = fs.length + fs.foldr (fun f n => f.count + n) 0 := by
  induction fs generalizing start with
  | nil => rfl
  | cons f fs ih =>
    obtain ⟨hf, hfs⟩ := List.forall_mem_cons.1 h
    rw [blocks, List.length_append, hf.length_block, ih hfs, List.length_cons, List.foldr_cons]
    omega

/-- The line of a match has its link in front. -/
theorem FileResult.Complete.getElem?_block (h : f.Complete) (hregion : f.regions[i]? = some region)
    (start : Nat) : ∃ rest, (f.block start)[i + 1]? =
      some ((f.link (start + 1) region).text ++ "\t" ++ rest) := by
  have hi : i < f.lines.length := by
    rw [h.lines, ← h.regions]
    exact (List.getElem?_eq_some_iff.1 hregion).1
  have hzip : (f.regions.zip f.lines)[i]? = some (region, f.lines[i]) :=
    List.getElem?_zip_eq_some.2 ⟨hregion, List.getElem?_eq_getElem hi⟩
  refine ⟨trim f.lines[i], ?_⟩
  rw [block, List.getElem?_cons_succ, List.getElem?_map, hzip]
  rfl

/-- The links that are found on the lines of a file. -/
theorem FileResult.Complete.filterMap_block (h : f.Complete)
    (hplain : ∀ region ∈ f.regions, (f.link (start + 1) region).Plain) :
    (f.block start).filterMap View.linkOf = f.regions.map (f.link (start + 1)) := by
  have hentry : ∀ m ∈ f.regions.zip f.lines,
      View.linkOf (f.entry (start + 1) m.1 m.2) = some (f.link (start + 1) m.1) := fun m hm =>
    View.linkOf_of_plain (hplain m.1 (List.of_mem_zip hm).1) h.path _
  have hregions : (f.regions.zip f.lines).map Prod.fst = f.regions :=
    List.map_fst_zip (Nat.le_of_eq (by rw [h.regions, h.lines]))
  rw [block, List.filterMap_cons_none (View.linkOf_header f), List.filterMap_map, Function.comp_def,
    List.filterMap_congr hentry, List.filterMap_eq_map']
  calc (f.regions.zip f.lines).map (fun m => f.link (start + 1) m.1)
      = ((f.regions.zip f.lines).map Prod.fst).map (f.link (start + 1)) := by
        rw [List.map_map, Function.comp_def]
    _ = f.regions.map (f.link (start + 1)) := by rw [hregions]

/-- The links to a file that are found on the lines of files are those of its
matches, in order. -/
theorem regions_blocks (h : ∀ f ∈ fs, f.Complete)
    (hplain : ∀ (k : Nat) (f : FileResult), fs[k]? = some f → ∀ region ∈ f.regions,
      (f.link (start + linesBefore fs k + 1) region).Plain) (p : Path) :
    (((blocks start fs).filterMap View.linkOf).filter fun l => l.path == p).map (·.region) =
      (fs.filter fun f => f.path == p).flatMap (·.regions) := by
  induction fs generalizing start with
  | nil => rfl
  | cons f fs ih =>
    obtain ⟨hf, hfs⟩ := List.forall_mem_cons.1 h
    have hblock : (f.block start).filterMap View.linkOf = f.regions.map (f.link (start + 1)) :=
      hf.filterMap_block (hplain 0 f rfl)
    have hplain' : ∀ (k : Nat) (g : FileResult), fs[k]? = some g → ∀ region ∈ g.regions,
        (g.link (start + (f.count + 1) + linesBefore fs k + 1) region).Plain := by
      intro k g hg
      have hline := linesBefore_succ f fs k
      have hown := hplain (k + 1) g hg
      rw [hline] at hown
      rwa [Nat.add_assoc start]
    have hrest := ih hfs hplain'
    have hown : ((f.regions.map (f.link (start + 1))).filter fun l => l.path == p).map (·.region) =
        if f.path == p then f.regions else [] := by
      rw [List.filter_map, List.map_map]
      have hregion : (fun l : Link => l.region) ∘ f.link (start + 1) = id := rfl
      have hpath : (fun l : Link => l.path == p) ∘ f.link (start + 1) = fun _ => f.path == p := rfl
      rw [hregion, hpath, List.map_id]
      split
      · next hp => rw [hp, List.filter_true]
      · next hp => rw [Bool.not_eq_true] at hp; rw [hp, List.filter_false]
    rw [blocks, hf.length_block, List.filterMap_append, List.filter_append, List.map_append, hblock,
      hown, hrest, List.filter_cons]
    split
    · rw [List.flatMap_cons]
    · rw [List.nil_append]

end Layout

/-! ## Navigable results -/

/-- Every line of the view leads where it should. -/
structure Results.Navigable (r : Results) : Prop where
  /-- There is a line for each file and one for each match. -/
  length : r.render.lines.length = r.files.length + r.total
  /-- The first line of a file is its header, which leads nowhere. -/
  header : ∀ (k : Nat) (f : FileResult), r.files[k]? = some f →
    r.render.lines[r.headerLine k]? = some f.header ∧ r.render.linkAt (r.headerLine k) = none
  /-- The lines behind it lead to the matches of the file one by one. -/
  entry : ∀ (k : Nat) (f : FileResult) (i : Nat) (region : Region),
    r.files[k]? = some f → f.regions[i]? = some region →
    r.render.linkAt (r.headerLine k + 1 + i) = some (f.link (r.headerLine k + 1) region)
  /-- The links to a file lead to all of its matches, in order. -/
  linksFor : ∀ p, (r.render.linksFor p).map (·.region) =
    (r.files.filter fun f => f.path == p).flatMap (·.regions)

/-- **Results are navigable** exactly if the link of each match is plain. -/
theorem navigable_iff (r : Results) (h : ∀ f ∈ r.files, f.Complete) :
    r.Navigable ↔ ∀ (k : Nat) (f : FileResult), r.files[k]? = some f → ∀ region ∈ f.regions,
      (f.link (r.headerLine k + 1) region).Plain := by
  have hblock : ∀ {k f i}, r.files[k]? = some f → i < f.count + 1 →
      r.render.lines[r.headerLine k + i]? = (f.block (r.headerLine k))[i]? := by
    intro k f i hf hi
    have hlines := getElem?_blocks h hf hi 0
    rw [Nat.zero_add] at hlines
    exact hlines
  constructor
  · intro hnav k f hf region hregion
    obtain ⟨i, hi⟩ := List.getElem?_of_mem hregion
    have hat := hnav.entry k f i region hf hi
    obtain ⟨line, -, hline⟩ := Option.bind_eq_some_iff.1 hat
    exact View.plain_of_linkOf hline
  · intro hplain
    refine ⟨length_blocks h 0, fun k f hf => ?_, fun k f i region hf hi => ?_, fun p => ?_⟩
    · have hline := hblock hf (Nat.succ_pos f.count)
      rw [Nat.add_zero] at hline
      have hheader : r.render.lines[r.headerLine k]? = some f.header := hline
      exact ⟨hheader, by rw [View.linkAt, hheader, Option.bind_some, View.linkOf_header]⟩
    · have hf' : f.Complete := h f (List.mem_of_getElem? hf)
      have hcount : i < f.count := by
        rw [← hf'.regions]
        exact (List.getElem?_eq_some_iff.1 hi).1
      obtain ⟨rest, hrest⟩ := hf'.getElem?_block hi (r.headerLine k)
      have hline := hblock hf (i := i + 1) (by omega)
      have hindex : r.headerLine k + 1 + i = r.headerLine k + (i + 1) := by omega
      have hregion : region ∈ f.regions := List.mem_of_getElem? hi
      rw [View.linkAt, hindex, hline, hrest, Option.bind_some]
      exact View.linkOf_of_plain (hplain k f hf region hregion) hf'.path rest
    · refine regions_blocks h (fun k f hf region hregion => ?_) p
      rw [Nat.zero_add]
      exact hplain k f hf region hregion

/-- Number signs in a path do no harm. -/
theorem navigable_numberSign :
    let f : FileResult := ⟨⟨"/p/a#R1.go"⟩, 2, [⟨⟨0, 0⟩, ⟨0, 3⟩⟩, ⟨⟨4, 2⟩, ⟨4, 5⟩⟩],
      ["foo()", "  foo :=\t1"], none⟩
    let r : Results := ⟨.blank, [f]⟩
    f.Complete ∧ r.Navigable := by
  intro f r
  have hf : f.Complete := ⟨rfl, rfl, by decide⟩
  refine ⟨hf, (navigable_iff r (by simpa [r] using hf)).2 fun k g hg region hregion => ?_⟩
  obtain ⟨rfl, rfl⟩ : k = 0 ∧ g = f := by
    cases k with
    | zero => exact ⟨rfl, (Option.some.inj hg).symm⟩
    | succ k => cases hg
  have hregion : region = ⟨⟨0, 0⟩, ⟨0, 3⟩⟩ ∨ region = ⟨⟨4, 2⟩, ⟨4, 5⟩⟩ := by simpa [f] using hregion
  rcases hregion with rfl | rfl
  · exact ⟨by decide, by decide⟩
  · exact ⟨by decide, by decide⟩

/-- A tab in a path does: the link of the match is cut off within it. -/
theorem not_navigable_tab :
    let f : FileResult := ⟨⟨"/p/a\tb.go"⟩, 1, [⟨⟨0, 0⟩, ⟨0, 3⟩⟩], ["foo"], none⟩
    let r : Results := ⟨.blank, [f]⟩
    f.Complete ∧ r.render.linkAt 1 = none ∧ ¬ r.Navigable := by
  intro f r
  have hnone : r.render.linkAt 1 = none := by decide
  refine ⟨⟨rfl, rfl, by decide⟩, hnone, fun hnav => ?_⟩
  have hsome := hnav.entry 0 f 0 ⟨⟨0, 0⟩, ⟨0, 3⟩⟩ rfl rfl
  rw [show r.headerLine 0 + 1 + 0 = 1 from rfl, hnone] at hsome
  cases hsome

end Find
end CodeDesk
