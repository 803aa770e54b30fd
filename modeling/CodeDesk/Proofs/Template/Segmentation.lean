import CodeDesk.Template.Syntax
/-!
# Segmentation — what a template is made of

A template is a list of segments, each a text that stands for itself or a
reference to a variable. The list depends on the template alone. `bind` and
`names` pass over the template on their own, and still take the same turn at
every character: what each of them gives is read off the segments
(`bind_eq_fillAll`, `names_eq_filterMap`).

So a value is looked up for each of the names and for nothing else, and it
comes into the result as it is.
-/

namespace CodeDesk
namespace Template

/-- A part of a template. -/
inductive Segment where
  /-- Text that stands for itself. -/
  | text (s : String)
  /-- A reference to a variable. -/
  | var (name : String)
  deriving DecidableEq, Repr, Inhabited

/-- The name that a segment refers to. -/
def Segment.name? : Segment → Option String
  | text _ => none
  | var name => some name

/-- What stands for a segment under a lookup. -/
def Segment.fill (lookup : String → Option String) : Segment → String
  | text s => s
  | var name => (lookup name).getD ""

/-- What stands for segments under a lookup. -/
def fillAll (lookup : String → Option String) (segs : List Segment) : String :=
  String.join (segs.map (Segment.fill lookup))

/-- The first segment of the template `c :: cs` and what follows it. -/
def piece (c : Char) (cs : List Char) : Segment × List Char :=
  if c = '\\' ∧ cs.head? = some '\x7b' then
    match cutFirst '\x7d' cs with
    | some (inner, rest) => (.text (String.ofList (inner ++ ['\x7d'])), rest)
    | none => (.text (String.ofList cs), [])
  else if c = '\x7b' then
    match cutFirst '\x7d' cs with
    | some (name, rest) =>
      if isName name then (.var (String.ofList name), rest) else (.text c.toString, cs)
    | none => (.text (String.ofList (c :: cs)), [])
  else (.text c.toString, cs)

/-- A segment takes at least one character. -/
theorem length_piece (c : Char) (cs : List Char) : (piece c cs).2.length < (c :: cs).length := by
  rw [List.length_cons, Nat.lt_succ_iff, piece]
  split
  · cases hcut : cutFirst '\x7d' cs with
    | none => exact Nat.zero_le _
    | some p => exact Nat.le_of_lt (cutFirst_length hcut)
  · split
    · cases hcut : cutFirst '\x7d' cs with
      | none => exact Nat.zero_le _
      | some p =>
        dsimp only
        split
        · exact Nat.le_of_lt (cutFirst_length hcut)
        · exact Nat.le_refl _
    · exact Nat.le_refl _

/-- The segments of a text. -/
def segmentsOf : List Char → List Segment
  | [] => []
  | c :: cs => (piece c cs).1 :: segmentsOf (piece c cs).2
termination_by cs => cs.length
decreasing_by exact length_piece c cs

/-- The template taken apart. -/
def segments (template : String) : List Segment := segmentsOf template.toList

variable {lookup lookup' : String → Option String} {template name : String}

/-! ## Filling segments -/

@[simp] theorem fillAll_nil : fillAll lookup [] = "" := rfl

@[simp] theorem fillAll_cons (seg : Segment) (segs : List Segment) :
    fillAll lookup (seg :: segs) = seg.fill lookup ++ fillAll lookup segs :=
  String.join_cons

theorem fillAll_append (segs segs' : List Segment) :
    fillAll lookup (segs ++ segs') = fillAll lookup segs ++ fillAll lookup segs' := by
  rw [fillAll, List.map_append, String.join_append, fillAll, fillAll]

/-- What stands for segments depends on the names they refer to. -/
theorem fillAll_congr {segs : List Segment}
    (h : ∀ name ∈ segs.filterMap Segment.name?, lookup name = lookup' name) :
    fillAll lookup segs = fillAll lookup' segs := by
  have hseg : ∀ seg ∈ segs, seg.fill lookup = seg.fill lookup' := by
    intro seg hmem
    cases seg with
    | text s => rfl
    | var name =>
      have hname : name ∈ segs.filterMap Segment.name? :=
        List.mem_filterMap.2 ⟨.var name, hmem, rfl⟩
      rw [Segment.fill, Segment.fill, h name hname]
  rw [fillAll, List.map_congr_left hseg, fillAll]

/-! ## The two passes over a template -/

/-- Binding goes on from segment to segment. -/
theorem bindChars_cons (lookup : String → Option String) (c : Char) (cs : List Char) :
    bindChars lookup (c :: cs) =
      ((piece c cs).1.fill lookup).toList ++ bindChars lookup (piece c cs).2 := by
  have hnil : bindChars lookup [] = [] := by rw [bindChars]
  -- The cases are those of `piece`: what the first character is, and whether
  -- a brace that it opens is closed again.
  rw [bindChars]
  by_cases hescape : c = '\\'
  · subst hescape
    by_cases hopen : cs.head? = some '\x7b'
    · rw [if_pos rfl, if_pos hopen]
      split
      · next inner rest hcut => simp [piece, Segment.fill, hopen, hcut]
      · next hcut => simp [piece, Segment.fill, hopen, hcut, hnil]
    · rw [if_pos rfl, if_neg hopen]
      simp [piece, Segment.fill, hopen]
  · rw [if_neg hescape]
    by_cases hbrace : c = '\x7b'
    · subst hbrace
      rw [if_pos rfl]
      split
      · next name rest hcut =>
        by_cases hname : isName name
        · simp [piece, Segment.fill, hcut, hname]
        · simp [piece, Segment.fill, hcut, hname]
      · next hcut => simp [piece, Segment.fill, hcut, hnil]
    · rw [if_neg hbrace]
      simp [piece, Segment.fill, hescape, hbrace]

/-- Listing the names goes on from segment to segment. -/
theorem namesOf_cons (c : Char) (cs : List Char) :
    namesOf (c :: cs) = (piece c cs).1.name?.toList ++ namesOf (piece c cs).2 := by
  have hnil : namesOf [] = [] := by rw [namesOf]
  rw [namesOf]
  by_cases hescape : c = '\\'
  · subst hescape
    rw [if_pos rfl]
    split
    · next _ rest hopen hcut => simp_all [piece, Segment.name?]
    · next hopen hcut => simp_all [piece, Segment.name?]
    · next hopen => simp_all [piece, Segment.name?]
  · rw [if_neg hescape]
    by_cases hbrace : c = '\x7b'
    · subst hbrace
      rw [if_pos rfl]
      split
      · next name rest hcut =>
        by_cases hname : isName name
        · simp [piece, Segment.name?, hcut, hname]
        · simp [piece, Segment.name?, hcut, hname]
      · next hcut => simp [piece, Segment.name?, hcut, hnil]
    · rw [if_neg hbrace]
      simp [piece, Segment.name?, hescape, hbrace]

theorem bindChars_eq (lookup : String → Option String) (cs : List Char) :
    bindChars lookup cs = (fillAll lookup (segmentsOf cs)).toList := by
  induction cs using segmentsOf.induct with
  | case1 => rw [bindChars, segmentsOf, fillAll_nil, String.toList_empty]
  | case2 c cs ih =>
    rw [bindChars_cons, ih, segmentsOf, fillAll_cons, String.toList_append]

theorem namesOf_eq (cs : List Char) : namesOf cs = (segmentsOf cs).filterMap Segment.name? := by
  induction cs using segmentsOf.induct with
  | case1 => rw [namesOf, segmentsOf, List.filterMap_nil]
  | case2 c cs ih =>
    rw [namesOf_cons, ih, segmentsOf, List.filterMap_cons]
    cases (piece c cs).1 <;> rfl

/-- **Binding fills the segments.** -/
theorem bind_eq_fillAll (lookup : String → Option String) (template : String) :
    bind lookup template = fillAll lookup (segments template) := by
  rw [bind, bindChars_eq, String.ofList_toList, segments]

/-- **The names are those that the segments refer to.** -/
theorem names_eq_filterMap (template : String) :
    names template = (segments template).filterMap Segment.name? :=
  namesOf_eq template.toList

theorem mem_names_iff : name ∈ names template ↔ .var name ∈ segments template := by
  rw [names_eq_filterMap, List.mem_filterMap]
  constructor
  · rintro ⟨seg, hmem, hname⟩
    cases seg with
    | text s => cases hname
    | var name' =>
      cases hname
      exact hmem
  · exact fun hmem => ⟨.var name, hmem, rfl⟩

/-- Lookups that agree on the names of a template bind it alike. -/
theorem bind_congr (h : ∀ name ∈ names template, lookup name = lookup' name) :
    bind lookup template = bind lookup' template := by
  rw [names_eq_filterMap] at h
  rw [bind_eq_fillAll, bind_eq_fillAll, fillAll_congr h]

/-- In the place of a reference there is its value, as it is. -/
theorem bind_of_split {before after : List Segment}
    (h : segments template = before ++ .var name :: after) (lookup : String → Option String) :
    bind lookup template =
      fillAll lookup before ++ (lookup name).getD "" ++ fillAll lookup after := by
  rw [bind_eq_fillAll, h, fillAll_append, fillAll_cons, ← String.append_assoc]
  rfl

/-! ## The names -/

theorem isIdentChar_iff (c : Char) : isIdentChar c ↔ c.isAlphanum ∨ c = '_' := by
  have hupper : c.isUpper = decide ('A' ≤ c ∧ c ≤ 'Z') := rfl
  have hlower : c.isLower = (decide ('a' ≤ c) && decide (c ≤ 'z')) := rfl
  have hdigit : c.isDigit = (decide ('0' ≤ c) && decide (c ≤ '9')) := rfl
  have halnum : c.isAlphanum = (c.isUpper || c.isLower || c.isDigit) := rfl
  simp only [isIdentChar, halnum, hupper, hlower, hdigit, Bool.or_eq_true, Bool.and_eq_true,
    decide_eq_true_eq]
  grind

theorem isName_of_piece {c : Char} {cs : List Char} (h : (piece c cs).1 = .var name) :
    isName name.toList := by
  rw [piece] at h
  split at h
  · split at h <;> cases h
  · split at h
    · split at h
      · split at h
        · next hname =>
          cases h
          rwa [String.toList_ofList]
        · cases h
      · cases h
    · cases h

theorem isName_of_mem {cs : List Char} (h : .var name ∈ segmentsOf cs) : isName name.toList := by
  induction cs using segmentsOf.induct with
  | case1 =>
    rw [segmentsOf] at h
    cases h
  | case2 c cs ih =>
    rw [segmentsOf, List.mem_cons] at h
    rcases h with hpiece | hmem
    · exact isName_of_piece hpiece.symm
    · exact ih hmem

/-- A name is made of letters, digits and underscores, at least one. -/
theorem isName_of_mem_names (h : name ∈ names template) : isName name.toList :=
  isName_of_mem (mem_names_iff.1 h)

/-- **A template is its segments.** They are found without knowing any
value: binding joins them with each reference filled in, and the names are
those of the references in order. So only the names of a template decide
what it is bound to, a value stands in the result as it is, whatever it
contains, and a name is a run of letters, digits and underscores. -/
theorem bind_by_segments (template : String) :
    (∀ lookup, bind lookup template = fillAll lookup (segments template)) ∧
    names template = (segments template).filterMap Segment.name? ∧
    (∀ lookup lookup', (∀ name ∈ names template, lookup name = lookup' name) →
      bind lookup template = bind lookup' template) ∧
    (∀ before name after, segments template = before ++ .var name :: after → ∀ lookup,
      bind lookup template =
        fillAll lookup before ++ (lookup name).getD "" ++ fillAll lookup after) ∧
    ∀ name ∈ names template, name ≠ "" ∧ ∀ c ∈ name.toList, c.isAlphanum ∨ c = '_' := by
  refine ⟨fun lookup => bind_eq_fillAll lookup template, names_eq_filterMap template,
    fun _ _ h => bind_congr h, fun _ _ _ h => bind_of_split h, fun name hname => ?_⟩
  have hname := isName_of_mem_names hname
  rw [isName, Bool.and_eq_true, Bool.not_eq_true', List.all_eq_true] at hname
  refine ⟨?_, fun c hc => (isIdentChar_iff c).1 (hname.2 c hc)⟩
  rintro rfl
  cases hname.1

/-- A value with braces and a backslash, between braces that stay. -/
theorem bind_by_segments_braced :
    let template := "\\\x7bA\x7d \x7b\x7bB\x7d\x7d \x7bC"
    let value := "\\\x7bC\x7d"
    let lookup := fun name => if name = "B" then some value else none
    let lookup' := fun name => if name = "B" then some value else some "other"
    (∀ name ∈ names template, lookup name = lookup' name) ∧
      bind lookup template = bind lookup' template ∧
      segments template =
        [.text "\x7bA\x7d", .text " ", .text "\x7b"] ++
          .var "B" :: [.text "\x7d", .text " ", .text "\x7bC"] ∧
      bind lookup template = "\x7bA\x7d \x7b" ++ value ++ "\x7d \x7bC" ∧
      "B" ∈ names template ∧ ∀ c ∈ "B".toList, c.isAlphanum ∨ c = '_' := by
  intro template value lookup lookup'
  have hsegments : segments template =
      [.text "\x7bA\x7d", .text " ", .text "\x7b"] ++
        .var "B" :: [.text "\x7d", .text " ", .text "\x7bC"] := by
    simp [template, segments, segmentsOf, piece, cutFirst, isName, isIdentChar]
  obtain ⟨-, hnames, hcongr, hsplit, hname⟩ := bind_by_segments template
  rw [hsegments] at hnames
  have hmem : "B" ∈ names template := by
    rw [hnames]
    decide
  have hagree : ∀ name ∈ names template, lookup name = lookup' name := by
    rw [hnames]
    decide
  exact ⟨hagree, hcongr _ _ hagree, hsegments, hsplit _ _ _ hsegments lookup, hmem,
    (hname "B" hmem).2⟩

end Template
end CodeDesk
