import CodeDesk.Find.Scan
import CodeDesk.Proofs.Regex.Literal
/-!
# Matches — what a search for a plain text finds

Every file of the results has the matches of the text that was searched
for it (`mem_files`), and for a plain text these are the pieces between
its occurrences (`regions_literal`): not one of them is empty, and no two
have one region.
-/

namespace CodeDesk
namespace Find

open Regex

/-- The text that was searched for a file. -/
def searchedText (s : Store) (f : FileResult) : String :=
  match f.buffer with
  | some id => s.textOf id
  | none =>
    match s.disk.read f.path with
    | .ok bytes => Utf8.decodeLossy bytes
    | .error _ => ""

/-- A text cut at the occurrences of what a request looks for: the pieces,
and what follows the last of them. -/
def Request.cut (req : Request) (text : String) : List Piece × List Char :=
  cutFrom 0 text.toList (occurrences (setsOf req.ignoreCase req.pattern) text.toList)

section Matches

variable {s : Store} {req : Request} {sc : Scope} {cancelled : Bool} {res : Results}
  {f : FileResult} {p : Program} {c : Candidate} {text : String}

/-- Matches in a text make a file of the results. -/
theorem matchesIn_some (h : matchesIn p c text = some f) :
    f.path = c.path ∧ f.buffer = c.buffer ∧ f.regions = findRegions p text ∧
      f.regions ≠ [] := by
  rw [matchesIn] at h
  simp only at h
  split at h
  · cases h
  · next hne =>
    cases h
    exact ⟨rfl, rfl, rfl, fun hnil => hne (List.isEmpty_iff.2 hnil)⟩

/-- A file of the results is made of the matches in the text that was searched
for it. -/
theorem matchesIn_of_searchFile {cfg : Config} (h : searchFile s p req cfg c = some f) :
    matchesIn p c (searchedText s f) = some f := by
  rw [searchFile] at h
  split at h
  · next id hbuffer =>
    split at h
    · cases h
    · obtain ⟨-, hsame, -⟩ := matchesIn_some h
      rw [searchedText, hsame, hbuffer]
      exact h
  · next hbuffer =>
    split at h
    · cases h
    · next bytes hread =>
      split at h
      · cases h
      · obtain ⟨hpath, hsame, -⟩ := matchesIn_some h
        rw [searchedText, hsame, hbuffer]
        simp only [hpath, hread]
        exact h

/-- **A file of the results has the matches of the text that was searched
for it.** -/
theorem searchFile_some {cfg : Config} (h : searchFile s p req cfg c = some f) :
    f.regions = findRegions p (searchedText s f) ∧ f.regions ≠ [] :=
  (matchesIn_some (matchesIn_of_searchFile h)).2.2

/-- The files of the results have matches, and each has those of its
text. -/
theorem mem_files (h : find s req sc cancelled = .ok res) (hf : f ∈ res.files) :
    res.request = req ∧ ∃ p, req.program = .ok p ∧
      f.regions = findRegions p (searchedText s f) ∧ f.regions ≠ [] := by
  rw [find] at h
  split at h
  · cases h
  · next p hp =>
    split at h
    · cases h
    · split at h
      · cases h
      · cases h
        rw [rank, List.mem_mergeSort, List.mem_filterMap] at hf
        obtain ⟨c, -, hc⟩ := hf
        exact ⟨rfl, p, hp, searchFile_some hc⟩

/-! ## Plain texts -/

/-- A request for a plain text always has a program. -/
theorem program_literal (hlit : req.isRegex = false) :
    req.program = .ok (literal req.ignoreCase req.pattern) := by
  rw [Request.program, hlit]
  rfl

/-- A search for the text without characters finds nothing. -/
theorem findRegions_literal_empty (ignoreCase : Bool) (text : String) :
    findRegions (literal ignoreCase "") text = [] := by
  have hnone : ((literal ignoreCase "").findAll text.toList).filter (fun m => m.1 < m.2) = [] := by
    rw [List.filter_eq_nil_iff]
    intro m hm
    rw [range_of_mem_findAll_empty ignoreCase hm]
    simp
  rw [findRegions, hnone]
  rfl

/-- Every occurrence has text. -/
theorem lt_of_mem_occurrencesFrom {sets : List Unicode.CharSet} (hsets : sets ≠ [])
    {here skip : Nat} {cs : List Char} {m : Nat × Nat}
    (hm : m ∈ occurrencesFrom sets here skip cs) : m.1 < m.2 := by
  have hpos := List.length_pos_iff.2 hsets
  induction cs generalizing here skip with
  | nil => cases skip <;> simp [occurrencesFrom] at hm
  | cons c cs ih =>
    cases skip with
    | succ skip => exact ih hm
    | zero =>
      rw [occurrencesFrom] at hm
      split at hm
      · rcases List.mem_cons.1 hm with rfl | hm
        · exact Nat.lt_add_of_pos_right hpos
        · exact ih hm
      · exact ih hm

/-- **The matches of a plain text lie between its pieces.** -/
theorem regions_literal (h : find s req sc cancelled = .ok res) (hlit : req.isRegex = false)
    (hf : f ∈ res.files) :
    setsOf req.ignoreCase req.pattern ≠ [] ∧
      f.regions = regionsAt ⟨0, 0⟩ (req.cut (searchedText s f)).1 := by
  obtain ⟨-, p, hp, hregions, hne⟩ := mem_files h hf
  rw [program_literal hlit] at hp
  cases hp
  have hsets : setsOf req.ignoreCase req.pattern ≠ [] := by
    intro hnil
    have hpattern : req.pattern = "" :=
      String.toList_eq_nil_iff.1 (List.map_eq_nil_iff.1 hnil)
    rw [hregions, hpattern, findRegions_literal_empty] at hne
    exact hne rfl
  refine ⟨hsets, ?_⟩
  have hall : ∀ m ∈ occurrences (setsOf req.ignoreCase req.pattern) (searchedText s f).toList,
      decide (m.1 < m.2) = true := fun m hm =>
    decide_eq_true (lt_of_mem_occurrencesFrom hsets hm)
  rw [hregions, findRegions, findAll_literal _ hsets, List.filter_eq_self.2 hall, regionsOf,
    regionsFrom_eq]
  rfl

/-- **Every match of a plain text fits it**, character by character. -/
theorem fit_of_mem_cut (hsets : setsOf req.ignoreCase req.pattern ≠ []) {x : Piece}
    (hx : x ∈ (req.cut text).1) :
    fit (setsOf req.ignoreCase req.pattern) x.found = true ∧
      x.found.length = (setsOf req.ignoreCase req.pattern).length :=
  fit_of_mem_cutFrom hsets hx

/-- No match of a plain text is empty. -/
theorem found_ne_nil_of_mem_cut (hsets : setsOf req.ignoreCase req.pattern ≠ []) {x : Piece}
    (hx : x ∈ (req.cut text).1) : x.found ≠ [] := by
  intro hnil
  have hlen := (fit_of_mem_cut hsets hx).2
  rw [hnil, List.length_nil] at hlen
  exact hsets (List.length_eq_zero_iff.1 hlen.symm)

/-- No two matches of a plain text have one region. -/
theorem nodup_cut (hsets : setsOf req.ignoreCase req.pattern ≠ []) (text : String) :
    (regionsAt ⟨0, 0⟩ (req.cut text).1).Nodup :=
  nodup_regionsAt fun _ hx => found_ne_nil_of_mem_cut hsets hx

end Matches

end Find
end CodeDesk
