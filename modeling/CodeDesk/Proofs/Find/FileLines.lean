import CodeDesk.Proofs.Document.ExactRegions
import CodeDesk.Proofs.Files.Path
import CodeDesk.Proofs.Find.Matches
/-!
# File lines — the matches of a file, each with its line

A file of the results lists its matches twice, as regions and as lines of the
text. Both lists are of one length, which is the count of the file, and an
entry of one belongs to the entry of the other (`searchFile_coherent`): the
line is the one that the region starts on, whole and without its ending.
Since a match has text, there is a character where it starts, and so a line.

There are two ways to take a text apart into lines. `linesOf` cuts it at its
line feeds, drops the carriage returns before them, and leaves out what
follows the last one if that is empty. The line starts count line feeds and
know no carriage return. They number the lines alike: a part of the text
that leads to the start of line `l` holds `l` lines (`linesOf_append`), and
the next one is what stands there up to its ending
(`exists_line_of_stands`).
-/

namespace CodeDesk

section Lines

variable {cs before line rest : List Char} {l n : Nat} {p : Pos}

/-- What a line ends with. -/
def lineEndings : List (List Char) := [['\n'], ['\r', '\n']]

/-- `line` is line `l` of a text: it stands at the start of that line and runs
up to an ending, or to the end of the text. A carriage return before a line
feed belongs to the ending. -/
def IsLine (cs : List Char) (l : Nat) (line : List Char) : Prop :=
  ∃ start ending rest, (lineStarts cs)[l]? = some start ∧
    Utf8.drop? cs start = some (line ++ ending ++ rest) ∧ '\n' ∉ line ∧
    (ending ∈ lineEndings ∨ ending = [] ∧ rest = []) ∧
    (ending = ['\n'] → line.getLast? ≠ some '\r')

/-! ## Cutting -/

/-- The lines of a text are an ended one and those of the rest. -/
theorem linesOf_ended (hline : '\n' ∉ line) (rest : List Char) :
    linesOf (line ++ '\n' :: rest) = dropReturn line :: linesOf rest := by
  have hne := splitChars_ne_nil '\n' rest
  have hlast : (line :: splitChars '\n' rest).getLast? = (splitChars '\n' rest).getLast? := by
    rw [List.getLast?_cons, List.getLast?_eq_some_getLast hne]
    rfl
  simp only [linesOf, splitChars_append_sep, splitChars_of_notMem hline, List.singleton_append,
    List.dropLast_cons_of_ne_nil hne, List.map_cons, hlast]
  split
  · rfl
  · rfl
  · rfl

/-- A text without a line feed is one line, unless it is empty. -/
theorem linesOf_unended (hline : '\n' ∉ line) (hne : line ≠ []) : linesOf line = [line] := by
  simp only [linesOf, splitChars_of_notMem hline]
  cases line with
  | nil => exact absurd rfl hne
  | cons c line => rfl

/-- **What leads to the start of a line holds the lines before it.** -/
theorem linesOf_append (h : Pos.after ⟨0, 0⟩ before = ⟨l, 0⟩) :
    ∃ fronts, fronts.length = l ∧ ∀ rest, linesOf (before ++ rest) = fronts ++ linesOf rest := by
  induction l generalizing before with
  | zero =>
    have hnil : before = [] := by
      by_contra hne
      have hlt := Pos.lt_after ⟨0, 0⟩ hne
      rw [h] at hlt
      simp [Pos.lt] at hlt
    exact ⟨[], rfl, fun rest => by rw [hnil, List.nil_append, List.nil_append]⟩
  | succ l ih =>
    have hmem : '\n' ∈ before := by
      by_contra hnone
      rw [Pos.after_of_not_mem _ hnone] at h
      simp at h
    -- The first line feed ends a line, and what is behind it leads one line less far.
    obtain ⟨line, behind, rfl, hline⟩ := List.eq_append_cons_of_mem hmem
    have hbehind : Pos.after ⟨0, 0⟩ behind = ⟨l, 0⟩ := by
      rw [Pos.after_append, Pos.after_of_not_mem _ hline, Pos.after_cons, Pos.step, if_pos rfl,
        Pos.after_line_start] at h
      generalize Pos.after ⟨0, 0⟩ behind = q at h ⊢
      obtain ⟨line, col⟩ := q
      simp only [Pos.mk.injEq] at h ⊢
      omega
    obtain ⟨fronts, hlength, hfronts⟩ := ih hbehind
    refine ⟨dropReturn line :: fronts, by rw [List.length_cons, hlength], fun rest => ?_⟩
    rw [List.append_assoc, List.cons_append, linesOf_ended hline, hfronts, List.cons_append]

/-! ## Endings -/

/-- A line without its carriage return, and what is left of the line. -/
theorem dropReturn_cases (line : List Char) :
    (dropReturn line = line ∧ line.getLast? ≠ some '\r') ∨ line = dropReturn line ++ ['\r'] := by
  rcases List.eq_nil_or_concat line with rfl | ⟨front, c, rfl⟩
  · exact .inl ⟨rfl, by simp⟩
  · by_cases hc : c = '\r'
    · refine .inr ?_
      rw [List.concat_eq_append, hc, dropReturn, List.reverse_append]
      simp
    · refine .inl ⟨?_, by simpa using hc⟩
      rw [dropReturn]
      split
      · next rest hrest =>
        rw [List.concat_eq_append, List.reverse_append] at hrest
        exact absurd (List.cons.inj hrest).1 hc
      · rfl

/-- An ended line without its carriage return runs up to its ending. -/
theorem exists_ending (hline : '\n' ∉ line) (rest : List Char) : ∃ ending ∈ lineEndings,
    line ++ '\n' :: rest = dropReturn line ++ ending ++ rest ∧ '\n' ∉ dropReturn line ∧
      (ending = ['\n'] → (dropReturn line).getLast? ≠ some '\r') := by
  rcases dropReturn_cases line with ⟨hsame, hlast⟩ | hcut
  · refine ⟨['\n'], List.mem_cons_self, ?_, hsame.symm ▸ hline, fun _ => hsame.symm ▸ hlast⟩
    rw [hsame, List.append_assoc, List.singleton_append]
  · refine ⟨['\r', '\n'], List.mem_cons_of_mem _ List.mem_cons_self, ?_, ?_, fun h => ?_⟩
    · conv_lhs => rw [hcut]
      simp only [List.append_assoc, List.cons_append, List.nil_append]
    · intro hmem
      exact hline (hcut ▸ List.mem_append_left _ hmem)
    · exact absurd h (by decide)

/-- **Where a character stands, there is a line**, and it is the one of that
number among the lines of the text. -/
theorem exists_line_of_stands (h : Pos.Stands cs n p) (hn : n < Utf8.size cs) :
    ∃ line, (linesOf cs)[p.line]? = some line ∧ IsLine cs p.line line := by
  obtain ⟨before, front, behind, rfl, hfront, hafter, hcol, rfl⟩ := h.exists_line
  have hstart : (lineStarts (before ++ front ++ behind))[p.line]? = some (Utf8.size before) :=
    Pos.lineStarts_getElem?_iff.2 ⟨before, front ++ behind, List.append_assoc _ _ _, rfl, hafter⟩
  have hdrop : Utf8.drop? (before ++ front ++ behind) (Utf8.size before) = some (front ++ behind) :=
    Utf8.drop?_eq_some_iff.2 ⟨before, List.append_assoc _ _ _, rfl⟩
  obtain ⟨fronts, hlength, hfronts⟩ := linesOf_append hafter
  have hget : (linesOf (before ++ front ++ behind))[p.line]? = (linesOf (front ++ behind))[0]? := by
    rw [List.append_assoc, hfronts, List.getElem?_append_right (Nat.le_of_eq hlength), hlength,
      Nat.sub_self]
  rw [hget]
  by_cases hmem : '\n' ∈ behind
  · -- The line is ended.
    obtain ⟨more, rest, rfl, hmore⟩ := List.eq_append_cons_of_mem hmem
    have hline : '\n' ∉ front ++ more := by
      rw [List.mem_append, not_or]
      exact ⟨hfront, hmore⟩
    rw [← List.append_assoc front] at hdrop ⊢
    obtain ⟨ending, hending, hcut, hnot, hlast⟩ := exists_ending hline rest
    rw [linesOf_ended hline]
    exact ⟨_, rfl, _, ending, rest, hstart, hcut ▸ hdrop, hnot, .inl hending, hlast⟩
  · -- The line is the last one of the text, and the character is in it.
    have hline : '\n' ∉ front ++ behind := by
      rw [List.mem_append, not_or]
      exact ⟨hfront, hmem⟩
    have hne : front ++ behind ≠ [] := by
      intro hnil
      obtain ⟨rfl, rfl⟩ := List.append_eq_nil_iff.1 hnil
      simp [Utf8.size] at hn
    rw [linesOf_unended hline hne]
    exact ⟨_, rfl, _, [], [], hstart, by simpa using hdrop, hline, .inr ⟨rfl, rfl⟩,
      fun h => by cases h⟩

end Lines

/-! ## The lines of the results -/

namespace Find

open Regex

/-- The parts of a file of the results agree with each other and with the text
that was searched. -/
structure Coherent (p : Program) (text : String) (f : FileResult) : Prop where
  /-- The regions are those of the matches. -/
  regions : f.regions = findRegions p text
  /-- There are as many regions as are counted. -/
  count : f.count = f.regions.length
  /-- There are as many lines. -/
  length : f.lines.length = f.regions.length
  /-- There are some. -/
  pos : 1 ≤ f.count
  /-- A region starts at a byte of the text on one of its lines, which is the
  one that is listed. -/
  line : ∀ (i : Nat) (r : Region), f.regions[i]? = some r →
    (∃ n, Pos.atOffset? text.toList (lineStarts text.toList) n = some r.start) ∧
      r.start.line < (lines text).length ∧
      ∃ line, f.lines[i]? = some line ∧ IsLine text.toList r.start.line line.toList

section Coherent

variable {s : Store} {req : Request} {cfg : Config} {f : FileResult} {p : Program}
  {c : Candidate} {text : String} {r : Region}

/-- **A match starts at a character of the text.** -/
theorem exists_stands_of_mem (hp : Framed p) (hr : r ∈ findRegions p text) :
    ∃ n, Pos.Stands text.toList n r.start ∧ n < Utf8.size text.toList := by
  obtain ⟨hascending, hwithin⟩ := findAll_within hp text.toList
  rw [findRegions, regionsOf_ascending (hascending.filter _)] at hr
  obtain ⟨m, hm, rfl⟩ := List.mem_map.1 hr
  obtain ⟨hm, hlt⟩ := List.mem_filter.1 hm
  rw [decide_eq_true_eq] at hlt
  have hle := hwithin m hm hlt
  have hsize := size_take_lt (Nat.lt_of_lt_of_le hlt hle) (Nat.le_refl text.toList.length)
  rw [List.take_length] at hsize
  exact ⟨_, stands_ofIndex _ _, hsize⟩

/-- **The line of a match is one of the text**, so the line that is looked up
is there. -/
theorem exists_line_of_mem (hp : Framed p) (hr : r ∈ findRegions p text) :
    ∃ line, (lines text)[r.start.line]? = some line ∧
      IsLine text.toList r.start.line line.toList := by
  obtain ⟨n, hn, hlt⟩ := exists_stands_of_mem hp hr
  obtain ⟨line, hline, his⟩ := exists_line_of_stands hn hlt
  refine ⟨String.ofList line, ?_, by rwa [String.toList_ofList]⟩
  rw [lines, List.getElem?_map, hline, Option.map_some]

/-- Matches in a text make a file that agrees with it. -/
theorem matchesIn_coherent (hp : Framed p) (h : matchesIn p c text = some f) :
    Coherent p text f := by
  rw [matchesIn] at h
  simp only at h
  split at h
  · cases h
  · next hne =>
    cases h
    refine ⟨rfl, rfl, List.length_map _, ?_, fun i r hi => ?_⟩
    · rw [List.isEmpty_iff] at hne
      exact List.length_pos_iff.2 hne
    · have hr := List.mem_of_getElem? hi
      obtain ⟨n, hn, -⟩ := exists_stands_of_mem hp hr
      obtain ⟨line, hline, his⟩ := exists_line_of_mem hp hr
      refine ⟨⟨n, Pos.atOffset?_eq_some_iff.2 hn⟩, (List.getElem?_eq_some_iff.1 hline).1,
        line, ?_, his⟩
      simp only [List.getElem?_map, hi, Option.map_some, hline, Option.getD_some]

/-- **A file of the results is coherent**: its count, its regions and its
lines agree, and each line is the whole line that the match starts on. -/
theorem searchFile_coherent (hprogram : req.program = .ok p)
    (h : searchFile s p req cfg c = some f) : Coherent p (searchedText s f) f :=
  matchesIn_coherent (framed_program hprogram) (matchesIn_of_searchFile h)

end Coherent

/-- A desk with one open note of lines that end in different ways. -/
def endingsStore : Store :=
  ⟨⟨[], 0, []⟩, [⟨⟨"/note"⟩, "é\r\nab\r\n\nb", false, true, 0, []⟩]⟩

/-- A search for what starts before a line feed or stands at its end. -/
def endingsRequest : Request := ⟨"\\na|b", "", false, true, .activeFile, []⟩

/-- A match over the end of a line, one before an ending of two characters, and
one on a line that is not ended. -/
theorem searchFile_coherent_endings :
    ∃ p f, endingsRequest.program = .ok p ∧
      searchFile endingsStore p endingsRequest .standard ⟨⟨"/note"⟩, some 0⟩ = some f ∧
      f.lines = ["é", "ab", "b"] ∧ Coherent p (searchedText endingsStore f) f := by
  let f : FileResult := ⟨⟨"/note"⟩, 3,
    [⟨⟨0, 2⟩, ⟨1, 1⟩⟩, ⟨⟨1, 1⟩, ⟨1, 2⟩⟩, ⟨⟨3, 0⟩, ⟨3, 1⟩⟩], ["é", "ab", "b"], some 0⟩
  obtain ⟨p, hcompile, hfile⟩ : ∃ p, compile? false "\\na|b" = some p ∧
      searchFile endingsStore p endingsRequest .standard ⟨⟨"/note"⟩, some 0⟩ = some f := by
    have heval : (compile? false "\\na|b").map (fun p =>
        searchFile endingsStore p endingsRequest .standard ⟨⟨"/note"⟩, some 0⟩) =
        some (some f) := by decide +kernel
    exact Option.map_eq_some_iff.1 heval
  have hprogram : endingsRequest.program = .ok p := by
    rw [Request.program, endingsRequest, if_pos rfl, hcompile]
  exact ⟨p, f, hprogram, hfile, rfl, searchFile_coherent hprogram hfile⟩

end Find
end CodeDesk
