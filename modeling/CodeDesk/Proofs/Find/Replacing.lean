import CodeDesk.Proofs.Files.Path
import CodeDesk.Proofs.Find.Exchange
import CodeDesk.Proofs.Find.Matches
import CodeDesk.Proofs.Find.Targets
import Mathlib.Algebra.GroupWithZero.Nat
/-!
# Replacing — the order of replacements does not matter

For a plain text a replacer is `InStep` with a buffer while some set of
matches is replaced: it tracks every match where the text has it. One call
keeps it so (`replace_pending`, `replace_done`), a call for another file
does too (`InStep.elsewhere`), and so does any sequence of calls
(`replaceEach_inStep`). Since the state is a function of the *set* of
replaced matches, the order of the calls leaves no trace.

To replace everything that is pending, each file gets its buffer when its
turn comes. It may have been in one all along, or be opened then (`Opens`).
Until it is, nothing of it was replaced (`Ready`), so the replacer is in
step with every buffer in the end (`replaceFiles_inStep`).
-/

namespace CodeDesk
namespace Find

open Regex Replacer

/-! ## What a replacer tracks -/

section Tracked

variable {r r' : Replacer} {l : Link} {f : FileResult} {p q : Path} {e : TextEdit}

/-- What is tracked of a file depends on which file it is, not on how its
path is written. -/
theorem tracked_congr (r : Replacer) (h : (p == q) = true) : r.tracked p = r.tracked q := by
  have hsame : (fun f : Path × List Tracked => f.1 == p) = fun f => f.1 == q := by
    funext f
    exact Path.beq_congr h f.1
  rw [tracked, tracked, hsame]

/-- A replacement leaves every file in its place. -/
theorem find?_advance (r : Replacer) (l : Link) (e : TextEdit) (p : Path) :
    (r.advance l e).files.find? (fun f => f.1 == p) =
      (r.files.find? fun f => f.1 == p).map fun f =>
        if f.1 == l.path then (f.1, adjustAll l e f.2) else f := by
  have hpath : ∀ f : Path × List Tracked, (if f.1 == l.path then (f.1, adjustAll l e f.2)
      else f).1 = f.1 := by
    intro f
    split <;> rfl
  rw [advance, List.find?_map]
  simp only [Function.comp_def, hpath]

/-- A replacement adjusts the matches of its own file. -/
theorem tracked_advance (h : (l.path == p) = true) :
    (r.advance l e).tracked p = adjustAll l e (r.tracked p) := by
  rw [tracked, tracked, find?_advance]
  cases hfind : r.files.find? fun f => f.1 == p with
  | none => rfl
  | some f =>
    have hp := List.find?_some hfind
    have hf : (f.1 == l.path) = true := by
      rw [Path.beq_congr h]
      exact hp
    simp only [Option.map_some, hf, if_true]

/-- A replacement leaves the matches of other files alone. -/
theorem tracked_advance_of_ne (h : (l.path == p) = false) :
    (r.advance l e).tracked p = r.tracked p := by
  rw [tracked, tracked, find?_advance]
  cases hfind : r.files.find? fun f => f.1 == p with
  | none => rfl
  | some f =>
    have hp := List.find?_some hfind
    have hf : ¬ (f.1 == l.path) = true := by
      intro heq
      rw [Path.beq_iff] at heq hp
      rw [← Bool.not_eq_true, Path.beq_iff] at h
      exact h (heq.symm.trans hp)
    simp only [Option.map_some, if_neg hf]

/-- A file that is taken up takes the place of those with its path. -/
theorem find?_retrack_self (h : (f.path == p) = true) (ts : List (Path × List Tracked)) :
    (ts.filter (fun t => !(t.1 == f.path)) ++ [(f.path, track f)]).find? (fun t => t.1 == p) =
      some (f.path, track f) := by
  have hnone : (ts.filter fun t => !(t.1 == f.path)).find? (fun t => t.1 == p) = none := by
    rw [List.find?_eq_none]
    intro t ht
    rw [← Path.beq_congr h t.1]
    simpa using (List.mem_filter.1 ht).2
  rw [List.find?_append, hnone, Option.none_or]
  exact List.find?_cons_of_pos h

/-- A file that is taken up leaves those with other paths. -/
theorem find?_retrack_of_ne (h : (f.path == p) = false) (ts : List (Path × List Tracked)) :
    (ts.filter (fun t => !(t.1 == f.path)) ++ [(f.path, track f)]).find? (fun t => t.1 == p) =
      ts.find? fun t => t.1 == p := by
  have hsame : (ts.filter fun t => !(t.1 == f.path)).find? (fun t => t.1 == p) =
      ts.find? fun t => t.1 == p := by
    rw [List.find?_filter]
    congr 1
    funext t
    cases ht : t.1 == p with
    | false => simp
    | true =>
      have hne : (t.1 == f.path) = false := by
        rw [← Bool.not_eq_true]
        intro heq
        rw [Path.beq_iff] at heq ht
        rw [← Bool.not_eq_true, Path.beq_iff] at h
        exact h (heq.symm.trans ht)
      rw [hne]
      rfl
  have hlast : [(f.path, track f)].find? (fun t => t.1 == p) = none :=
    List.find?_cons_of_neg (by simp [h])
  rw [List.find?_append, hsame, hlast, Option.or_none]

/-- **Before anything was replaced** a replacer tracks the matches of the
last file with a path. -/
theorem tracked_ofResults {res : Results} {front back : List FileResult}
    (h : ofResults res = .ok r) (hfiles : res.files = front ++ f :: back)
    (hlast : ∀ g ∈ back, (g.path == f.path) = false) : r.tracked f.path = track f := by
  have hfold : ∀ ts : List (Path × List Tracked),
      ts.find? (fun t => t.1 == f.path) = some (f.path, track f) →
      (back.foldl (fun ts g => ts.filter (fun t => !(t.1 == g.path)) ++ [(g.path, track g)])
        ts).find? (fun t => t.1 == f.path) = some (f.path, track f) := by
    clear hfiles
    induction back with
    | nil => exact fun _ hts => hts
    | cons g back ih =>
      intro ts hts
      refine ih (fun g' hg' => hlast g' (List.mem_cons_of_mem g hg')) _ ?_
      rw [find?_retrack_of_ne (hlast g List.mem_cons_self), hts]
  rw [ofResults] at h
  split at h
  · cases h
    rw [tracked, trackAll, hfiles, List.foldl_append, List.foldl_cons,
      hfold _ (find?_retrack_self (Path.beq_refl f.path) _)]
  · cases h

end Tracked

/-! ## The invariant -/

/-- What takes the place of a match of a plain text. -/
def Request.newText (req : Request) (found : List Char) : List Char :=
  if req.ignoreCase then (matchCase (String.ofList found) req.replacement).toList
  else req.replacement.toList

/-- A replacer for a plain text. -/
structure ForText (req : Request) (r : Replacer) : Prop where
  request : r.request = req
  program : r.program = literal req.ignoreCase req.pattern

/-- The replacer has the matches of the file `p` where the buffer `id` has
them, which came from `text` by replacing the matches that are `done`. -/
structure InStep (req : Request) (p : Path) (id : BufferId) (text : String)
    (done : List Region) (r : Replacer) (s : Store) : Prop where
  tracked : r.tracked p = trackAt req.newText done ⟨0, 0⟩ ⟨0, 0⟩ (req.cut text).1
  text : ∃ b, s.buffer? id = some b ∧ b.text.toList =
    textOf (exchanged req.newText done ⟨0, 0⟩ (req.cut text).1) ++ (req.cut text).2

section Step

variable {req : Request} {r r' : Replacer} {l : Link} {p q : Path} {id j : BufferId}
  {text : String} {done done' : List Region} {s s' : Store} {answer : Bool}

/-- Only which matches were replaced counts. -/
theorem InStep.congr (h : InStep req p id text done r s) (hdone : ∀ r, r ∈ done ↔ r ∈ done') :
    InStep req p id text done' r s := by
  obtain ⟨b, hb, htext⟩ := h.text
  refine ⟨?_, b, hb, ?_⟩
  · rw [h.tracked, trackAt_congr fun r _ => hdone r]
  · rw [htext, exchanged_congr fun r _ => hdone r]

/-- **A call for another file changes no match here.** -/
theorem tracked_replace_of_ne (h : r.replace l id s = .ok (answer, r', s'))
    (hp : (l.path == p) = false) : r'.tracked p = r.tracked p := by
  rcases replace_inv h with ⟨-, rfl, -⟩ | ⟨-, region, text, keepCase, e, -, rfl⟩
  · rfl
  · exact tracked_advance_of_ne hp

/-- A call for a match that was replaced is answered with no, and nothing
changes. -/
theorem replace_done (h : InStep req p id text done r s)
    (hp : (l.path == p) = true) (hmem : l.region ∈ regionsAt ⟨0, 0⟩ (req.cut text).1)
    (hnodup : (regionsAt ⟨0, 0⟩ (req.cut text).1).Nodup) (hdone : l.region ∈ done) :
    r.replace l id s = .ok (false, r, s) := by
  have hcurrent : r.current l = none := by
    obtain ⟨xs, x, zs, hcut, hregion⟩ := exists_of_mem_regionsAt hmem
    rw [hcut] at hnodup
    rw [current, tracked_congr r hp, h.tracked, hcut, hregion,
      find?_trackAt (not_mem_regionsAt_of_nodup hnodup).1, if_pos (hregion ▸ hdone)]
    rfl
  rw [replace, hcurrent]

/-- **A call for a pending match replaces it**, and the replacer stays in
step with the buffer. -/
theorem replace_pending (hreq : ForText req r) (hlit : req.isRegex = false)
    (hsets : setsOf req.ignoreCase req.pattern ≠ []) (h : InStep req p id text done r s)
    (hp : (l.path == p) = true) (hmem : l.region ∈ regionsAt ⟨0, 0⟩ (req.cut text).1)
    (hpending : l.region ∉ done) :
    ∃ r' s', r.replace l id s = .ok (true, r', s') ∧ ForText req r' ∧
      InStep req p id text (l.region :: done) r' s' := by
  have hnodup := nodup_cut hsets text
  obtain ⟨xs, x, zs, hcut, hregion⟩ := exists_of_mem_regionsAt hmem
  have hx : x ∈ (req.cut text).1 := hcut ▸ List.mem_append_right xs List.mem_cons_self
  rw [hcut] at hnodup
  obtain ⟨b, hb, htext⟩ := h.text
  -- Where the match is now, between what stands before and behind it.
  let before := textOf (exchanged req.newText done ⟨0, 0⟩ xs) ++ x.gap
  let behind := textOf (exchanged req.newText done
    (x.region (Pos.after ⟨0, 0⟩ (textOf xs))).stop zs) ++ (req.cut text).2
  let start := Pos.after ⟨0, 0⟩ before
  have hcurrent : r.current l = some ⟨start, start.after x.found⟩ := by
    rw [current, tracked_congr r hp, h.tracked, hcut, hregion,
      find?_trackAt (not_mem_regionsAt_of_nodup hnodup).1, if_neg (hregion ▸ hpending),
      Option.bind_some]
    simp only [start, before, Piece.region, Pos.after_append]
  have hnow : b.text.toList = before ++ x.found ++ behind := by
    rw [htext, hcut, exchanged_at_pending (hregion ▸ hpending), textOf_append, textOf_cons]
    simp only [before, behind, List.append_assoc]
  have hindices : Region.indices? b.text.toList ⟨start, start.after x.found⟩ =
      some (before.length, before.length + x.found.length) := by
    rw [hnow, indices?_middle]
  have hold : sliceChars b.text.toList before.length (before.length + x.found.length) =
      x.found := by
    rw [hnow, sliceChars_middle]
  have hwhole : r.matchesWhole x.found = true := by
    obtain ⟨hfit, hlen⟩ := fit_of_mem_cut hsets hx
    rw [matchesWhole, hreq.program, find_literal _ hsets hfit hlen]
    exact beq_self_eq_true _
  have hnew : (if (req.ignoreCase && !req.isRegex) = true then
      matchCase (String.ofList x.found) req.replacement else req.replacement).toList =
        req.newText x.found := by
    rw [hlit, Bool.not_false, Bool.and_true, Request.newText]
    split <;> rfl
  obtain ⟨s', b', hreplace, hb', htext'⟩ := Store.replace_ok hb hindices req.replacement
    (req.ignoreCase && !req.isRegex)
  rw [hold, hnew] at hreplace htext'
  let e : TextEdit := ⟨⟨start, start.after x.found⟩, start.after (req.newText x.found)⟩
  refine ⟨r.advance l e, s', ?_, ⟨hreq.request, hreq.program⟩, ⟨?_, b', hb', ?_⟩⟩
  · rw [hlit] at hreplace
    rw [replace, hcurrent]
    simp only [Store.textOf_eq hb, hindices, hold, hwhole, Bool.not_true, Bool.false_eq_true,
      if_false, replacementFor, hreq.request, hlit, hreplace, e]
  · have hstart : start =
        (Pos.after ⟨0, 0⟩ (textOf (exchanged req.newText done ⟨0, 0⟩ xs))).after x.gap :=
      Pos.after_append _ _ _
    rw [tracked_advance hp, h.tracked, hcut]
    simp only [e, hstart]
    exact adjustAll_trackAt hnodup (found_ne_nil_of_mem_cut hsets hx) hregion hpending
  · rw [htext', hnow, spliceChars_middle, hcut, hregion, exchanged_at_done hnodup, textOf_append,
      textOf_cons]
    simp only [before, behind, List.append_assoc]

/-- A call for any match is answered with yes the first time. -/
theorem replace_inStep (hreq : ForText req r) (hlit : req.isRegex = false)
    (hsets : setsOf req.ignoreCase req.pattern ≠ []) (h : InStep req p id text done r s)
    (hp : (l.path == p) = true) (hmem : l.region ∈ regionsAt ⟨0, 0⟩ (req.cut text).1) :
    ∃ r' s', r.replace l id s = .ok (!done.contains l.region, r', s') ∧ ForText req r' ∧
      InStep req p id text (l.region :: done) r' s' := by
  by_cases hdone : l.region ∈ done
  · refine ⟨r, s, ?_, hreq, h.congr fun x => ?_⟩
    · rw [replace_done h hp hmem (nodup_cut hsets text) hdone, List.contains_iff_mem.2 hdone]
      rfl
    · rw [List.mem_cons]
      exact ⟨Or.inr, fun hor => hor.elim (fun heq => heq ▸ hdone) fun hin => hin⟩
  · obtain ⟨r', s', hreplace, hreq', hstep⟩ :=
      replace_pending hreq hlit hsets h hp hmem hdone
    refine ⟨r', s', ?_, hreq', hstep⟩
    rw [hreplace, Bool.eq_false_iff.2 fun hin => hdone (List.contains_iff_mem.1 hin)]
    rfl

/-- What another file has is untouched as long as its matches and its
buffer are. -/
theorem InStep.elsewhere (h : InStep req p id text done r s)
    (htracked : r'.tracked p = r.tracked p) (hbuffer : s'.buffer? id = s.buffer? id) :
    InStep req p id text done r' s' :=
  ⟨htracked.trans h.tracked, by rw [hbuffer]; exact h.text⟩

/-- Highlighting leaves the replacer in step. -/
theorem InStep.highlight (h : InStep req p id text done r s) (rs : List Region) :
    InStep req p id text done r (s.highlight j rs) := by
  by_cases hj : id = j
  · obtain ⟨b, hb, htext⟩ := h.text
    subst hj
    exact ⟨h.tracked, _, Store.buffer?_highlight_self hb rs, htext⟩
  · exact h.elsewhere rfl (Store.buffer?_highlight_of_ne hj rs)

end Step

/-! ## Runs of calls -/

/-- Replace the matches of links one after the other; the result has the
answers. -/
def replaceEach (id : BufferId) :
    List Link → Replacer → Store → Except FindError (List Bool × Replacer × Store)
  | [], r, s => .ok ([], r, s)
  | l :: ls, r, s =>
    match r.replace l id s with
    | .error e => .error e
    | .ok (answer, r, s) =>
      match replaceEach id ls r s with
      | .error e => .error e
      | .ok (answers, r, s) => .ok (answer :: answers, r, s)

/-- Whether links are the first ones to their matches, where the matches
that are `done` were replaced before. -/
def firsts (done : List Region) : List Link → List Bool
  | [] => []
  | l :: ls => (!done.contains l.region) :: firsts (l.region :: done) ls

section Runs

variable {req : Request} {r r' : Replacer} {p q : Path} {id j : BufferId} {text : String}
  {done : List Region} {s s' : Store} {answers : List Bool}

theorem replaceEach_cons_inv {l : Link} {ls : List Link}
    (h : replaceEach id (l :: ls) r s = .ok (answers, r', s')) :
    ∃ answer rest r₁ s₁, answers = answer :: rest ∧ r.replace l id s = .ok (answer, r₁, s₁) ∧
      replaceEach id ls r₁ s₁ = .ok (rest, r', s') := by
  rw [replaceEach] at h
  split at h
  · cases h
  · next answer r₁ s₁ hreplace =>
    split at h
    · cases h
    · next rest r₂ s₂ hrest =>
      cases h
      exact ⟨answer, rest, r₁, s₁, rfl, hreplace, hrest⟩

/-- **Any sequence of calls** replaces each match once and keeps the
replacer in step. -/
theorem replaceEach_inStep (hreq : ForText req r) (hlit : req.isRegex = false)
    (hsets : setsOf req.ignoreCase req.pattern ≠ []) (h : InStep req p id text done r s)
    {ls : List Link} (hls : ∀ l ∈ ls, (l.path == p) = true ∧
      l.region ∈ regionsAt ⟨0, 0⟩ (req.cut text).1) :
    ∃ r' s', replaceEach id ls r s = .ok (firsts done ls, r', s') ∧ ForText req r' ∧
      InStep req p id text (ls.map (·.region) ++ done) r' s' := by
  induction ls generalizing done r s with
  | nil => exact ⟨r, s, rfl, hreq, h⟩
  | cons l ls ih =>
    obtain ⟨hp, hmem⟩ := hls l List.mem_cons_self
    obtain ⟨r₁, s₁, hreplace, hreq₁, hstep₁⟩ := replace_inStep hreq hlit hsets h hp hmem
    obtain ⟨r', s', hrest, hreq', hstep'⟩ :=
      ih hreq₁ hstep₁ fun l' hl' => hls l' (List.mem_cons_of_mem l hl')
    refine ⟨r', s', ?_, hreq', hstep'.congr fun x => ?_⟩
    · rw [replaceEach, hreplace]
      simp only [hrest, firsts]
    · simp only [List.map_cons, List.mem_append, List.mem_cons]
      exact or_left_comm.trans or_assoc.symm

/-- Calls for another file change no match here. -/
theorem tracked_replaceEach_of_ne {ls : List Link}
    (h : replaceEach id ls r s = .ok (answers, r', s')) (hp : ∀ l ∈ ls, (l.path == p) = false) :
    r'.tracked p = r.tracked p := by
  induction ls generalizing r s answers with
  | nil =>
    cases h
    rfl
  | cons l ls ih =>
    obtain ⟨answer, answers, r₁, s₁, rfl, hreplace, hrest⟩ := replaceEach_cons_inv h
    have hfirst := tracked_replace_of_ne hreplace (hp l List.mem_cons_self)
    exact (ih hrest fun l' hl' => hp l' (List.mem_cons_of_mem l hl')).trans hfirst

/-- Calls change their buffer and nothing else. -/
theorem editsAt_replaceEach {ls : List Link}
    (h : replaceEach id ls r s = .ok (answers, r', s')) : Store.EditsAt id s s' := by
  induction ls generalizing r s answers with
  | nil =>
    cases h
    exact .refl id _
  | cons l ls ih =>
    obtain ⟨answer, answers, r₁, s₁, rfl, hreplace, hrest⟩ := replaceEach_cons_inv h
    exact (editsAt_replace hreplace).trans (ih hrest)

/-- The links to all matches of a file. -/
def linksOf (f : FileResult) (rs : List Region) : List Link :=
  rs.map fun region => ⟨f.path, 0, f.count, region⟩

theorem map_region_linksOf (f : FileResult) (rs : List Region) :
    (linksOf f rs).map (·.region) = rs := by
  rw [linksOf, List.map_map]
  exact List.map_id rs

/-- Replacing the matches of a file is a run of calls, and counts those
that are answered with yes. -/
theorem replaceRegions_eq {f : FileResult} {rs : List Region}
    (h : replaceEach id (linksOf f rs) r s = .ok (answers, r', s')) :
    replaceRegions f id rs r s = (answers.count true, .ok (), r', s') := by
  induction rs generalizing r s answers with
  | nil =>
    cases h
    rfl
  | cons region rs ih =>
    obtain ⟨answer, rest, r₁, s₁, rfl, hreplace, hrest⟩ := replaceEach_cons_inv h
    rw [replaceRegions, hreplace]
    simp only [ih hrest]
    cases answer <;> simp [Nat.add_comm]

/-- Each match that is not done is counted once. -/
theorem count_firsts (f : FileResult) {rs : List Region} (hnodup : rs.Nodup) :
    (firsts done (linksOf f rs)).count true = (rs.filter fun x => !done.contains x).length := by
  induction rs generalizing done with
  | nil => rfl
  | cons region rs ih =>
    obtain ⟨hnot, hrest⟩ := List.nodup_cons.1 hnodup
    have hsame : (rs.filter fun x => !(region :: done).contains x) =
        rs.filter fun x => !done.contains x := by
      refine List.filter_congr fun x hx => ?_
      have hne : x ≠ region := fun heq => hnot (heq ▸ hx)
      rw [List.contains_cons, beq_false_of_ne hne, Bool.false_or]
    have htail := @ih (region :: done) hrest
    rw [hsame] at htail
    rw [linksOf] at htail ⊢
    rw [List.map_cons, firsts, List.filter_cons]
    cases done.contains region with
    | false => simp only [Bool.not_false, List.count_cons_self, htail, if_true, List.length_cons]
    | true => simpa using htail

/-- The pending matches of a file in step. -/
theorem InStep.highlights (h : InStep req p id text done r s) :
    r.highlights p = pendingAt req.newText done ⟨0, 0⟩ ⟨0, 0⟩ (req.cut text).1 := by
  rw [Replacer.highlights, h.tracked, filterMap_now_trackAt]

/-- **Replacing all matches of a file** replaces those that are pending, and
counts them. -/
theorem replaceRegions_inStep (hreq : ForText req r) (hlit : req.isRegex = false)
    (hsets : setsOf req.ignoreCase req.pattern ≠ []) {f : FileResult}
    (h : InStep req f.path id text done r s)
    (hregions : f.regions = regionsAt ⟨0, 0⟩ (req.cut text).1) :
    ∃ r' s', replaceRegions f id f.regions r s = ((r.highlights f.path).length, .ok (), r', s') ∧
      ForText req r' ∧ InStep req f.path id text (f.regions ++ done) r' s' ∧
      Store.EditsAt id s s' ∧ ∀ q, (f.path == q) = false → r'.tracked q = r.tracked q := by
  have hls : ∀ l ∈ linksOf f f.regions, (l.path == f.path) = true ∧
      l.region ∈ regionsAt ⟨0, 0⟩ (req.cut text).1 := by
    intro l hl
    obtain ⟨region, hregion, rfl⟩ := List.mem_map.1 hl
    exact ⟨Path.beq_refl _, hregions ▸ hregion⟩
  obtain ⟨r', s', hrun, hreq', hstep⟩ := replaceEach_inStep hreq hlit hsets h hls
  rw [map_region_linksOf] at hstep
  refine ⟨r', s', ?_, hreq', hstep, editsAt_replaceEach hrun, fun q hq => ?_⟩
  · rw [replaceRegions_eq hrun, count_firsts f (hregions ▸ nodup_cut hsets text), h.highlights,
      length_pendingAt, hregions]
  · refine tracked_replaceEach_of_ne hrun fun l hl => ?_
    obtain ⟨region, -, rfl⟩ := List.mem_map.1 hl
    exact hq

/-! ## Buffers for files -/

/-- A buffer is there, or there is a new one with the text that is said. The
others are as they were. -/
structure Opened (id : BufferId) (text : String) (s s' : Store) : Prop where
  /-- The buffer. -/
  own : ∃ b, s'.buffer? id = some b ∧
    (s.buffer? id = some b ∨ s.buffer? id = none ∧ b.text = text)
  /-- The others. -/
  others : ∀ j, j ≠ id → s'.buffer? j = s.buffer? j

/-- Files get their buffers in turn, each the one that `ids` says. A new
buffer has the text that `texts` says. What is done to the buffer of a file
does not matter to the files behind. -/
def OpensInTurn (opener : Opener) (ids : FileResult → BufferId) (texts : FileResult → String) :
    List FileResult → Documents → Prop
  | [], _ => True
  | f :: fs, d => ∃ d', bufferFor opener f d = (.ok (ids f), d') ∧
      Opened (ids f) (texts f) d.store d'.store ∧
      ∀ s, Store.EditsAt (ids f) d'.store s →
        OpensInTurn opener ids texts fs { d' with store := s }

/-- How the files of results are replaced in: each in a buffer of its own,
which is there or is opened when the turn of the file comes. -/
structure Opens (opener : Opener) (ids : FileResult → BufferId) (texts : FileResult → String)
    (fs : List FileResult) (d : Documents) : Prop where
  opens : OpensInTurn opener ids texts fs d
  apart : fs.Pairwise fun f g => (f.path == g.path) = false ∧ ids f ≠ ids g

/-- The replacer is in step with a buffer if there is one. A file that has
none has its matches where they were found. -/
structure Ready (req : Request) (p : Path) (id : BufferId) (text : String)
    (done : List Region) (r : Replacer) (s : Store) : Prop where
  tracked : r.tracked p = trackAt req.newText done ⟨0, 0⟩ ⟨0, 0⟩ (req.cut text).1
  text : ∀ b, s.buffer? id = some b → b.text.toList =
    textOf (exchanged req.newText done ⟨0, 0⟩ (req.cut text).1) ++ (req.cut text).2
  unopened : s.buffer? id = none → done = []

theorem InStep.ready (h : InStep req p id text done r s) : Ready req p id text done r s := by
  obtain ⟨b, hb, htext⟩ := h.text
  refine ⟨h.tracked, fun b' hb' => ?_, fun hnone => ?_⟩
  · rw [← Option.some.inj (hb.symm.trans hb'), htext]
  · cases hb.symm.trans hnone

/-- **A file that gets its buffer** is in step with it. -/
theorem Ready.inStep (h : Ready req p id text done r s) (hopen : Opened id text s s') :
    InStep req p id text done r s' := by
  obtain ⟨b, hb, hold | ⟨hnone, htext⟩⟩ := hopen.own
  · exact ⟨h.tracked, b, hb, h.text b hold⟩
  · refine ⟨h.tracked, b, hb, ?_⟩
    rw [h.unopened hnone, exchanged_nil, htext]
    exact (textOf_cutFrom _ _ _).symm

theorem Ready.elsewhere (h : Ready req p id text done r s)
    (htracked : r'.tracked p = r.tracked p) (hbuffer : s'.buffer? id = s.buffer? id) :
    Ready req p id text done r' s' :=
  ⟨htracked.trans h.tracked, by rw [hbuffer]; exact h.text, by rw [hbuffer]; exact h.unopened⟩

/-- **Replacing everything** replaces what is pending in each file, and
counts it; what belongs to no file of the results is left alone. -/
theorem replaceFiles_inStep {opener : Opener} {ids : FileResult → BufferId}
    {texts : FileResult → String} {dones : FileResult → List Region} {d : Documents}
    (hreq : ForText req r) (hlit : req.isRegex = false)
    (hsets : setsOf req.ignoreCase req.pattern ≠ []) {fs : List FileResult}
    (hopen : Opens opener ids texts fs d)
    (hregions : ∀ f ∈ fs, f.regions = regionsAt ⟨0, 0⟩ (req.cut (texts f)).1)
    (h : ∀ f ∈ fs, Ready req f.path (ids f) (texts f) (dones f) r d.store) :
    ∃ r' d', replaceFiles opener fs r d =
        ((fs.map fun f => (r.highlights f.path).length).sum, .ok (), r', d') ∧
      (∀ f ∈ fs, InStep req f.path (ids f) (texts f) (f.regions ++ dones f) r' d'.store) ∧
      ∀ q j, (∀ f ∈ fs, (f.path == q) = false ∧ j ≠ ids f) →
        r'.tracked q = r.tracked q ∧ d'.store.buffer? j = d.store.buffer? j := by
  induction fs generalizing r d with
  | nil => exact ⟨r, d, rfl, fun f hf => by simp at hf, fun _ _ _ => ⟨rfl, rfl⟩⟩
  | cons f fs ih =>
    obtain ⟨d₁, hbuffer, hopened, hlater⟩ := hopen.opens
    obtain ⟨hapart, hrest⟩ := List.pairwise_cons.1 hopen.apart
    have hf := (h f List.mem_cons_self).inStep hopened
    obtain ⟨r₂, s₂, hfile, hreq₂, hstep₂, hedits₂, htracked₂⟩ :=
      replaceRegions_inStep hreq hlit hsets hf (hregions f List.mem_cons_self)
    let d₂ : Documents := { d₁ with store := s₂.highlight (ids f) [] }
    have hedits : Store.EditsAt (ids f) d₁.store d₂.store :=
      hedits₂.trans (s₂.editsAt_highlight (ids f) [])
    -- The other buffers are as they were before this file was opened.
    have hkept : ∀ j, j ≠ ids f → d₂.store.buffer? j = d.store.buffer? j := fun j hj =>
      (hedits.others j hj).trans (hopened.others j hj)
    have hothers : ∀ g ∈ fs, Ready req g.path (ids g) (texts g) (dones g) r₂ d₂.store ∧
        (r₂.highlights g.path).length = (r.highlights g.path).length := by
      intro g hg
      obtain ⟨hpath, hids⟩ := hapart g hg
      have hg' := h g (List.mem_cons_of_mem f hg)
      refine ⟨hg'.elsewhere (htracked₂ g.path hpath) (hkept (ids g) (Ne.symm hids)), ?_⟩
      rw [Replacer.highlights, htracked₂ g.path hpath, Replacer.highlights]
    obtain ⟨r', d', hfiles, hsteps, helse⟩ := ih hreq₂ ⟨hlater d₂.store hedits, hrest⟩
      (fun g hg => hregions g (List.mem_cons_of_mem f hg)) (fun g hg => (hothers g hg).1)
    refine ⟨r', d', ?_, fun g hg => ?_, fun q j hqj => ?_⟩
    · rw [replaceFiles, hbuffer]
      simp only [hfile]
      rw [hfiles, List.map_cons, List.sum_cons,
        List.map_congr_left fun g hg => (hothers g hg).2]
    · rcases List.mem_cons.1 hg with rfl | hg
      · obtain ⟨htracked, hsame⟩ := helse g.path (ids g) fun g' hg' => by
          obtain ⟨hpath, hids⟩ := hapart g' hg'
          exact ⟨by rw [Path.beq_comm]; exact hpath, hids⟩
        exact (hstep₂.highlight []).elsewhere htracked hsame
      · exact hsteps g hg
    · obtain ⟨hpath, hids⟩ := hqj f List.mem_cons_self
      obtain ⟨htracked, hsame⟩ := helse q j fun g hg => hqj g (List.mem_cons_of_mem f hg)
      exact ⟨htracked.trans (htracked₂ q hpath), hsame.trans (hkept j hids)⟩

end Runs

end Find
end CodeDesk
