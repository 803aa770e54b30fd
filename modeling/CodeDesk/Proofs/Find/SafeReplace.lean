import CodeDesk.Find.Replacer
import CodeDesk.Proofs.Document.ExactRegions
import CodeDesk.Proofs.Find.AnyOrder
/-!
# Safe replacements — a replacer and a text that was edited behind its back

A replacer remembers where matches are and learns of no edit but its own, so
what it remembers may have nothing to do with the text it is called for.
`replace_safe` says that this does no harm. A call looks up where its match
should be, takes out what stands there and runs the pattern on it; only if
that is matched as a whole (`Replaceable`), it is exchanged, and all else
stays. Otherwise nothing is changed, neither in the text nor in what is
remembered; and no call fails.

What holds of a replacer after any calls is carried by two facts. It keeps
the pattern of its search (`Reached.program`). And no region that it
remembers is reversed (`Reached.forward`): a search finds none that is
(`Searched.forward`), and an edit moves both ends of a region alike
(`Forward.adjusted`). So what is taken away when a region is moved is always
there (`Forward.movesWithin`).
-/

namespace CodeDesk

namespace Pos

variable {p q : Pos}

theorem lt_iff : p.lt q = true ↔ p.line < q.line ∨ p.line = q.line ∧ p.col < q.col := by
  rw [lt, Bool.or_eq_true, Bool.and_eq_true, decide_eq_true_eq, decide_eq_true_eq, beq_iff_eq]

theorem le_iff : p.le q = true ↔ p.line < q.line ∨ p.line = q.line ∧ p.col ≤ q.col := by
  rw [le, Bool.not_eq_true', ← Bool.not_eq_true, lt_iff]
  omega

end Pos

namespace Region

variable {q q' : Region} {e : TextEdit}

/-- A region that is not reversed. -/
def Forward (q : Region) : Prop := q.start.le q.stop = true

/-- Carrying a region over an edit takes nothing away that is not there. -/
def MovesWithin (q : Region) (e : TextEdit) : Prop :=
  q.adjusted e = none ∨ q.stop.le e.region.start = true ∨
    (q.start.ShiftFits e.region.stop e.stop ∧ q.stop.ShiftFits e.region.stop e.stop)

/-- A region that is neither touched by an edit nor before it is behind it. -/
theorem behind_of_adjusted (h : q.adjusted e ≠ none) (hnot : ¬q.stop.le e.region.start = true) :
    e.region.stop.le q.start = true := by
  rw [ne_eq, adjusted_eq_none_iff, not_or, overlaps, Bool.and_eq_true, not_and] at h
  have hapart := h.2
  simp only [Pos.le_iff, Pos.lt_iff] at *
  omega

theorem shiftFits_of_le {p old new : Pos} (h : old.le p = true) : p.ShiftFits old new := by
  rw [Pos.le_iff] at h
  unfold Pos.ShiftFits
  split <;> omega

theorem Forward.movesWithin (hq : q.Forward) (e : TextEdit) : q.MovesWithin e := by
  by_cases hnone : q.adjusted e = none
  · exact .inl hnone
  · by_cases hbefore : q.stop.le e.region.start = true
    · exact .inr (.inl hbefore)
    · have hstart := behind_of_adjusted hnone hbefore
      have hstop : e.region.stop.le q.stop = true := by
        rw [Forward] at hq
        simp only [Pos.le_iff] at *
        omega
      exact .inr (.inr ⟨shiftFits_of_le hstart, shiftFits_of_le hstop⟩)

/-- **An edit moves both ends of a region alike.** -/
theorem Forward.adjusted (hq : q.Forward) (h : q.adjusted e = some q') : q'.Forward := by
  have hsome : q.adjusted e ≠ none := by rw [h]; exact Option.some_ne_none _
  have hbehind := behind_of_adjusted hsome
  rw [Region.adjusted] at h
  split at h
  · cases h
  · split at h
    · cases h
      exact hq
    · next hnot =>
      cases h
      have hstart := hbehind hnot
      rw [Forward] at hq ⊢
      simp only [Pos.le_iff, Pos.shift] at *
      -- Each end is on the line where the edit ended, or on a later one.
      split <;> split <;> simp only [true_and] <;> omega

/-- The regions of a walk over a text are not reversed. -/
theorem forward_of_mem_regionsFrom {p : Pos} {here : Nat} {cs : List Char}
    {ranges : List (Nat × Nat)} (hq : q ∈ regionsFrom p here cs ranges) : q.Forward := by
  induction ranges generalizing p here cs with
  | nil => cases hq
  | cons m ranges ih =>
    rcases List.mem_cons.1 hq with rfl | hq
    · simp only [Forward, Pos.le, Pos.after_lt, Bool.not_false]
    · exact ih hq

end Region

namespace Find

open Regex

/-- What a search came to. -/
def Searched (res : Results) : Prop :=
  ∃ s req sc cancelled, find s req sc cancelled = .ok res

/-- No match that a search found is reversed. -/
theorem Searched.forward {res : Results} (h : Searched res) :
    ∀ f ∈ res.files, ∀ q ∈ f.regions, q.Forward := by
  obtain ⟨s, req, sc, cancelled, hfind⟩ := h
  intro f hf q hq
  obtain ⟨-, p, -, hregions, -⟩ := mem_files hfind hf
  rw [hregions, findRegions, regionsOf] at hq
  exact Region.forward_of_mem_regionsFrom hq

namespace Replacer

variable {res : Results} {r r' : Replacer} {l : Link} {id j : BufferId} {s s' : Store}
  {b : Buffer} {cs front found behind : List Char} {answer : Bool} {e : TextEdit}

/-! ## One call -/

/-- A link leads to a part of a text that the pattern matches as a whole. -/
structure Replaceable (r : Replacer) (l : Link) (cs front found behind : List Char) : Prop where
  /-- The part of the text. -/
  text : cs = front ++ found ++ behind
  /-- The match of the link is pending, and should be there. -/
  current : r.current l =
    some ⟨Pos.after ⟨0, 0⟩ front, (Pos.after ⟨0, 0⟩ front).after found⟩
  /-- The pattern, run on the part alone, matches all of it. -/
  whole : r.program.find found = some (0, found.length)

/-- What takes the place of a matched text in a buffer. -/
def newText (r : Replacer) (found : List Char) : List Char :=
  (if r.request.ignoreCase && !r.request.isRegex then
    matchCase (String.ofList found) (r.replacementFor found)
  else r.replacementFor found).toList

/-- What can be replaced lies in the text, between numbers of characters. -/
theorem replaceable_of_indices {region : Region} {i k : Nat} (hcurrent : r.current l = some region)
    (hindices : region.indices? cs = some (i, k))
    (hwhole : r.matchesWhole (sliceChars cs i k) = true) :
    Replaceable r l cs (cs.take i) (sliceChars cs i k) (cs.drop k) := by
  obtain ⟨hik, -, rfl⟩ := Region.indices?_eq_some_iff.1 hindices
  have hcut := Pos.take_append_sliceChars cs hik
  refine ⟨by rw [hcut, List.take_append_drop], ?_, beq_iff_eq.1 hwhole⟩
  rw [hcurrent, ← Pos.after_append, hcut]
  rfl

/-- **A call that can replace nothing** leaves everything as it is. -/
theorem replace_eq_false (hb : s.buffer? id = some b)
    (h : ∀ front found behind, ¬Replaceable r l b.text.toList front found behind) :
    r.replace l id s = .ok (false, r, s) := by
  rw [replace]
  split
  · rfl
  · next region hcurrent =>
    simp only [Store.textOf_eq hb]
    split
    · rfl
    · next i k hindices =>
      have hnot : r.matchesWhole (sliceChars b.text.toList i k) = false := by
        rw [← Bool.not_eq_true]
        exact fun hwhole => h _ _ _ (replaceable_of_indices hcurrent hindices hwhole)
      rw [if_pos (by rw [hnot]; rfl)]

/-- **Any other call exchanges one part of the text**, and carries what is
remembered over the edit. -/
theorem replace_eq_true (hb : s.buffer? id = some b)
    (h : Replaceable r l b.text.toList front found behind) :
    ∃ e s' b', r.replace l id s = .ok (true, r.advance l e, s') ∧ s'.buffer? id = some b' ∧
      b'.text.toList = front ++ r.newText found ++ behind ∧
      ∀ j, j ≠ id → s'.buffer? j = s.buffer? j := by
  obtain ⟨htext, hcurrent, hwhole⟩ := h
  have hindices := indices?_middle front found behind
  have hslice := sliceChars_middle front found behind
  rw [← htext] at hindices hslice
  obtain ⟨s', b', hreplace, hb', hnew⟩ := Store.replace_ok hb hindices (r.replacementFor found)
    (r.request.ignoreCase && !r.request.isRegex)
  -- Whatever the edit is, the regions that are remembered are carried over it.
  generalize TextEdit.mk _ _ = e at hreplace
  rw [hslice, htext, spliceChars_middle] at hnew
  refine ⟨e, s', b', ?_, hb', hnew, fun j hj => Store.buffer?_replace_of_ne hj hreplace⟩
  rw [replace, hcurrent]
  simp only [Store.textOf_eq hb, hindices, hslice]
  rw [if_neg (by simp [matchesWhole, hwhole]), hreplace]

/-! ## After any calls -/

/-- The states that calls of `replace` lead to, each with whatever became of
the buffers in the meantime. -/
inductive Reached (res : Results) : Replacer → Prop
  /-- Nothing was replaced yet. -/
  | start {r : Replacer} (h : ofResults res = .ok r) : Reached res r
  /-- One more call was answered. -/
  | call {r r' : Replacer} {l : Link} {id : BufferId} {s s' : Store} {answer : Bool}
    (hr : Reached res r) (h : r.replace l id s = .ok (answer, r', s')) : Reached res r'

/-- **A replacer keeps the pattern of its search.** -/
theorem Reached.program (hr : Reached res r) : res.request.program = .ok r.program := by
  induction hr with
  | start h =>
    rw [ofResults] at h
    split at h
    · next hprogram =>
      cases h
      exact hprogram
    · cases h
  | call _ h ih =>
    rcases replace_inv h with ⟨-, rfl, -⟩ | ⟨-, region, text, keepCase, e, -, rfl⟩
    · exact ih
    · exact ih

/-- No region that is remembered is reversed. -/
def Forward (r : Replacer) : Prop :=
  ∀ f ∈ r.files, ∀ t ∈ f.2, ∀ q, t.now = some q → q.Forward

/-- What is remembered at first are the matches that were found. -/
theorem exists_of_mem_trackAll {fs : List FileResult} {x : Path × List Tracked}
    (hx : x ∈ trackAll fs) : ∃ f ∈ fs, x = (f.path, track f) := by
  have hfold : ∀ ts : List (Path × List Tracked),
      x ∈ fs.foldl (fun ts f => ts.filter (fun t => !(t.1 == f.path)) ++ [(f.path, track f)]) ts →
      x ∈ ts ∨ ∃ f ∈ fs, x = (f.path, track f) := by
    clear hx
    induction fs with
    | nil => exact fun _ h => .inl h
    | cons f fs ih =>
      intro ts h
      rcases ih _ h with hts | ⟨g, hg, hxg⟩
      · rcases List.mem_append.1 hts with hold | hnew
        · exact .inl (List.mem_of_mem_filter hold)
        · exact .inr ⟨f, List.mem_cons_self, List.mem_singleton.1 hnew⟩
      · exact .inr ⟨g, List.mem_cons_of_mem f hg, hxg⟩
  exact (hfold [] hx).resolve_left List.not_mem_nil

theorem forward_ofResults (hres : ∀ f ∈ res.files, ∀ q ∈ f.regions, q.Forward)
    (h : ofResults res = .ok r) : r.Forward := by
  rw [ofResults] at h
  split at h
  · cases h
    intro x hx t ht q hq
    obtain ⟨f, hf, rfl⟩ := exists_of_mem_trackAll hx
    obtain ⟨region, hregion, rfl⟩ := List.mem_map.1 ht
    cases hq
    exact hres f hf _ hregion
  · cases h

theorem Forward.advance (h : r.Forward) (l : Link) (e : TextEdit) : (r.advance l e).Forward := by
  intro x hx t ht q hq
  obtain ⟨f, hf, rfl⟩ := List.mem_map.1 hx
  split at ht
  · obtain ⟨u, hu, rfl⟩ := List.mem_map.1 ht
    split at hq
    · cases hq
    · obtain ⟨q₀, hq₀, hadjusted⟩ := Option.bind_eq_some_iff.1 hq
      exact (h f hf u hu q₀ hq₀).adjusted hadjusted
  · exact h f hf t ht q hq

/-- **No call reverses a region.** -/
theorem Reached.forward (hr : Reached res r)
    (hres : ∀ f ∈ res.files, ∀ q ∈ f.regions, q.Forward) : r.Forward := by
  induction hr with
  | start h => exact forward_ofResults hres h
  | call _ h ih =>
    rcases replace_inv h with ⟨-, rfl, -⟩ | ⟨-, region, text, keepCase, e, -, rfl⟩
    · exact ih
    · exact ih.advance _ e

/-! ## Any call, on any text -/

/-- What a call comes to in a buffer with the text `cs`. -/
inductive Outcome (res : Results) (r : Replacer) (l : Link) (id : BufferId) (s : Store)
    (cs : List Char) : Prop
  /-- One part of the text that the pattern matches as a whole was exchanged,
  and every region that was remembered can be carried over that. -/
  | exchanged {front found behind : List Char} {e : TextEdit} {s' : Store} {b' : Buffer}
    (h : Replaceable r l cs front found behind)
    (call : r.replace l id s = .ok (true, r.advance l e, s'))
    (buffer : s'.buffer? id = some b')
    (text : b'.text.toList = front ++ r.newText found ++ behind)
    (others : ∀ j, j ≠ id → s'.buffer? j = s.buffer? j)
    (moves : Searched res → ∀ f ∈ r.files, ∀ t ∈ f.2, ∀ q, t.now = some q → q.MovesWithin e)
  /-- There is no such part, and nothing was changed. -/
  | refused (h : ∀ front found behind, ¬Replaceable r l cs front found behind)
    (call : r.replace l id s = .ok (false, r, s))

/-- A call is safe in a buffer with the text `cs`. -/
structure Safe (res : Results) (r : Replacer) (l : Link) (id : BufferId) (s : Store)
    (cs : List Char) : Prop where
  /-- The lines on which a match should start and end can be taken out of the
  text, if they are there, and so can what is between its ends, if they
  are. -/
  slices : ∀ q, r.current l = some q →
    q.start.offsetIn? cs = some (q.start.offset? cs) ∧
    q.stop.offsetIn? cs = some (q.stop.offset? cs) ∧
    ∀ m n, q.offsets? cs = some (m, n) → ∃ found, Utf8.slice? cs m n = some found
  /-- The pattern is that of the search. -/
  pattern : res.request.program = .ok r.program
  /-- The call does not fail. -/
  outcome : Outcome res r l id s cs

/-- The bytes between the ends of a region can be taken out of the text. -/
theorem exists_slice_offsets {q : Region} {m n : Nat} (h : q.offsets? cs = some (m, n)) :
    ∃ found, Utf8.slice? cs m n = some found := by
  obtain ⟨i, k, hindices, rfl, rfl⟩ := Region.exists_indices_of_offsets h
  obtain ⟨hik, -, -⟩ := Region.indices?_eq_some_iff.1 hindices
  have hcut := Pos.take_append_sliceChars cs hik
  refine ⟨sliceChars cs i k, Utf8.slice?_eq_some_iff.2 ⟨cs.take i, cs.drop k, ?_, rfl, ?_⟩⟩
  · rw [hcut, List.take_append_drop]
  · rw [← Utf8.size_append, hcut]

/-- **A call is safe on any text**, whatever the calls before it and the
edits of others made of it. -/
theorem replace_safe (hr : Reached res r) (hb : s.buffer? id = some b) (l : Link) :
    Safe res r l id s b.text.toList where
  slices q _ :=
    ⟨Pos.offsetIn?_eq _ _, Pos.offsetIn?_eq _ _, fun _ _ h => exists_slice_offsets h⟩
  pattern := hr.program
  outcome := by
    by_cases h : ∃ front found behind, Replaceable r l b.text.toList front found behind
    · obtain ⟨front, found, behind, h⟩ := h
      obtain ⟨e, s', b', hcall, hb', htext, hothers⟩ := replace_eq_true hb h
      refine .exchanged h hcall hb' htext hothers fun hres f hf t ht q hq => ?_
      exact (hr.forward hres.forward f hf t ht q hq).movesWithin e
    · have hnone : ∀ front found behind,
          ¬Replaceable r l b.text.toList front found behind :=
        fun front found behind hany => h ⟨front, found, behind, hany⟩
      exact .refused hnone (replace_eq_false hb hnone)

/-! ## A note that was edited meanwhile -/

/-- The second match of the note. -/
def secondLink : Link := ⟨⟨"/note"⟩, 0, 2, ⟨⟨1, 0⟩, ⟨1, 1⟩⟩⟩

/-- The note with another text. -/
def noteHolding (text : String) : Buffer := ⟨⟨"/note"⟩, text, false, true, 0, []⟩

/-- The desk with the note after its text was exchanged. -/
def storeHolding (text : String) : Store := ⟨⟨[], 0, []⟩, [noteHolding text]⟩

/-- The first match of the note was replaced, and the second one is a line
further down. Of the texts that others put into the note, one has a match there
and is replaced, one has another letter there, and one is too short. -/
theorem replace_safe_note :
    ∃ r r' s, ofResults ⟨noteRequest, [noteFile]⟩ = .ok r ∧
      r.replace ⟨⟨"/note"⟩, 0, 2, ⟨⟨0, 0⟩, ⟨0, 1⟩⟩⟩ 0 noteStore = .ok (true, r', s) ∧
      (∃ r'' s', r'.replace secondLink 0 (storeHolding "é\n\naé") = .ok (true, r'', s') ∧
        s'.textOf 0 = "é\n\nb\né") ∧
      r'.replace secondLink 0 (storeHolding "é\n\néa") =
        .ok (false, r', storeHolding "é\n\néa") ∧
      ∀ text ∈ ["é\n\naé", "é\n\néa", "a"],
        Safe ⟨noteRequest, [noteFile]⟩ r' secondLink 0 (storeHolding text)
          (noteHolding text).text.toList := by
  obtain ⟨r, hr, ⟨_, r', s⟩, hx, ⟨_, r'', s'⟩, hy, ⟨_, _, _⟩, hz, heval⟩ :
      ∃ r, ofResults ⟨noteRequest, [noteFile]⟩ = .ok r ∧
      ∃ x, r.replace ⟨⟨"/note"⟩, 0, 2, ⟨⟨0, 0⟩, ⟨0, 1⟩⟩⟩ 0 noteStore = .ok x ∧
      ∃ y, x.2.1.replace secondLink 0 (storeHolding "é\n\naé") = .ok y ∧
      ∃ z, x.2.1.replace secondLink 0 (storeHolding "é\n\néa") = .ok z ∧
        (x.1, y.1, y.2.2.textOf 0, z.1) = (true, true, "é\n\nb\né", false) :=
    ⟨_, rfl, _, rfl, _, rfl, _, rfl, by decide +kernel⟩
  simp only [Prod.mk.injEq] at heval
  obtain ⟨rfl, rfl, htext, rfl⟩ := heval
  have hsafe (text : String) : Safe ⟨noteRequest, [noteFile]⟩ r' secondLink 0
      (storeHolding text) (noteHolding text).text.toList :=
    replace_safe (.call (.start hr) hx) rfl secondLink
  refine ⟨r, r', s, hr, hx, ⟨r'', s', hy, htext⟩, ?_, fun text _ => hsafe text⟩
  cases (hsafe "é\n\néa").outcome with
  | exchanged _ hcall =>
    rw [hz] at hcall
    cases hcall
  | refused _ hcall => exact hcall

end Replacer
end Find
end CodeDesk
