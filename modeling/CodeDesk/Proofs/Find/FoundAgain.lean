import CodeDesk.Proofs.Find.Replacing
import CodeDesk.Proofs.Regex.Alone
/-!
# Found again — replacing the matches of a pattern

Before a match is exchanged the pattern is run once more, on the matched
text alone, and the replacement is filled in from what that finds. A match
is replaced as it was found exactly if it stands alone: the second run
covers the whole matched text and remembers the same parts
(`replace_found_iff`). Every match of a pattern without conditions on the
place does (`standsAlone`). One that was found with the help of what is
around it may not (`not_replaced_dash`).
-/

namespace CodeDesk

namespace Regex

/-- A match with text: what it remembers and where it is. -/
structure Match where
  /-- The places that are remembered. -/
  slots : Slots
  /-- The number of characters before the match. -/
  start : Nat
  /-- The number of characters up to its end. -/
  stop : Nat
  deriving DecidableEq, Repr

/-- A match with text, from what a search remembers. -/
def Match.ofSlots? (slots : Slots) : Option Match :=
  (groupRange slots 0).bind fun m => if m.1 < m.2 then some ⟨slots, m.1, m.2⟩ else none

/-- The matches with text, which do not overlap. -/
def Program.textMatches (p : Program) (cs : List Char) : List Match :=
  (p.searchAll cs).filterMap Match.ofSlots?

namespace Match

/-- Where a match is in its text. -/
def region (m : Match) (cs : List Char) : Region :=
  ⟨Pos.ofIndex cs m.start, Pos.ofIndex cs m.stop⟩

/-- The matched text. -/
def found (m : Match) (cs : List Char) : List Char := sliceChars cs m.start m.stop

/-- The matched text by itself is matched as a whole, and a replacement has
the same text there. -/
def StandsAlone (m : Match) (p : Program) (cs replacement : List Char) : Prop :=
  ∃ slots, p.searchFrom (Cursor.start (m.found cs)) = some slots ∧
    groupRange slots 0 = some (0, (m.found cs).length) ∧
    expand p (m.found cs) slots replacement = expand p cs m.slots replacement

end Match

section TextMatches

variable {p : Program} {m : Match} {slots : Slots} {cs : List Char}

theorem Match.ofSlots?_eq_some (h : Match.ofSlots? slots = some m) :
    m.slots = slots ∧ groupRange slots 0 = some (m.start, m.stop) ∧ m.start < m.stop := by
  obtain ⟨⟨a, b⟩, hrange, h⟩ := Option.bind_eq_some_iff.1 h
  split at h
  · next hlt =>
    cases h
    exact ⟨rfl, hrange, hlt⟩
  · cases h

/-- The ranges of the matches with text. -/
theorem map_textMatches (p : Program) (cs : List Char) :
    (p.textMatches cs).map (fun m => (m.start, m.stop)) =
      (p.findAll cs).filter fun m => m.1 < m.2 := by
  rw [Program.textMatches, Program.findAll, List.map_filterMap, List.filter_filterMap]
  congr 1
  funext slots
  rw [Match.ofSlots?]
  rcases groupRange slots 0 with _ | ⟨a, b⟩
  · rfl
  · by_cases hlt : a < b
    · simp [Option.filter, hlt]
    · simp [Option.filter, hlt]

/-- **Where the matches of a text are.** -/
theorem regions_textMatches (hp : Framed p) (text : String) :
    findRegions p text = (p.textMatches text.toList).map (·.region text.toList) := by
  have hascending : Ascending 0 (p.findAll text.toList) :=
    (searchAllFrom_sound hp _ false (Cursor.start text.toList)).1
  rw [findRegions, regionsOf_ascending (hascending.filter _), ← map_textMatches, List.map_map]
  rfl

/-- **A match is the first one from some place on**, which is not behind its
start. -/
theorem exists_of_mem_textMatches (hp : Framed p) (hm : m ∈ p.textMatches cs) :
    m.start < m.stop ∧ m.stop ≤ cs.length ∧ ∃ k, p.searchFrom k = some m.slots ∧
      groupRange m.slots 0 = some (m.start, m.stop) ∧ k.index ≤ m.start ∧
      k.rest = cs.drop k.index := by
  obtain ⟨slots, hslots, hmatch⟩ := List.mem_filterMap.1 hm
  obtain ⟨rfl, hrange, hlt⟩ := Match.ofSlots?_eq_some hmatch
  obtain ⟨k, hsearch, -, hrest⟩ :=
    (searchAllFrom_sound hp _ false (Cursor.start cs)).2 m.slots hslots
  have hindex : k.rest = cs.drop k.index := hrest
  obtain ⟨hfirst, -, hlast⟩ := (p.searchFrom_sound hp hsearch).range hrange
  rw [hindex, List.length_drop] at hlast
  exact ⟨hlt, by omega, k, hsearch, hrange, hfirst, hindex⟩

/-- A text around a match. -/
theorem Match.text_eq (m : Match) (hle : m.start ≤ m.stop) (cs : List Char) :
    cs.take m.start ++ m.found cs ++ cs.drop m.stop = cs := by
  have hdrop : cs.drop m.stop = (cs.drop m.start).drop (m.stop - m.start) := by
    rw [List.drop_drop, show m.start + (m.stop - m.start) = m.stop by omega]
  rw [found, sliceChars, hdrop, List.append_assoc, List.take_append_drop, List.take_append_drop]

/-- The region of a match leads to its characters. -/
theorem Match.indices?_region (m : Match) (hle : m.start ≤ m.stop) {cs : List Char}
    (hstop : m.stop ≤ cs.length) : (m.region cs).indices? cs = some (m.start, m.stop) := by
  have hmiddle := indices?_middle (cs.take m.start) (m.found cs) (cs.drop m.stop)
  have htake : cs.take m.start ++ m.found cs = cs.take m.stop := by
    rw [found, sliceChars, ← List.take_add, Nat.add_sub_cancel' hle]
  rw [m.text_eq hle, ← Pos.after_append, ← List.length_append, htake,
    List.length_take_of_le hstop, List.length_take_of_le (hle.trans hstop)] at hmiddle
  exact hmiddle

/-- **Without conditions on the place every match stands alone.** -/
theorem standsAlone (hp : Framed p) (hlook : p.Lookless) (hm : m ∈ p.textMatches cs)
    (replacement : List Char) : m.StandsAlone p cs replacement := by
  obtain ⟨hlt, hle, k, hsearch, hrange, hfirst, hrest⟩ := exists_of_mem_textMatches hp hm
  obtain ⟨slots, halone, hshift, hplaces⟩ := p.searchFrom_alone hp hlook hsearch hrange
  have hfound : sliceChars k.rest (m.start - k.index) (m.stop - k.index) = m.found cs := by
    rw [hrest, Match.found, sliceChars, sliceChars, List.drop_drop,
      show k.index + (m.start - k.index) = m.start by omega,
      show m.stop - k.index - (m.start - k.index) = m.stop - m.start by omega]
  rw [hfound] at halone
  have hstart : (cs.take m.start).length = m.start := List.length_take_of_le (by omega)
  have hlength : (m.found cs).length = m.stop - m.start := by
    rw [Match.found, sliceChars, List.length_take_of_le]
    rw [List.length_drop]
    omega
  refine ⟨slots, halone, ?_, ?_⟩
  · rw [← hshift, groupRange_shift] at hrange
    obtain ⟨⟨a, b⟩, hmatch, heq⟩ := Option.map_eq_some_iff.1 hrange
    obtain ⟨ha, hb⟩ := Prod.mk.inj heq
    rw [hmatch, hlength, show a = 0 by omega, show b = m.stop - m.start by omega]
  · rw [← hlength] at hplaces
    have hexpand : expand p (cs.take m.start ++ m.found cs ++ cs.drop m.stop)
        (slots.shift (cs.take m.start).length) replacement =
          expand p (m.found cs) slots replacement := expand_alone hplaces replacement
    rw [m.text_eq hlt.le, hstart, hshift] at hexpand
    exact hexpand.symm

end TextMatches

end Regex

namespace Find

open Regex Replacer

section FoundAgain

variable {s₀ s : Store} {req : Request} {sc : Scope} {cancelled : Bool} {res : Results}
  {f : FileResult} {front back : List FileResult} {r : Replacer} {l : Link} {id : BufferId}
  {b : Buffer} {p : Program} {m : Match}

/-- The program of a pattern is what the pattern compiles to. -/
theorem program_eq_ok_iff (hregex : req.isRegex = true) :
    req.program = .ok p ↔ compile? req.ignoreCase req.pattern = some p := by
  rw [Request.program, if_pos hregex]
  split
  · next hcompile =>
    rw [hcompile]
    exact ⟨fun h => congrArg some (Except.ok.inj h), fun h => congrArg _ (Option.some.inj h)⟩
  · next hcompile =>
    rw [hcompile]
    exact ⟨fun h => (by cases h), fun h => (by cases h)⟩

/-- A replacer has the match of a link pending where it was found. -/
structure Pending (req : Request) (p : Program) (l : Link) (r : Replacer) : Prop where
  /-- It is for this search. -/
  request : r.request = req
  /-- It runs the program of the search. -/
  program : r.program = p
  /-- The match was not replaced, touched or moved. -/
  current : r.current l = some l.region

/-- Before anything was replaced a match is where it was found. -/
theorem current_ofResults (hr : ofResults res = .ok r) (hfiles : res.files = front ++ f :: back)
    (hlast : ∀ g ∈ back, (g.path == f.path) = false) (hl : (l.path == f.path) = true)
    (hmem : l.region ∈ f.regions) : r.current l = some l.region := by
  have hfound : ∀ rs : List Region, l.region ∈ rs →
      (rs.map fun r => Tracked.mk r (some r)).find? (fun t => t.found == l.region) =
        some ⟨l.region, some l.region⟩ := by
    intro rs hrs
    induction rs with
    | nil => cases hrs
    | cons x rs ih =>
      rw [List.map_cons, List.find?_cons]
      by_cases hx : x = l.region
      · rw [hx, beq_self_eq_true]
      · rw [beq_eq_false_iff_ne.2 hx]
        exact ih ((List.mem_cons.1 hrs).resolve_left (Ne.symm hx))
  rw [current, tracked_congr r hl, tracked_ofResults hr hfiles hlast, track, hfound _ hmem]
  rfl

/-- The pattern matches a text as a whole. -/
theorem matchesWhole_iff {found : List Char} :
    r.matchesWhole found = true ↔ ∃ slots, r.program.searchFrom (Cursor.start found) = some slots ∧
      groupRange slots 0 = some (0, found.length) := by
  rw [matchesWhole, Program.find, Program.findFrom, beq_iff_eq, Option.bind_eq_some_iff]

/-- What takes the place of a text that is matched as a whole. -/
theorem replacementFor_whole (hregex : r.request.isRegex = true) {found : List Char}
    {slots : Slots} (hsearch : r.program.searchFrom (Cursor.start found) = some slots)
    (hrange : groupRange slots 0 = some (0, found.length)) :
    (r.replacementFor found).toList =
      expand r.program found slots r.request.replacement.toList := by
  rw [replacementFor, if_pos hregex, String.toList_ofList, Program.replaceFirst, hsearch]
  simp only [hrange]
  rw [List.take_zero, List.nil_append, List.drop_length, List.append_nil]

section Replace

variable (hregex : r.request.isRegex = true) (hp : Framed r.program)
  (hb : s.buffer? id = some b) (hm : m ∈ r.program.textMatches b.text.toList)
  (hcurrent : r.current l = some (m.region b.text.toList))

include hp hb hm hcurrent in
/-- A match that is not matched as a whole is left alone. -/
theorem replace_not_whole (hnot : ¬r.matchesWhole (m.found b.text.toList) = true) :
    r.replace l id s = .ok (false, r, s) := by
  obtain ⟨hlt, hle, -⟩ := exists_of_mem_textMatches hp hm
  have hindices := m.indices?_region hlt.le hle
  rw [Bool.not_eq_true, Match.found] at hnot
  rw [replace, hcurrent]
  simp only [Store.textOf_eq hb, hindices, hnot, Bool.not_false, if_true]

include hregex hp hb hm hcurrent in
/-- Any other one is replaced. -/
theorem replace_whole (hwhole : r.matchesWhole (m.found b.text.toList) = true) :
    ∃ r' s', r.replace l id s = .ok (true, r', s') ∧ (s'.textOf id).toList =
      spliceChars b.text.toList m.start m.stop
        (r.replacementFor (m.found b.text.toList)).toList := by
  obtain ⟨hlt, hle, -⟩ := exists_of_mem_textMatches hp hm
  have hindices := m.indices?_region hlt.le hle
  let new := r.replacementFor (m.found b.text.toList)
  obtain ⟨s', b', hreplace, hb', htext⟩ := Store.replace_ok hb hindices new false
  let e : TextEdit := ⟨m.region b.text.toList,
    (m.region b.text.toList).start.after new.toList⟩
  have hedit : s.replace id (m.region b.text.toList) new false = .ok (e, s') := hreplace
  refine ⟨r.advance l e, s', ?_, by rw [Store.textOf_eq hb']; exact htext⟩
  rw [Match.found] at hwhole
  simp only [new, Match.found] at hedit
  rw [replace, hcurrent]
  simp only [Store.textOf_eq hb, hindices, hwhole, hregex, Bool.not_true, Bool.and_false,
    Bool.false_eq_true, if_false, hedit]

include hregex hp hb hm hcurrent in
/-- **A match is replaced as it was found exactly if it stands alone.** -/
theorem replace_match_iff :
    (∃ r' s', r.replace l id s = .ok (true, r', s') ∧ (s'.textOf id).toList =
        spliceChars b.text.toList m.start m.stop
          (expand r.program b.text.toList m.slots r.request.replacement.toList)) ↔
      m.StandsAlone r.program b.text.toList r.request.replacement.toList := by
  constructor
  · rintro ⟨r', s', hreplace, htext⟩
    have hwhole : r.matchesWhole (m.found b.text.toList) = true := by
      by_contra hnot
      rw [replace_not_whole hp hb hm hcurrent hnot] at hreplace
      cases hreplace
    obtain ⟨r'', s'', hreplace', htext'⟩ := replace_whole hregex hp hb hm hcurrent hwhole
    rw [hreplace] at hreplace'
    cases hreplace'
    obtain ⟨slots, hsearch, hrange⟩ := matchesWhole_iff.1 hwhole
    refine ⟨slots, hsearch, hrange, ?_⟩
    rw [htext, replacementFor_whole hregex hsearch hrange] at htext'
    exact (List.append_cancel_left (List.append_cancel_right htext')).symm
  · rintro ⟨slots, hsearch, hrange, hexpand⟩
    obtain ⟨r', s', hreplace, htext⟩ := replace_whole hregex hp hb hm hcurrent
      (matchesWhole_iff.2 ⟨slots, hsearch, hrange⟩)
    rw [replacementFor_whole hregex hsearch hrange, hexpand] at htext
    exact ⟨r', s', hreplace, htext⟩

end Replace

/-- **A match of a pattern is replaced as it was found exactly if it stands
alone**, at the start and as long as it is pending where it was found. Where
the pattern has no conditions on the place, each of its matches stands
alone. -/
theorem replace_found_iff (hregex : req.isRegex = true)
    (hfind : find s₀ req sc cancelled = .ok res) (hfiles : res.files = front ++ f :: back)
    (hlast : ∀ g ∈ back, (g.path == f.path) = false) (hb : s.buffer? id = some b)
    (htext : b.text = searchedText s₀ f) :
    ∃ p r, req.program = .ok p ∧ ofResults res = .ok r ∧
      f.regions = (p.textMatches b.text.toList).map (·.region b.text.toList) ∧
      ∀ m ∈ p.textMatches b.text.toList,
        (∀ l : Link, (l.path == f.path) = true → l.region = m.region b.text.toList →
          Pending req p l r ∧ ∀ r₁, Pending req p l r₁ →
            ((∃ r' s', r₁.replace l id s = .ok (true, r', s') ∧ (s'.textOf id).toList =
                spliceChars b.text.toList m.start m.stop
                  (expand p b.text.toList m.slots req.replacement.toList)) ↔
              m.StandsAlone p b.text.toList req.replacement.toList)) ∧
        ∀ e gs, parse? req.ignoreCase req.pattern = some (e, gs) → e.looks = false →
          m.StandsAlone p b.text.toList req.replacement.toList := by
  have hf : f ∈ res.files := hfiles ▸ List.mem_append_right front List.mem_cons_self
  obtain ⟨hreq, p, hprogram, hregions, -⟩ := mem_files hfind hf
  have hcompile := (program_eq_ok_iff hregex).1 hprogram
  have hframed := framed_compile? hcompile
  rw [← htext, regions_textMatches hframed] at hregions
  have hr : ofResults res = .ok ⟨req, p, trackAll res.files⟩ := by
    rw [ofResults, hreq, hprogram]
  refine ⟨p, _, hprogram, hr, hregions, fun m hm => ⟨fun l hl hregion => ⟨?_, ?_⟩, ?_⟩⟩
  · have hmem : l.region ∈ f.regions := by
      rw [hregions, hregion]
      exact List.mem_map_of_mem hm
    exact ⟨rfl, rfl, current_ofResults hr hfiles hlast hl hmem⟩
  · rintro r₁ ⟨rfl, rfl, hcurrent⟩
    rw [hregion] at hcurrent
    exact replace_match_iff hregex hframed hb hm hcurrent
  · intro e gs hparse hlooks
    exact standsAlone hframed (lookless_compile? hparse hlooks hcompile) hm _

end FoundAgain

/-! ## A dash behind a letter -/

/-- A desk with one open note. -/
def dashStore : Store := ⟨⟨[], 0, []⟩, [⟨⟨"/note"⟩, "a-\n", false, true, 0, []⟩]⟩

/-- The note is what is searched. -/
def dashScope : Scope := ⟨⟨"/"⟩, none, some ⟨"/note"⟩, [0], .standard⟩

/-- A search for a letter and a dash, where the dash is exchanged. -/
def letterRequest : Request := ⟨"(a)-", "$1+", false, true, .activeFile, []⟩

/-- A search for a dash at the edge of a word. -/
def edgeRequest : Request := ⟨"(?-u:\\b)-", "+", false, true, .activeFile, []⟩

/-- The note with one match, which ends behind the dash. -/
def dashFile (col : Nat) : FileResult :=
  ⟨⟨"/note"⟩, 1, [⟨⟨0, col⟩, ⟨0, 2⟩⟩], ["a-"], some 0⟩

/-- The link to that match. -/
def dashLink (col : Nat) : Link := ⟨⟨"/note"⟩, 1, 1, ⟨⟨0, col⟩, ⟨0, 2⟩⟩⟩

/-- What a search of the note finds. -/
theorem find_dash {req : Request} {p : Program} (hprogram : req.program = .ok p)
    (hplace : req.place = .activeFile) (hlangs : req.langs = []) {f : FileResult}
    (hmatches : matchesIn p ⟨⟨"/note"⟩, some 0⟩ "a-\n" = some f) :
    find dashStore req dashScope false = .ok ⟨req, [f]⟩ := by
  have hcandidate : dashScope.candidate dashStore ⟨"/note"⟩ none = ⟨⟨"/note"⟩, some 0⟩ := by
    decide +kernel
  have hcandidates : candidates dashStore req dashScope = .ok [⟨⟨"/note"⟩, some 0⟩] := by
    rw [candidates, hplace]
    exact congrArg (fun c => Except.ok [c]) hcandidate
  have hskip : skipReason dashStore.disk req dashScope.config ⟨"/note"⟩ 0 true = none := by
    have hsidecar : isSidecar ⟨"/note"⟩ = false := by decide +kernel
    have hproject : isProjectName dashScope.config (Path.fileName ⟨"/note"⟩) = false := by
      decide +kernel
    rw [skipReason, hsidecar, hproject, Request.wants, hlangs]
    rfl
  have hfile : searchFile dashStore p req dashScope.config ⟨⟨"/note"⟩, some 0⟩ = some f := by
    rw [searchFile]
    simp only [hskip, Option.isSome_none, Bool.false_eq_true, if_false]
    exact hmatches
  rw [find, hprogram, hcandidates]
  simp only [Bool.false_eq_true, if_false]
  rw [List.filterMap_cons, hfile]
  simp [rank]

/-- A letter and a dash are exchanged for the letter and a plus sign. -/
theorem replace_found_letter :
    find dashStore letterRequest dashScope false = .ok ⟨letterRequest, [dashFile 0]⟩ ∧
      ∃ r r' s', ofResults ⟨letterRequest, [dashFile 0]⟩ = .ok r ∧
        r.replace (dashLink 0) 0 dashStore = .ok (true, r', s') ∧
        (s'.textOf 0).toList = "a+\n".toList := by
  obtain ⟨⟨e, gs⟩, hparse⟩ : ∃ e, parse? false "(a)-" = some e :=
    Option.isSome_iff_exists.1 (by decide +kernel)
  have hlooks : e.looks = false := by
    have heval : (parse? false "(a)-").map (fun e => e.1.looks) = some false := by decide +kernel
    rw [hparse] at heval
    exact Option.some.inj heval
  let m : Match := ⟨#[some 0, some 2, some 0, some 1], 0, 2⟩
  obtain ⟨p, hcompile, hfile, hmatches, hnew⟩ : ∃ p, compile? false "(a)-" = some p ∧
      matchesIn p ⟨⟨"/note"⟩, some 0⟩ "a-\n" = some (dashFile 0) ∧
      p.textMatches "a-\n".toList = [m] ∧
      expand p "a-\n".toList m.slots "$1+".toList = "a+".toList := by
    have heval : (compile? false "(a)-").map (fun p =>
        (matchesIn p ⟨⟨"/note"⟩, some 0⟩ "a-\n", p.textMatches "a-\n".toList,
          expand p "a-\n".toList m.slots "$1+".toList)) =
        some (some (dashFile 0), [m], "a+".toList) := by decide +kernel
    obtain ⟨p, hcompile, h⟩ := Option.map_eq_some_iff.1 heval
    obtain ⟨hfile, hrest⟩ := Prod.mk.inj h
    obtain ⟨hmatches, hnew⟩ := Prod.mk.inj hrest
    exact ⟨p, hcompile, hfile, hmatches, hnew⟩
  have hprogram : letterRequest.program = .ok p := (program_eq_ok_iff rfl).2 hcompile
  have hfind := find_dash hprogram rfl rfl hfile
  have hfiles : (Results.mk letterRequest [dashFile 0]).files = [] ++ dashFile 0 :: [] := rfl
  have hbuffer : dashStore.buffer? 0 = some ⟨⟨"/note"⟩, "a-\n", false, true, 0, []⟩ := rfl
  obtain ⟨p', r, hprogram', hr, -, hall⟩ := replace_found_iff rfl hfind hfiles
    (fun g hg => absurd hg List.not_mem_nil) hbuffer rfl
  obtain rfl : p = p' := Except.ok.inj (hprogram.symm.trans hprogram')
  have hm : m ∈ p.textMatches "a-\n".toList := by
    rw [hmatches]
    exact List.mem_cons_self
  obtain ⟨hiff, halone⟩ := hall m hm
  have hregion : (dashLink 0).region = m.region "a-\n".toList := by decide +kernel
  obtain ⟨hpending, hreplaced⟩ := hiff (dashLink 0) (Path.beq_refl _) hregion
  obtain ⟨r', s', hreplace, htext⟩ := (hreplaced r hpending).2 (halone e gs hparse hlooks)
  refine ⟨hfind, r, r', s', hr, hreplace, ?_⟩
  have hnew' : expand p "a-\n".toList m.slots letterRequest.replacement.toList = "a+".toList :=
    hnew
  rw [htext, hnew']
  decide +kernel

/-- **A dash that was found beside a letter is not replaced**, since a dash
alone is not at the edge of a word. -/
theorem not_replaced_dash :
    find dashStore edgeRequest dashScope false = .ok ⟨edgeRequest, [dashFile 1]⟩ ∧
      ∃ r, ofResults ⟨edgeRequest, [dashFile 1]⟩ = .ok r ∧
        r.replace (dashLink 1) 0 dashStore = .ok (false, r, dashStore) := by
  let m : Match := ⟨#[some 1, some 2], 1, 2⟩
  have heval : (compile? false "(?-u:\\b)-").map (fun p =>
      (matchesIn p ⟨⟨"/note"⟩, some 0⟩ "a-\n", p.textMatches "a-\n".toList,
        p.find "-".toList)) = some (some (dashFile 1), [m], none) := by decide +kernel
  obtain ⟨p, hcompile, h⟩ := Option.map_eq_some_iff.1 heval
  obtain ⟨hfile, hrest⟩ := Prod.mk.inj h
  obtain ⟨hmatches, hnone⟩ := Prod.mk.inj hrest
  have hprogram : edgeRequest.program = .ok p := (program_eq_ok_iff rfl).2 hcompile
  have hr : ofResults ⟨edgeRequest, [dashFile 1]⟩ =
      .ok ⟨edgeRequest, p, trackAll [dashFile 1]⟩ := by
    rw [ofResults, hprogram]
  have hfiles : (Results.mk edgeRequest [dashFile 1]).files = [] ++ dashFile 1 :: [] := rfl
  have hbuffer : dashStore.buffer? 0 = some ⟨⟨"/note"⟩, "a-\n", false, true, 0, []⟩ := rfl
  have hcurrent := current_ofResults hr hfiles (fun g hg => absurd hg List.not_mem_nil)
    (Path.beq_refl _) (l := dashLink 1) List.mem_cons_self
  have hregion : (dashLink 1).region = m.region "a-\n".toList := by decide +kernel
  have hm : m ∈ p.textMatches "a-\n".toList := by
    rw [hmatches]
    exact List.mem_cons_self
  refine ⟨find_dash hprogram rfl rfl hfile, _, hr, ?_⟩
  refine replace_not_whole (framed_compile? hcompile) hbuffer hm (hregion ▸ hcurrent) ?_
  have hfound : m.found "a-\n".toList = "-".toList := by decide +kernel
  rw [hfound, matchesWhole, hnone]
  decide

/-- Another match is exchanged, but for another text: alone it is at the end
of the text, and another branch matches it. -/
example : (compile? false "(x)$|(x)").map (fun p =>
    ((p.textMatches "xy".toList).map fun m => expand p "xy".toList m.slots "$1-$2".toList,
      p.replaceFirst "$1-$2".toList "x".toList)) =
    some (["-x".toList], "x-".toList) := by decide +kernel

end Find
end CodeDesk
