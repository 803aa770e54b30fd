import CodeDesk.Find.Replacer
import CodeDesk.Proofs.Desk.KeptReplacements
import CodeDesk.Proofs.Files.Path
/-!
# Listed matches — whether the view keeps up with what is replaced

A line of a view lists the match that its link leads to, whatever else the
link says. Taking a line away leaves what the other lines list
(`lists_removeLine`), so a match is gone from the view with its line exactly
if no other line lists it. `replacedLinks` names the matches that a
replacement of everything has replaced, one for each that it counts
(`length_replacedLinks`), also if it fails midway.

The view of a search is the results without the lines of what was replaced
since. Replacing the match of a line takes this line away, and no act but
this changes the view (`view?_act`). Replacing everything leaves the view as
it is. So the view is current throughout a history exactly if replacing
everything never meets a match that is still listed, and the match of a line
is never listed by another line as well (`viewCurrent_iff`). The latter
cannot happen where no match is listed twice, so it is the former that goes
wrong (`not_viewCurrent_replaceAll`).
-/

namespace CodeDesk

/-! ## What a view lists -/

namespace Find

/-- Two links lead to one match. -/
def Link.Same (l l' : Link) : Prop := (l.path == l'.path) = true ∧ l.region = l'.region

instance (l l' : Link) : Decidable (l.Same l') := inferInstanceAs (Decidable (_ ∧ _))

theorem Link.Same.refl (l : Link) : l.Same l := ⟨Path.beq_refl l.path, rfl⟩

namespace View

variable {v : View} {i j : Nat} {l : Link}

/-- A line lists the match of a link. -/
def ListsAt (v : View) (i : Nat) (l : Link) : Prop := ∃ l', v.linkAt i = some l' ∧ l'.Same l

/-- A line of the view lists the match of a link. -/
def Lists (v : View) (l : Link) : Prop := ∃ i, v.ListsAt i l

/-- Another line than `i` does. -/
def ListsBeside (v : View) (i : Nat) (l : Link) : Prop := ∃ j, j ≠ i ∧ v.ListsAt j l

/-- No match is listed twice. -/
def ListsOnce (v : View) : Prop :=
  ∀ i j l l', v.linkAt i = some l → v.linkAt j = some l' → l.Same l' → i = j

theorem lt_of_linkAt (h : v.linkAt i = some l) : i < v.lines.length := by
  obtain ⟨line, hline, -⟩ := Option.bind_eq_some_iff.1 h
  exact (List.getElem?_eq_some_iff.1 hline).1

theorem removeLine_eq (hi : i < v.lines.length) : (v.removeLine i).2 = ⟨v.lines.eraseIdx i⟩ := by
  rw [removeLine, List.getElem?_eq_getElem hi]

/-- The lines behind one that is taken away move up. -/
theorem linkAt_removeLine (hi : i < v.lines.length) (j : Nat) :
    (v.removeLine i).2.linkAt j = v.linkAt (if j < i then j else j + 1) := by
  rw [removeLine_eq hi, linkAt, linkAt, List.getElem?_eraseIdx]
  split <;> rfl

/-- **Taking a line away** leaves what the other lines list. -/
theorem lists_removeLine (hi : i < v.lines.length) :
    (v.removeLine i).2.Lists l ↔ v.ListsBeside i l := by
  constructor
  · rintro ⟨j, l', hl', hsame⟩
    rw [linkAt_removeLine hi] at hl'
    refine ⟨_, ?_, l', hl', hsame⟩
    split
    · next hlt => exact Nat.ne_of_lt hlt
    · next hge => exact Nat.ne_of_gt (Nat.lt_succ_of_le (Nat.not_lt.1 hge))
  · rintro ⟨j, hne, l', hl', hsame⟩
    -- A line in front of it stays where it is, and one behind it moves up.
    rcases Nat.lt_or_gt_of_ne hne with hlt | hgt
    · refine ⟨j, l', ?_, hsame⟩
      rw [linkAt_removeLine hi, if_pos hlt]
      exact hl'
    · refine ⟨j - 1, l', ?_, hsame⟩
      rw [linkAt_removeLine hi, if_neg (by omega), Nat.sub_add_cancel (by omega)]
      exact hl'

theorem ListsOnce.removeLine (h : v.ListsOnce) (hi : i < v.lines.length) :
    (v.removeLine i).2.ListsOnce := by
  intro a b l l' ha hb hsame
  rw [linkAt_removeLine hi] at ha hb
  have heq := h _ _ l l' ha hb hsame
  split at heq <;> split at heq <;> omega

/-- Where no match is listed twice, no other line lists that of a line. -/
theorem ListsOnce.not_listsBeside (h : v.ListsOnce) (hl : v.linkAt i = some l) :
    ¬ v.ListsBeside i l := by
  rintro ⟨j, hne, l', hl', hsame⟩
  exact hne (h j i l' l hl' hl hsame)

end View

namespace Replacer

variable {r r' : Replacer} {f : FileResult} {id : BufferId} {s s' : Store} {d d' : Documents}

/-- Replacing the match of a line takes the line away, also if nothing is
replaced. -/
theorem view_replaceAt {v v' : View} {line : Nat} {answer : Bool}
    (h : r.replaceAt v line id s = .ok (answer, r', v', s')) : v' = (v.removeLine line).2 := by
  rw [replaceAt] at h
  split at h
  · cases h
  · split at h
    · cases h
    · cases h
      rfl

/-- The link by which a match is replaced together with the others. -/
def linkIn (f : FileResult) (region : Region) : Link := ⟨f.path, 0, f.count, region⟩

/-- The matches of a file that are replaced one after the other. -/
def replacedIn (f : FileResult) (id : BufferId) : List Region → Replacer → Store → List Link
  | [], _, _ => []
  | region :: rest, r, s =>
    match r.replace (linkIn f region) id s with
    | .error _ => []
    | .ok (replaced, r, s) =>
      (if replaced then [linkIn f region] else []) ++ replacedIn f id rest r s

/-- The matches that are replaced file by file. -/
def replacedLinks (opener : Opener) : List FileResult → Replacer → Documents → List Link
  | [], _, _ => []
  | f :: fs, r, d =>
    match bufferFor opener f d with
    | (.error _, _) => []
    | (.ok id, d) =>
      replacedIn f id f.regions r d.store ++
        match replaceRegions f id f.regions r d.store with
        | (_, .error _, _, _) => []
        | (_, .ok (), r, s) => replacedLinks opener fs r { d with store := s.highlight id [] }

theorem length_replacedIn (f : FileResult) (id : BufferId) (regions : List Region) (r : Replacer)
    (s : Store) : (replacedIn f id regions r s).length = (replaceRegions f id regions r s).1 := by
  induction regions generalizing r s with
  | nil => rfl
  | cons region rest ih =>
    rw [replacedIn, replaceRegions, linkIn]
    cases r.replace ⟨f.path, 0, f.count, region⟩ id s with
    | error e => rfl
    | ok out =>
      obtain ⟨replaced, r, s⟩ := out
      dsimp only
      rw [List.length_append, ih]
      cases replaced <;> rfl

/-- **There is one match for each replacement that is counted.** -/
theorem length_replacedLinks (opener : Opener) (fs : List FileResult) (r : Replacer)
    (d : Documents) : (replacedLinks opener fs r d).length = (replaceFiles opener fs r d).1 := by
  induction fs generalizing r d with
  | nil => rfl
  | cons f fs ih =>
    simp only [replacedLinks, replaceFiles]
    rcases bufferFor opener f d with ⟨e | id, d₁⟩
    · rfl
    · dsimp only
      rw [List.length_append, length_replacedIn]
      rcases replaceRegions f id f.regions r d₁.store with ⟨n, e | u, r₁, s₁⟩
      · rfl
      · dsimp only
        rw [ih]

end Replacer

end Find

/-! ## The view of a search -/

namespace Desk

variable {σ : Type} {M : Machine} {d d' : Desk σ} {a : Act} {acts : List Act} {line : Nat}
  {v v' : Find.View} {l : Find.Link} {res : Find.Results}

/-- The view of the last search. -/
def view? (d : Desk σ) : Option Find.View := d.findings.map (·.view)

theorem view?_congr (h : d'.findings = d.findings) : d'.view? = d.view? :=
  congrArg (Option.map Findings.view) h

/-- The matches that an act replaces. -/
def replaced (d : Desk σ) : Act → List Find.Link
  | .replaceAt line =>
    match (d.replaceAt line).1, d.listed line with
    | .ok true, .ok (_, l) => [l]
    | _, _ => []
  | .replaceAll =>
    match d.findings with
    | some f => Find.Replacer.replacedLinks opener f.results.files f.replacer d.documents
    | none => []
  | _ => []

/-- The matches that a list of acts replaces. -/
def replacedBy (M : Machine) (d : Desk σ) : List Act → List Find.Link
  | [] => []
  | a :: acts => d.replaced a ++ replacedBy M (d.act M a) acts

theorem replacedBy_concat (M : Machine) (d : Desk σ) (acts : List Act) (a : Act) :
    d.replacedBy M (acts ++ [a]) = d.replacedBy M acts ++ (d.after M acts).replaced a := by
  induction acts generalizing d with
  | nil => exact List.append_nil _
  | cons b acts ih =>
    rw [List.cons_append, replacedBy, replacedBy, ih, List.append_assoc]
    rfl

/-- **There is one match for each replacement that an answer counts.** -/
theorem length_replaced (hall : a = .replaceAll → ∃ n, d.replaceAll.1 = .ok n) :
    (d.replaced a).length = d.answered a := by
  cases a with
  | replaceAt line =>
    rw [replaced, answered]
    cases hanswer : (d.replaceAt line).1 with
    | error e => rfl
    | ok yes =>
      obtain ⟨f, l, id, replacer, view, s, hlisted, -⟩ := replaceAt_inv hanswer
      cases yes with
      | false => rfl
      | true => simp only [hlisted, List.length_singleton]
  | replaceAll =>
    obtain ⟨n, hn⟩ := hall rfl
    rw [replaced, answered, hn]
    cases hfindings : d.findings with
    | none =>
      rw [replaceAll, hfindings] at hn
      cases hn
    | some f =>
      rw [(replaceAll_eq hfindings).1] at hn
      dsimp only
      rw [Find.Replacer.length_replacedLinks]
      cases hout : (Find.Replacer.replaceFiles opener f.results.files f.replacer d.documents).2.1
        with
      | error e =>
        rw [hout] at hn
        cases hn
      | ok u =>
        rw [hout] at hn
        exact Except.ok.inj hn
  | _ => rfl

/-! ## The view in the course of a history -/

theorem findings_saveFile (d : Desk σ) (id : BufferId) (p : Command.Prompter) :
    (d.saveFile M id p).2.findings = d.findings := by
  have hsave : (saveBuffer id d).2.findings = d.findings := rfl
  unfold saveFile
  split
  · next e d' heq =>
    rw [heq] at hsave
    exact hsave
  · next d' heq =>
    rw [heq] at hsave
    obtain ⟨r, hr⟩ := postSave_eq M d' id p
    exact (congrArg findings hr).trans hsave

theorem findings_saveInTurn (d : Desk σ) (p : Command.Prompter) (ids : List BufferId) :
    (d.saveInTurn M p ids).2.2.findings = d.findings := by
  have hafter (id : BufferId) (d' : Desk σ) : (d'.postSave M id p).2.findings = d'.findings := by
    obtain ⟨r, hr⟩ := postSave_eq M d' id p
    rw [hr]
    rfl
  have hsave (id : BufferId) (d' : Desk σ) : (saveBuffer id d').2.findings = d'.findings := rfl
  exact OpenList.saveEach_keeps (P := fun d' => d'.findings = d.findings)
    (fun id d' hd => (hsave id d').trans hd) (fun id d' hd => (hafter id d').trans hd) ids rfl

theorem findings_openResult (d : Desk σ) (line : Nat) :
    (d.openResult line).2.findings = d.findings := by
  rw [openResult]
  split
  · rfl
  · split
    · rfl
    · dsimp only
      split <;> rfl

theorem view?_replaceAll (d : Desk σ) : d.replaceAll.2.view? = d.view? := by
  rw [replaceAll]
  split
  · rfl
  · next f hf =>
    rw [view?, view?, hf]
    rfl

theorem listed_eq_ok {f : Findings} :
    d.listed line = .ok (f, l) ↔ d.findings = some f ∧ f.view.linkAt line = some l := by
  rw [listed]
  constructor
  · intro h
    split at h
    · cases h
    · next f' hf =>
      split at h
      · cases h
      · next l' hl =>
        cases h
        exact ⟨hf, hl⟩
  · rintro ⟨hf, hl⟩
    simp only [hf, hl]

/-- Replacing the match of a line either fails and leaves the view as it is,
or takes the line away. -/
theorem view?_replaceAt (d : Desk σ) (line : Nat) :
    ((∃ e, (d.replaceAt line).1 = .error e) ∧ (d.replaceAt line).2.view? = d.view?) ∨
      ∃ f l, d.listed line = .ok (f, l) ∧
        (d.replaceAt line).2.view? = some (f.view.removeLine line).2 := by
  rw [replaceAt]
  split
  · next e heq => exact .inl ⟨⟨e, rfl⟩, rfl⟩
  · next f l hlisted =>
    split
    · exact .inl ⟨⟨_, rfl⟩, rfl⟩
    · next id docs hbuffer =>
      split
      · exact .inl ⟨⟨_, rfl⟩, rfl⟩
      · next yes replacer view s hreplace =>
        refine .inr ⟨f, l, hlisted, ?_⟩
        rw [Find.Replacer.view_replaceAt hreplace]
        rfl

/-- **Only replacing the match of a line changes the view**, but for a new
search. -/
theorem view?_act (h : d.documents.Tidy)
    (hfind : ∀ r active cancelled, a ≠ .find r active cancelled)
    (hline : ∀ line, a ≠ .replaceAt line) : (d.act M a).view? = d.view? := by
  cases a with
  | openFile p choice =>
    rw [act, openFile]
    split <;> rfl
  | closeFile id => rfl
  | saveFile id p => exact view?_congr (findings_saveFile d id p)
  | saveAll p =>
    rw [act, saveAll_eq h]
    exact view?_congr (findings_saveInTurn d p _)
  | autosave id =>
    rw [act]
    split <;> rfl
  | edit id text => rfl
  | find r active cancelled => exact absurd rfl (hfind r active cancelled)
  | openResult line => exact view?_congr (findings_openResult d line)
  | replaceAt line => exact absurd rfl (hline line)
  | replaceAll => exact view?_replaceAll d
  | meanwhile r => rfl

/-- The match that a line lists is the one that is replaced. -/
theorem mem_replaced_replaceAt (hl : l ∈ d.replaced (.replaceAt line)) :
    ∃ f, d.listed line = .ok (f, l) ∧
      (d.replaceAt line).2.view? = some (f.view.removeLine line).2 := by
  rw [replaced] at hl
  split at hl
  · next f l' hanswer hlisted =>
    rw [List.mem_singleton] at hl
    subst hl
    rcases view?_replaceAt d line with ⟨⟨e, herror⟩, -⟩ | ⟨f', l', hlisted', hview⟩
    · rw [herror] at hanswer
      cases hanswer
    · rw [hlisted] at hlisted'
      cases hlisted'
      exact ⟨f, hlisted, hview⟩
  · cases hl

/-- **The view only loses lines** until the next search: what it lists was
listed before, and a match stays listed once. -/
theorem lists_of_act (h : d.documents.Tidy)
    (hfind : ∀ r active cancelled, a ≠ .find r active cancelled)
    (hv' : (d.act M a).view? = some v') :
    ∃ v, d.view? = some v ∧ (∀ l, v'.Lists l → v.Lists l) ∧ (v.ListsOnce → v'.ListsOnce) := by
  by_cases hline : ∃ line, a = .replaceAt line
  · obtain ⟨line, rfl⟩ := hline
    rcases view?_replaceAt d line with ⟨-, hview⟩ | ⟨f, l, hlisted, hview⟩
    · exact ⟨v', hview.symm.trans hv', fun _ h => h, id⟩
    · obtain ⟨hf, hl⟩ := listed_eq_ok.1 hlisted
      have hlt := Find.View.lt_of_linkAt hl
      cases Option.some.inj (hview.symm.trans hv')
      refine ⟨f.view, congrArg _ hf, fun l' hl' => ?_, fun honce => honce.removeLine hlt⟩
      obtain ⟨j, -, hj⟩ := (Find.View.lists_removeLine hlt).1 hl'
      exact ⟨j, hj⟩
  · have hsame := view?_act (M := M) h hfind fun line heq => hline ⟨line, heq⟩
    exact ⟨v', hsame.symm.trans hv', fun _ h => h, id⟩

/-! ## Whether the view is current -/

/-- At no point of a history the view lists a match that was replaced. -/
def ViewCurrent (M : Machine) (d : Desk σ) (acts : List Act) : Prop :=
  ∀ before behind, acts = before ++ behind → ∀ v, (d.after M before).view? = some v →
    ∀ l ∈ d.replacedBy M before, ¬ v.Lists l

/-- An act that replaces everything replaces no match that is listed. -/
def SparesListed (d : Desk σ) (a : Act) : Prop :=
  a = .replaceAll → ∀ v, d.view? = some v → ∀ l ∈ d.replaced a, ¬ v.Lists l

/-- An act that replaces the match of a line replaces none that another line
lists. -/
def SparesOthers (d : Desk σ) (a : Act) : Prop :=
  ∀ line, a = .replaceAt line → ∀ v, d.view? = some v → ∀ l ∈ d.replaced a,
    ¬ v.ListsBeside line l

/-- What an act replaces is not listed behind it, exactly if it spares what
is listed. -/
theorem spares_iff (h : d.documents.Tidy)
    (hfind : ∀ r active cancelled, a ≠ .find r active cancelled) :
    (∀ v, (d.act M a).view? = some v → ∀ l ∈ d.replaced a, ¬ v.Lists l) ↔
      d.SparesListed a ∧ d.SparesOthers a := by
  by_cases hline : ∃ line, a = .replaceAt line
  · obtain ⟨line, rfl⟩ := hline
    constructor
    · refine fun hspares => ⟨Act.noConfusion, fun line' heq v hv l hl => ?_⟩
      cases heq
      obtain ⟨f, hlisted, hview⟩ := mem_replaced_replaceAt hl
      obtain ⟨hf, hlink⟩ := listed_eq_ok.1 hlisted
      cases Option.some.inj (hv.symm.trans (congrArg _ hf))
      rw [← Find.View.lists_removeLine (Find.View.lt_of_linkAt hlink)]
      exact hspares _ hview l hl
    · rintro ⟨-, hothers⟩ v hv l hl
      obtain ⟨f, hlisted, hview⟩ := mem_replaced_replaceAt hl
      obtain ⟨hf, hlink⟩ := listed_eq_ok.1 hlisted
      cases Option.some.inj (hview.symm.trans hv)
      rw [Find.View.lists_removeLine (Find.View.lt_of_linkAt hlink)]
      exact hothers line rfl f.view (congrArg _ hf) l hl
  · have hother : ∀ line, a ≠ .replaceAt line := fun line heq => hline ⟨line, heq⟩
    rw [view?_act h hfind hother]
    constructor
    · exact fun hspares => ⟨fun _ => hspares, fun line heq => absurd heq (hother line)⟩
    · rintro ⟨hlisted, -⟩ v hv l hl
      cases a with
      | replaceAll => exact hlisted rfl v hv l hl
      | replaceAt line => exact absurd rfl (hother line)
      | _ => cases hl

/-- A list of acts without a search. -/
def Searchless (acts : List Act) : Prop :=
  ∀ a ∈ acts, ∀ r active cancelled, a ≠ .find r active cancelled

/-- The view is current exactly if no act replaces what is listed behind
it. -/
theorem viewCurrent_iff_acts (h : d.documents.Tidy) (hacts : Searchless acts) :
    d.ViewCurrent M acts ↔ ∀ before a behind, acts = before ++ a :: behind →
      ∀ v, ((d.after M before).act M a).view? = some v →
        ∀ l ∈ (d.after M before).replaced a, ¬ v.Lists l := by
  constructor
  · intro hcurrent before a behind hsplit v hv l hl
    refine hcurrent (before ++ [a]) behind (by rw [hsplit, List.append_assoc]; rfl) v ?_ l ?_
    · rw [after_concat]
      exact hv
    · rw [replacedBy_concat]
      exact List.mem_append_right _ hl
  · intro hspares before
    induction before using List.reverseRecOn with
    | nil => exact fun behind _ v _ l hl => absurd hl List.not_mem_nil
    | append_singleton before a ih =>
      intro behind hsplit v hv l hl
      rw [List.append_assoc] at hsplit
      rw [after_concat] at hv
      rw [replacedBy_concat] at hl
      rcases List.mem_append.1 hl with hl | hl
      · -- It was not listed before, and the view only loses lines.
        have hmem : a ∈ acts := hsplit ▸ List.mem_append_right _ List.mem_cons_self
        obtain ⟨v₀, hv₀, hlists, -⟩ :=
          lists_of_act (tidy_after h before) (hacts a hmem) hv
        exact fun hlisted => ih (a :: behind) hsplit v₀ hv₀ l hl (hlists l hlisted)
      · exact hspares before a behind hsplit v hv l hl

theorem listsOnce_after (h : d.documents.Tidy) (hacts : Searchless acts) (hv : d.view? = some v)
    (honce : v.ListsOnce) (hv' : (d.after M acts).view? = some v') : v'.ListsOnce := by
  induction acts using List.reverseRecOn generalizing v' with
  | nil =>
    cases Option.some.inj (hv.symm.trans hv')
    exact honce
  | append_singleton acts a ih =>
    rw [after_concat] at hv'
    have hmem : a ∈ acts ++ [a] := List.mem_append_right _ List.mem_cons_self
    obtain ⟨v₀, hv₀, -, hkeeps⟩ := lists_of_act (tidy_after h acts) (hacts a hmem) hv'
    exact hkeeps (ih (fun b hb => hacts b (List.mem_append_left _ hb)) hv₀)

/-- Where no match is listed twice, replacing that of a line spares the
others. -/
theorem sparesOthers_of_listsOnce (hv : d.view? = some v) (honce : v.ListsOnce) (a : Act) :
    d.SparesOthers a := by
  rintro line rfl v' hv' l hl
  cases Option.some.inj (hv.symm.trans hv')
  obtain ⟨f, hlisted, -⟩ := mem_replaced_replaceAt hl
  obtain ⟨hf, hlink⟩ := listed_eq_ok.1 hlisted
  cases Option.some.inj (hv.symm.trans (congrArg _ hf))
  exact honce.not_listsBeside hlink

theorem view?_showResults (hshow : d.showResults res = (.ok v, d')) :
    d'.view? = some v ∧ d'.documents = d.documents := by
  rw [showResults] at hshow
  split at hshow
  · cases hshow
  · cases hshow
    exact ⟨rfl, rfl⟩

/-- **When the view is current.** In every history after results were shown,
it lists a match that was replaced exactly if one was replaced together with
all others while it was listed, or from its own line while another line
listed it too. The latter cannot be where no match is listed twice. -/
theorem viewCurrent_iff (h : d.documents.Tidy) (hshow : d.showResults res = (.ok v, d'))
    (hacts : Searchless acts) :
    (d'.ViewCurrent M acts ↔ ∀ before a behind, acts = before ++ a :: behind →
      (d'.after M before).SparesListed a ∧ (d'.after M before).SparesOthers a) ∧
    (v.ListsOnce → (d'.ViewCurrent M acts ↔ ∀ before a behind, acts = before ++ a :: behind →
      (d'.after M before).SparesListed a)) := by
  obtain ⟨hv, hdocs⟩ := view?_showResults hshow
  have htidy : d'.documents.Tidy := hdocs ▸ h
  have hmain : d'.ViewCurrent M acts ↔ ∀ before a behind, acts = before ++ a :: behind →
      (d'.after M before).SparesListed a ∧ (d'.after M before).SparesOthers a := by
    rw [viewCurrent_iff_acts htidy hacts]
    refine forall₄_congr fun before a behind hsplit => ?_
    have hmem : a ∈ acts := hsplit ▸ List.mem_append_right _ List.mem_cons_self
    exact spares_iff (tidy_after htidy before) (hacts a hmem)
  refine ⟨hmain, fun honce => hmain.trans ?_⟩
  refine forall₄_congr fun before a behind hsplit => and_iff_left ?_
  have hbefore : Searchless before := fun b hb =>
    hacts b (hsplit ▸ List.mem_append_left _ hb)
  intro line heq v₀ hv₀
  exact sparesOthers_of_listsOnce hv₀ (listsOnce_after htidy hbefore hv honce hv₀) a line heq v₀ hv₀

/-! ## One match -/

/-- A desk at which the document is open. -/
def withDocument : Desk Unit := (plainDesk bare).withDocuments whileOpen

/-- The same when the match in the document was found. -/
def withMatch : Desk Unit := (withDocument.showResults found).2

theorem showResults_found : withDocument.showResults found = (.ok found.render, withMatch) := rfl

theorem tidy_withDocument : withDocument.documents.Tidy := tidy_whileOpen

/-- The match is on the second line. -/
theorem linkAt_found (i : Nat) :
    found.render.linkAt i = if i = 1 then some ⟨document, 1, 1, ⟨⟨0, 0⟩, ⟨0, 1⟩⟩⟩ else none := by
  have hlines : found.render.lines.length = 2 := by decide +kernel
  have hheader : found.render.linkAt 0 = none := by decide +kernel
  have hmatch : found.render.linkAt 1 = some ⟨document, 1, 1, ⟨⟨0, 0⟩, ⟨0, 1⟩⟩⟩ := by
    decide +kernel
  match i with
  | 0 => exact hheader
  | 1 => exact hmatch
  | n + 2 =>
    have hnone : found.render.lines[n + 2]? = none := List.getElem?_eq_none (by omega)
    rw [Find.View.linkAt, hnone]
    rfl

theorem listsOnce_found : found.render.ListsOnce := by
  intro i j l l' hi hj _
  rw [linkAt_found] at hi hj
  split at hi
  · split at hj
    · next hi1 hj1 => rw [hi1, hj1]
    · cases hj
  · cases hi

/-- The view is current when the match is replaced from its line. -/
theorem viewCurrent_iff_line :
    withDocument.documents.Tidy ∧
      withDocument.showResults found = (.ok found.render, withMatch) ∧
      Searchless [.replaceAt 1] ∧ found.render.ListsOnce ∧
      withMatch.answered (.replaceAt 1) = 1 ∧ withMatch.ViewCurrent idleMachine [.replaceAt 1] := by
  have hacts : Searchless [.replaceAt 1] := by
    intro a ha r active cancelled
    rw [List.mem_singleton.1 ha]
    exact Act.noConfusion
  have hone : withMatch.answered (.replaceAt 1) = 1 := by decide +kernel
  refine ⟨tidy_withDocument, showResults_found, hacts, listsOnce_found, hone, ?_⟩
  have hiff := (viewCurrent_iff (M := idleMachine) tidy_withDocument showResults_found hacts).2
    listsOnce_found
  refine hiff.2 fun before a behind hsplit hall => ?_
  -- The only act does not replace everything.
  have hmem : a ∈ [Act.replaceAt 1] := hsplit ▸ List.mem_append_right _ List.mem_cons_self
  rw [List.mem_singleton.1 hmem] at hall
  cases hall

/-- **The view is not current** when everything was replaced: it still lists
the match. -/
theorem not_viewCurrent_replaceAll :
    withDocument.showResults found = (.ok found.render, withMatch) ∧
      withMatch.answered .replaceAll = 1 ∧ ¬ withMatch.ViewCurrent idleMachine [.replaceAll] := by
  have hone : withMatch.answered .replaceAll = 1 := by decide +kernel
  refine ⟨showResults_found, hone, fun hcurrent => ?_⟩
  have hview : (withMatch.after idleMachine [.replaceAll]).view? = some found.render :=
    view?_replaceAll withMatch
  have hreplaced : withMatch.replacedBy idleMachine [.replaceAll] =
      [⟨document, 0, 1, ⟨⟨0, 0⟩, ⟨0, 1⟩⟩⟩] := by decide +kernel
  refine hcurrent [.replaceAll] [] rfl found.render hview _
    (hreplaced ▸ List.mem_singleton_self _) ?_
  exact ⟨1, _, (linkAt_found 1).trans (if_pos rfl), Path.beq_refl document, rfl⟩

end Desk
end CodeDesk
