import CodeDesk.Proofs.Desk.Session
import CodeDesk.Proofs.Find.Captured
import Mathlib.Data.List.Induction
/-!
# Kept replacements — which of them reach their files

A replacement that is counted reaches its file when everything is saved, if
the buffer it was made in is an open document with unsaved changes by then
(`InHand`). A single match is replaced in an open buffer. All of them are
replaced in the buffers that the search has found, and nobody looks whether
these are still open. So the replacements that are lost are those in buffers
that were closed between the search and the replacing (`inHand_iff`).
-/

namespace CodeDesk

/-! ## Saving in turn -/

/-- A buffer that is saved among others is saved after those in front of
it. -/
theorem OpenList.saveEach_turn {σ : Type} {save : BufferId → σ → Except DocumentError Unit × σ}
    {after : BufferId → σ → σ} {front back : List BufferId} {id : BufferId} {x : σ}
    (h : (saveEach save after (front ++ id :: back) x).1 = .ok ()) :
    ∃ turn, saveEach save after front x = (.ok (), front, turn) ∧ (save id turn).1 = .ok () := by
  rcases allSaved_or_exists_failure save after (front ++ id :: back) x with
    hall | ⟨front', j, back', e, y, hids, hfront, hfail⟩
  · exact ⟨_, saveEach_eq_ok hall.of_append, hall front id back rfl⟩
  · rw [hids, saveEach_eq_error hfront hfail back'] at h
    cases h

namespace Store

variable {s : Store} {id : BufferId} {b : Buffer}

/-- A buffer that is saved is written to its file. -/
theorem write_of_save (hb : s.buffer? id = some b) (h : (s.save id).1 = .ok ()) :
    ∃ disk, s.disk.write (s.pathOf id) (Utf8.encode (s.textOf id)) = .ok disk := by
  rw [save, hb] at h
  rw [pathOf_eq hb, textOf_eq hb]
  change (b.save s.disk).1 = .ok () at h
  obtain ⟨e, hfail⟩ | ⟨disk, -, -, hwrite, -⟩ := Buffer.saveBy_cases .ofDisk s.disk b
  · rw [Buffer.save, hfail] at h
    cases h
  · exact ⟨disk, hwrite⟩

end Store

namespace Desk

variable {σ : Type} {M : Machine} {d : Desk σ} {id : BufferId} {a : Act}
  {res : Find.Results} {f : Find.FileResult}

/-- Saving everything writes the text of a buffer to its file, when its turn
comes. -/
def Writes (M : Machine) (p : Command.Prompter) (d : Desk σ) (id : BufferId) : Prop :=
  ∃ front turn disk,
    front ++ [id] <+: (d.onDocuments Documents.dirty).1 ∧
    d.saveInTurn M p front = (.ok (), front, turn) ∧
    turn.disk.write (d.documents.store.pathOf id) (Utf8.encode (d.documents.store.textOf id)) =
      .ok disk

theorem textOf_saveInTurn (p : Command.Prompter) (ids : List BufferId) (d : Desk σ)
    (id : BufferId) :
    (d.saveInTurn M p ids).2.2.documents.store.textOf id = d.documents.store.textOf id := by
  have hsave (j : BufferId) (d' : Desk σ) :
      (saveBuffer j d').2.documents.store.textOf id = d'.documents.store.textOf id :=
    d'.documents.store.textOf_save j id
  have hafter (j : BufferId) (d' : Desk σ) :
      (d'.postSave M j p).2.documents.store.textOf id = d'.documents.store.textOf id := by
    obtain ⟨r, hr⟩ := postSave_eq M d' j p
    rw [hr]
    rfl
  exact OpenList.saveEach_keeps
    (P := fun d' => d'.documents.store.textOf id = d.documents.store.textOf id)
    (fun j d' hd => (hsave j d').trans hd) (fun j d' hd => (hafter j d').trans hd) ids rfl

/-- **Everything is written** that is open and has unsaved changes. -/
theorem writes_of_saveAll (h : d.documents.Tidy) (hid : id ∈ d.openList.ids)
    (hdirty : d.documents.store.isDirty id) {p : Command.Prompter} {n : Nat}
    (hsave : (d.saveAll M p).1 = .ok n) : d.Writes M p id := by
  obtain ⟨front, back, hids⟩ := List.append_of_mem (List.mem_filter.2 ⟨hid, hdirty⟩)
  have hall : (d.saveInTurn M p (front ++ id :: back)).1 = .ok () := by
    rw [saveAll_eq h, hids] at hsave
    cases hout : (d.saveInTurn M p (front ++ id :: back)).1 with
    | ok u => rfl
    | error e =>
      dsimp only at hsave
      rw [hout] at hsave
      cases hsave
  obtain ⟨turn, hfront, hturn⟩ := OpenList.saveEach_turn hall
  -- Those that are saved in front of it leave its path and its text alone.
  have hkeeps := (continues_saveInTurn (M := M) h p front).documents.keeps
  have htext := textOf_saveInTurn (M := M) p front d id
  rw [saveInTurn, hfront] at hkeeps htext
  obtain ⟨b, hb⟩ := Store.exists_buffer? (h.lt hid)
  obtain ⟨b', hb', -⟩ := hkeeps id b hb
  obtain ⟨disk, hwrite⟩ := Store.write_of_save hb' hturn
  rw [hkeeps.pathOf (h.lt hid), htext] at hwrite
  refine ⟨front, turn, disk, ?_, hfront, hwrite⟩
  rw [onDocuments_dirty h, hids]
  exact ⟨back, by rw [List.append_assoc, List.singleton_append]⟩

/-! ## Replacements that are counted -/

/-- How many replacements the answer of an act counts. -/
def answered (d : Desk σ) : Act → Nat
  | .replaceAt line =>
    match (d.replaceAt line).1 with
    | .ok true => 1
    | _ => 0
  | .replaceAll =>
    match d.replaceAll.1 with
    | .ok n => n
    | .error _ => 0
  | _ => 0

/-- The buffers in which these replacements were made, one for each. -/
def counted (d : Desk σ) : Act → List BufferId
  | .replaceAt line =>
    match (d.replaceAt line).1, d.listed line with
    | .ok true, .ok (_, l) =>
      match (bufferOf d.documents l.path).1 with
      | .ok id => [id]
      | .error _ => []
    | _, _ => []
  | .replaceAll =>
    match d.replaceAll.1, d.findings with
    | .ok _, some f => Find.Replacer.targets opener f.results.files f.replacer d.documents
    | _, _ => []
  | _ => []

/-- A match is replaced in the buffer of its file. -/
theorem replaceAt_inv {line : Nat} {yes : Bool} (h : (d.replaceAt line).1 = .ok yes) :
    ∃ f l id replacer view s, d.listed line = .ok (f, l) ∧
      (bufferOf d.documents l.path).1 = .ok id ∧
      f.replacer.replaceAt f.view line id (bufferOf d.documents l.path).2.store =
        .ok (yes, replacer, view, s) ∧
      (d.replaceAt line).2.documents = { (bufferOf d.documents l.path).2 with store := s } := by
  rw [replaceAt] at h ⊢
  split at h
  · cases h
  · next f l hlisted =>
    split at h
    · cases h
    · next id docs hbuffer =>
      split at h
      · cases h
      · next replaced replacer view s hreplace =>
        cases h
        refine ⟨f, l, id, replacer, view, s, hlisted, ?_⟩
        rw [hbuffer]
        exact ⟨rfl, hreplace, rfl⟩

/-- Everything is replaced file by file. -/
theorem replaceAll_eq {f : Findings} (h : d.findings = some f) :
    let out := Find.Replacer.replaceFiles opener f.results.files f.replacer d.documents
    d.replaceAll.1 = (out.2.1.map fun _ => out.1).mapError .find ∧
      d.replaceAll.2.documents = out.2.2.2 := by
  rw [replaceAll, h]
  exact ⟨rfl, rfl⟩

/-- **There is one buffer for each replacement that is counted.** -/
theorem length_counted (d : Desk σ) (a : Act) : (d.counted a).length = d.answered a := by
  cases a with
  | replaceAt line =>
    rw [counted, answered]
    cases hanswer : (d.replaceAt line).1 with
    | error e => rfl
    | ok yes =>
      obtain ⟨f, l, id, replacer, view, s, hlisted, hbuffer, -⟩ := replaceAt_inv hanswer
      cases yes with
      | false => rfl
      | true => simp only [hlisted, hbuffer, List.length_singleton]
  | replaceAll =>
    rw [counted, answered]
    cases hfindings : d.findings with
    | none =>
      rw [replaceAll, hfindings]
      rfl
    | some f =>
      rw [(replaceAll_eq hfindings).1]
      cases (Find.Replacer.replaceFiles opener f.results.files f.replacer d.documents).2.1 with
      | error e => rfl
      | ok u => exact Find.Replacer.length_targets opener f.results.files f.replacer d.documents
  | _ => rfl

/-- **No other text is changed** by replacements that are counted. -/
theorem textOf_act (M : Machine) (h : d.documents.Tidy) (hcounts : d.answered a ≠ 0)
    (hid : id < d.buffers.length) (hnot : id ∉ d.counted a) :
    (d.act M a).documents.store.textOf id = d.documents.store.textOf id := by
  cases a with
  | replaceAt line =>
    cases hanswer : (d.replaceAt line).1 with
    | error e =>
      rw [answered, hanswer] at hcounts
      exact absurd rfl hcounts
    | ok yes =>
      obtain ⟨f, l, j, replacer, view, s, hlisted, hbuffer, hreplace, hafter⟩ :=
        replaceAt_inv hanswer
      have hne : yes → id ≠ j := by
        rintro rfl heq
        simp only [counted, hanswer, hlisted, hbuffer, heq, List.mem_singleton] at hnot
        exact hnot trivial
      rw [act, hafter]
      have hreplaced := (Find.Replacer.replaceAt_spec hreplace).2.2 id hne
      exact hreplaced.trans (textOf_bufferOf h l.path hid)
  | replaceAll =>
    cases hfindings : d.findings with
    | none =>
      rw [answered, replaceAll, hfindings] at hcounts
      exact absurd rfl hcounts
    | some f =>
      cases hanswer : d.replaceAll.1 with
      | error e =>
        rw [answered, hanswer] at hcounts
        exact absurd rfl hcounts
      | ok n =>
        simp only [counted, hanswer, hfindings] at hnot
        rw [act, (replaceAll_eq hfindings).2]
        exact Find.Replacer.textOf_replaceFiles opener_givesOpen h hid hnot
  | _ => exact absurd rfl hcounts

/-- A single match is replaced in an open document. -/
theorem counted_replaceAt (h : d.documents.Tidy) {line : Nat}
    (hid : id ∈ d.counted (.replaceAt line)) :
    (d.replaceAt line).2.documents.store.isDirty id ∧ id ∈ (d.replaceAt line).2.openList.ids := by
  cases hanswer : (d.replaceAt line).1 with
  | error e =>
    simp only [counted, hanswer] at hid
    cases hid
  | ok yes =>
    obtain ⟨f, l, j, replacer, view, s, hlisted, hbuffer, hreplace, hafter⟩ := replaceAt_inv hanswer
    cases yes with
    | false =>
      simp only [counted, hanswer] at hid
      cases hid
    | true =>
      simp only [counted, hanswer, hlisted, hbuffer, List.mem_singleton] at hid
      have hlist : (d.replaceAt line).2.openList = (bufferOf d.documents l.path).2.list :=
        congrArg Documents.list hafter
      rw [hafter, hlist, hid]
      exact ⟨(Find.Replacer.replaceAt_spec hreplace).2.1 rfl,
        (bufferOf_spec h l.path).2 j hbuffer⟩

/-- **Everything is replaced** in open documents and in buffers that the
search has found. -/
theorem counted_replaceAll (h : d.documents.Tidy) (hid : id ∈ d.counted .replaceAll) :
    d.replaceAll.2.documents.store.isDirty id ∧
      (id ∈ d.replaceAll.2.openList.ids ∨ ∃ res, d.findings.map (·.results) = some res ∧
        ∃ f ∈ res.files, f.buffer = some id) := by
  rw [counted] at hid
  split at hid
  · next n f hanswer hfindings =>
    obtain ⟨hdirty, hplace⟩ := (Find.Replacer.replaceFiles_spec opener_givesOpen h f.results.files
      f.replacer).2 id hid
    have hafter := (replaceAll_eq hfindings).2
    rw [← hafter] at hdirty hplace
    refine ⟨hdirty, hplace.imp_right fun hfile => ?_⟩
    exact ⟨f.results, by rw [hfindings]; rfl, hfile⟩
  · cases hid

/-! ## Replacements in hand -/

/-- A buffer is an open document with unsaved changes, and saving everything
writes it to its file. -/
structure InHand (M : Machine) (d : Desk σ) (id : BufferId) : Prop where
  /-- It was not closed. -/
  attached : d.documents.store.isAttached id
  /-- It has unsaved changes. -/
  dirty : d.documents.store.isDirty id
  /-- It is in the list. -/
  listed : id ∈ d.documents.buffers.1
  /-- Saving everything, if it succeeds, writes it. -/
  written : ∀ p n, (d.saveAll M p).1 = .ok n → d.Writes M p id

/-- What has unsaved changes is in hand exactly if it is open. -/
theorem inHand_iff_mem (h : d.documents.Tidy) (hdirty : d.documents.store.isDirty id) :
    d.InHand M id ↔ id ∈ d.openList.ids := by
  have hbuffers : d.documents.buffers.1 = d.openList.ids := congrArg Prod.fst h.buffers
  constructor
  · intro hhand
    rw [← hbuffers]
    exact hhand.listed
  · intro hid
    refine ⟨h.attached id hid, hdirty, ?_, fun p n hsave => writes_of_saveAll h hid hdirty hsave⟩
    rw [hbuffers]
    exact hid

/-! ## Closed buffers -/

/-- A buffer was closed in the course of a list of acts. -/
def ClosedIn (M : Machine) (d : Desk σ) (acts : List Act) (id : BufferId) : Prop :=
  ∃ before behind, acts = before ++ .closeFile id :: behind ∧
    id < (d.after M before).buffers.length

/-- A buffer is not open any more. -/
def Gone (d : Desk σ) (id : BufferId) : Prop :=
  id < d.buffers.length ∧ d.documents.store.isAttached id = false

theorem gone_closeFile (d : Desk σ) (hid : id < d.buffers.length) (j : BufferId)
    (hgone : j = id ∨ d.documents.store.isAttached id = false) : (d.closeFile j).Gone id := by
  obtain ⟨b, hb⟩ := Store.exists_buffer? (s := d.documents.store) hid
  constructor
  · have hb' := d.documents.store.buffer?_close j id
    rw [hb] at hb'
    split at hb'
    · exact Store.lt_of_buffer? hb'
    · exact Store.lt_of_buffer? hb'
  · refine (d.documents.store.isAttached_close j id).trans ?_
    rcases hgone with rfl | hdetached
    · simp
    · rw [hdetached, Bool.and_false]

/-- What is closed stays closed. -/
theorem gone_act (h : d.documents.Tidy) (hgone : d.Gone id) (a : Act) : (d.act M a).Gone id := by
  by_cases hclose : ∃ j, a = .closeFile j
  · obtain ⟨j, rfl⟩ := hclose
    exact d.gone_closeFile hgone.1 j (.inr hgone.2)
  · have hkeeps := (grows_act (M := M) h fun j heq => hclose ⟨j, heq⟩).keeps
    exact ⟨Nat.lt_of_lt_of_le hgone.1 hkeeps.length_le, (hkeeps.isAttached hgone.1).trans hgone.2⟩

theorem gone_after (h : d.documents.Tidy) (hgone : d.Gone id) (acts : List Act) :
    (d.after M acts).Gone id := by
  induction acts generalizing d with
  | nil => exact hgone
  | cons a acts ih => exact ih (tidy_act h a) (gone_act h hgone a)

theorem ClosedIn.gone (h : d.documents.Tidy) {acts : List Act} (hclosed : d.ClosedIn M acts id) :
    (d.after M acts).Gone id := by
  obtain ⟨before, behind, rfl, hid⟩ := hclosed
  rw [after, List.foldl_append]
  exact gone_after (tidy_closeFile (tidy_after h before) id) (gone_closeFile _ hid id (.inl rfl))
    behind

theorem ClosedIn.concat {acts : List Act} (h : d.ClosedIn M acts id) (a : Act) :
    d.ClosedIn M (acts ++ [a]) id := by
  obtain ⟨before, behind, rfl, hid⟩ := h
  exact ⟨before, behind ++ [a], by rw [List.append_assoc, List.cons_append], hid⟩

/-! ## What a search has found -/

/-- The results stay until the next search. -/
theorem results_act (h : d.documents.Tidy)
    (hfind : ∀ r active cancelled, a ≠ .find r active cancelled) :
    (d.act M a).findings.map (·.results) = d.findings.map (·.results) := by
  cases a with
  | openFile p choice =>
    rw [act, openFile]
    split <;> rfl
  | closeFile j => rfl
  | _ =>
    refine (continues_act h ?_ ?_ hfind).results
    · exact fun _ _ => Act.noConfusion
    · exact fun _ => Act.noConfusion

/-- Only closing takes a document out of the list. -/
theorem stays_act (h : d.documents.Tidy) (hid : id ∈ d.openList.ids) (hne : a ≠ .closeFile id) :
    id ∈ (d.act M a).openList.ids := by
  by_cases hclose : ∃ j, a = .closeFile j
  · obtain ⟨j, rfl⟩ := hclose
    exact List.mem_filter.2 ⟨hid, bne_iff_ne.2 fun heq => hne (heq ▸ rfl)⟩
  · exact (grows_act (M := M) h fun j heq => hclose ⟨j, heq⟩).stays id hid

/-- What a search finds, it finds in the files and the open documents. -/
theorem search_inv (h : d.documents.Tidy) {r : Find.Request} {active : Option Path}
    {cancelled : Bool} (hsearch : (d.search r active cancelled).1 = .ok res) :
    ∃ tree, Find.Node.scan d.documents.store.disk d.settings.isDirOpen d.settings.root = .ok tree ∧
      Find.find d.documents.store r (d.scope active tree) cancelled = .ok res := by
  rw [search_eq h] at hsearch
  cases hscan : Find.Node.scan d.documents.store.disk d.settings.isDirOpen d.settings.root with
  | error e =>
    rw [hscan] at hsearch
    cases hsearch
  | ok tree =>
    refine ⟨tree, rfl, ?_⟩
    rw [hscan] at hsearch
    cases hfind : Find.find d.documents.store r (d.scope active tree) cancelled with
    | error e =>
      simp only [Except.mapError, Except.bind, hfind] at hsearch
      cases hsearch
    | ok found =>
      simp only [Except.mapError, Except.bind, hfind, Except.ok.injEq] at hsearch
      rw [hsearch]

/-- **A search finds open buffers**, if it does not leave the results as they
are. -/
theorem find_results (h : d.documents.Tidy) {r : Find.Request} {active : Option Path}
    {cancelled : Bool}
    (hres : (d.find r active cancelled).2.findings.map (·.results) = some res) :
    d.findings.map (·.results) = some res ∨
      ∀ f ∈ res.files, ∀ id, f.buffer = some id → id ∈ d.openList.ids := by
  have hsame := search_documents h r active cancelled
  rw [find] at hres
  split at hres
  · next heq =>
    rw [heq] at hsame
    rw [← hsame]
    exact .inl hres
  · next results d' heq =>
    have hsearch := congrArg Prod.fst heq
    rw [heq] at hsame
    rw [showResults] at hres
    split at hres
    · rw [← hsame]
      exact .inl hres
    · cases hres
      obtain ⟨tree, hscan, hfind⟩ := search_inv h hsearch
      exact .inr fun f hf id hid => Find.mem_of_captured hscan hfind hf hid

/-- **The buffers in the results** are open until they are closed. -/
theorem mem_or_closedIn (M : Machine) (s : Settings.ProjectSettings) (w : Supplies σ) (disk : Disk)
    (acts : List Act)
    (hres : ((ofSettings s w disk).after M acts).findings.map (·.results) = some res)
    (hf : f ∈ res.files) (hid : f.buffer = some id) :
    id ∈ ((ofSettings s w disk).after M acts).openList.ids ∨
      (ofSettings s w disk).ClosedIn M acts id := by
  have htidy : ∀ acts, ((ofSettings s w disk).after M acts).documents.Tidy :=
    tidy_after (tidy_ofSettings s w disk)
  induction acts using List.reverseRecOn with
  | nil => cases hres
  | append_singleton acts a ih =>
    rw [after_concat] at hres ⊢
    -- The results are older than the last act, or it found them among the open buffers.
    have hbefore : id ∈ ((ofSettings s w disk).after M acts).openList.ids ∨
        (ofSettings s w disk).ClosedIn M acts id := by
      by_cases hfind : ∃ r active cancelled, a = .find r active cancelled
      · obtain ⟨r, active, cancelled, rfl⟩ := hfind
        rcases find_results (htidy acts) hres with hsame | hopen
        · exact ih hsame
        · exact .inl (hopen f hf id hid)
      · rw [results_act (htidy acts) fun r active cancelled heq =>
          hfind ⟨r, active, cancelled, heq⟩] at hres
        exact ih hres
    rcases hbefore with hopen | hclosed
    · by_cases hclose : a = .closeFile id
      · exact .inr ⟨acts, [], by rw [hclose], (htidy acts).lt hopen⟩
      · exact .inl (stays_act (htidy acts) hopen hclose)
    · exact .inr (hclosed.concat a)

/-- **A replacement that is counted is in hand** exactly if the buffer it was
made in was not closed before, and that of a single match always is. The
buffers are as many as the answer counts, and the only ones whose texts are
changed. -/
theorem inHand_iff (M : Machine) (s : Settings.ProjectSettings) (w : Supplies σ) (disk : Disk)
    (acts : List Act) (a : Act) :
    let d := (ofSettings s w disk).after M acts
    let d' := d.act M a
    (d.counted a).length = d.answered a ∧
      (d.answered a ≠ 0 → ∀ id < d.buffers.length, id ∉ d.counted a →
        d'.documents.store.textOf id = d.documents.store.textOf id) ∧
      ∀ id ∈ d.counted a,
        (d'.InHand M id ↔ ¬ (ofSettings s w disk).ClosedIn M acts id) ∧
        ((∃ line, a = .replaceAt line) → d'.InHand M id) := by
  intro d d'
  have htidy : d.documents.Tidy := tidy_after (tidy_ofSettings s w disk) acts
  have hafter : d'.documents.Tidy := tidy_act htidy a
  refine ⟨length_counted d a, fun hcounts id hid hnot => textOf_act M htidy hcounts hid hnot,
    fun id hid => ?_⟩
  -- A closed buffer is not in the list behind the act either.
  have hgone : id ∈ d'.openList.ids → ¬ (ofSettings s w disk).ClosedIn M acts id := by
    intro hopen hclosed
    have hdetached : d'.documents.store.isAttached id = false :=
      (gone_act htidy (hclosed.gone (tidy_ofSettings s w disk)) a).2
    rw [hafter.attached id hopen] at hdetached
    cases hdetached
  cases a with
  | replaceAt line =>
    obtain ⟨hdirty, hopen⟩ := counted_replaceAt htidy hid
    have hhand := (inHand_iff_mem (M := M) hafter hdirty).2 hopen
    exact ⟨iff_of_true hhand (hgone hopen), fun _ => hhand⟩
  | replaceAll =>
    obtain ⟨hdirty, hplace⟩ := counted_replaceAll htidy hid
    refine ⟨(inHand_iff_mem hafter hdirty).trans ⟨hgone, fun hnot => ?_⟩, ?_⟩
    · rcases hplace with hopen | ⟨res, hres, f, hf, hbuffer⟩
      · exact hopen
      · rcases mem_or_closedIn M s w disk acts hres hf hbuffer with hopen | hclosed
        · exact stays_act htidy hopen Act.noConfusion
        · exact absurd hclosed hnot
    · rintro ⟨line, heq⟩
      cases heq
  | _ => cases hid

/-! ## A replacement that is lost -/

/-- A document without a sidecar. -/
def bare : Disk := .oneFile [97] 0 1

/-- A search for the text of the document. -/
def request : Find.Request := ⟨"a", "b", false, false, .activeFile, []⟩

/-- What it finds. -/
def found : Find.Results := ⟨request, [⟨document, 1, [⟨⟨0, 0⟩, ⟨0, 1⟩⟩], ["a"], some 0⟩]⟩

/-- The document is opened and searched, and it is closed. -/
def searched : List Act :=
  [.openFile document .discard, .find request (some document) false, .closeFile 0]

/-- The documents while it is open. -/
def whileOpen : Documents := ⟨⟨bare, [freshBuffer document [97] 0]⟩, ⟨[0]⟩⟩

/-- And when it is closed. -/
def whenClosed : Documents :=
  ⟨⟨bare, [{ freshBuffer document [97] 0 with attached := false }]⟩, ⟨[]⟩⟩

theorem tidy_whileOpen : whileOpen.Tidy := ⟨by decide, by decide⟩

theorem documents_opened :
    ((plainDesk bare).openFile document .discard).2.documents = whileOpen := by
  have hentry : bare.entry true document = .ok (.file [97] 0 Disk.plainMode) :=
    Disk.entry_oneFile [97] 0 1
  have hb : Buffer.ofFile (Documents.ofDisk bare).store.disk document =
      .ok (freshBuffer document [97] 0) := ofFile_eq hentry
  have hnone : bare.entryAt? ["#a#"] = none := rfl
  have hlocate : bare.locate true sidecar = .ok ["#a#"] :=
    Disk.locate_inRoot (by decide +kernel) fun _ target hlink =>
      Option.some_ne_none _ (hlink.symm.trans hnone)
  have hsidecar : (freshBuffer document [97] 0).hasSidecar bare = false := by
    have hpath : sidecarOf document = sidecar := by decide
    simp only [Buffer.hasSidecar, freshBuffer, hpath, Disk.isFile, Disk.entry, hlocate, hnone,
      Bool.and_false]
  have hreconcile : (freshBuffer document [97] 0).reconcile (Documents.ofDisk bare).store.disk
      .discard = .ok (.nothing, bare) := by
    rw [Buffer.reconcile.eq_def]
    exact if_neg (Bool.eq_false_iff.1 hsidecar)
  rw [openFile_plainDesk, openNew_eq _ hb, hreconcile]
  rfl

theorem withDocuments_openFile (d : Desk σ) (p : Path) (choice : SidecarChoice) :
    d.withDocuments (d.openFile p choice).2.documents = (d.openFile p choice).2 := by
  rw [openFile]
  split <;> rfl

/-- The desk goes by what a search has found. -/
theorem findings_find (h : d.documents.Tidy) {r : Find.Request} {active : Option Path}
    {cancelled : Bool} {tree : Find.Node} {replacer : Find.Replacer}
    (hscan : Find.Node.scan d.documents.store.disk d.settings.isDirOpen d.settings.root = .ok tree)
    (hfind : Find.find d.documents.store r (d.scope active tree) cancelled = .ok res)
    (hreplacer : Find.Replacer.ofResults res = .ok replacer) :
    (d.find r active cancelled).2.findings = some ⟨res, res.render, replacer⟩ := by
  have hsearch : d.search r active cancelled = (.ok res, d) := by
    simp only [search_eq h, hscan, Except.mapError, Except.bind, hfind]
  rw [find, hsearch]
  dsimp only
  rw [showResults, hreplacer]

theorem scan_root (disk : Disk) (isOpen : Path → Bool) :
    ∃ tree, Find.Node.scan disk isOpen ⟨"/"⟩ = .ok tree := by
  have hplain : (⟨"/"⟩ : Path).text ≠ "" ∧ '\x00' ∉ (⟨"/"⟩ : Path).text.toList ∧
      (⟨"/"⟩ : Path).text.utf8ByteSize ≤ Disk.pathLimit ∧ (⟨"/"⟩ : Path).isAbsolute := by
    decide +kernel
  have hsegs : Disk.segmentsOf "/" = ["", ""] := by decide +kernel
  have hroot : disk.entryAt? [] = some .dir := rfl
  have hlocate : disk.locate true ⟨"/"⟩ = .ok [] := by
    simp [Disk.locate, hplain, hsegs, Disk.walk, hroot, Nat.not_lt.2]
  exact ⟨_, by simp only [Find.Node.scan, Disk.list, hlocate, hroot]; rfl⟩

/-- The pending match. -/
def pending : Find.Replacer :=
  ⟨request, Regex.literal false "a", [(document, [⟨⟨⟨0, 0⟩, ⟨0, 1⟩⟩, some ⟨⟨0, 0⟩, ⟨0, 1⟩⟩⟩])]⟩

theorem find_request (tree : Option Find.Node) :
    Find.find whileOpen.store request
      ⟨⟨"/"⟩, tree, some document, [0], Find.Config.standard⟩ false = .ok found := by
  have hfile : Find.searchFile whileOpen.store (Regex.literal false "a") request
      Find.Config.standard ⟨document, some 0⟩ =
        some ⟨document, 1, [⟨⟨0, 0⟩, ⟨0, 1⟩⟩], ["a"], some 0⟩ := by decide +kernel
  have hcandidates : Find.candidates whileOpen.store request
      ⟨⟨"/"⟩, tree, some document, [0], Find.Config.standard⟩ = .ok [⟨document, some 0⟩] := rfl
  have hprogram : request.program = .ok (Regex.literal false "a") := rfl
  rw [Find.find, hprogram, hcandidates]
  simp [hfile, Find.rank, found]

theorem findings_searched :
    ((plainDesk bare).after idleMachine searched).findings =
      some ⟨found, found.render, pending⟩ := by
  have hopened := withDocuments_openFile (plainDesk bare) document .discard
  rw [documents_opened] at hopened
  show ((((plainDesk bare).openFile document .discard).2.find request (some document)
    false).2.closeFile 0).findings = _
  rw [← hopened]
  obtain ⟨tree, hscan⟩ := scan_root bare
    ((plainDesk bare).withDocuments whileOpen).settings.isDirOpen
  have htidy : ((plainDesk bare).withDocuments whileOpen).documents.Tidy := tidy_whileOpen
  exact findings_find htidy hscan (find_request _) rfl

theorem documents_searched :
    ((plainDesk bare).after idleMachine searched).documents = whenClosed := by
  show ((((plainDesk bare).openFile document .discard).2.find request (some document)
    false).2.closeFile 0).documents = _
  have htidy : ((plainDesk bare).openFile document .discard).2.documents.Tidy :=
    documents_opened ▸ tidy_whileOpen
  rw [closeFile, documents_withDocuments, documents_find htidy, documents_opened]
  rfl

/-- **A replacement is lost** if everything is replaced after the document
was closed. -/
theorem not_inHand_closed :
    0 ∈ ((plainDesk bare).after idleMachine searched).counted .replaceAll ∧
      ¬ ((plainDesk bare).after idleMachine (searched ++ [.replaceAll])).InHand
        idleMachine 0 := by
  constructor
  · have hrun :
        (Find.Replacer.replaceFiles opener found.files pending whenClosed).2.1 = .ok () := by
      decide +kernel
    have htargets : Find.Replacer.targets opener found.files pending whenClosed = [0] := by
      decide +kernel
    have hanswer := (replaceAll_eq findings_searched).1
    rw [documents_searched, hrun] at hanswer
    rw [counted, hanswer, findings_searched, documents_searched]
    show 0 ∈ Find.Replacer.targets opener found.files pending whenClosed
    rw [htargets]
    exact List.mem_singleton_self 0
  · intro hhand
    have htidy : ((plainDesk bare).after idleMachine searched).documents.Tidy :=
      tidy_after (tidy_ofSettings _ _ bare) searched
    have hgone : ((plainDesk bare).after idleMachine searched).Gone 0 := by
      show 0 < ((plainDesk bare).after idleMachine searched).documents.store.buffers.length ∧ _
      rw [documents_searched]
      exact ⟨Nat.one_pos, rfl⟩
    have hdetached := (gone_act (M := idleMachine) htidy hgone .replaceAll).2
    rw [after_concat] at hhand
    rw [hhand.attached] at hdetached
    cases hdetached

end Desk
end CodeDesk
