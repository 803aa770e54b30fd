import CodeDesk.Desk.Searching
import CodeDesk.Proofs.Files.Stay
import CodeDesk.Proofs.Find.Targets
/-!
# Sessions — a desk in use

What a user does with the documents of a desk, and what goes on meanwhile,
as one list of acts. Whatever the acts, the list of the open documents is
tidy (`tidy_after`). Every act keeps the documents but a closing
(`grows_act`), and every act keeps their paths apart but the opening of a
file whose sidecar is opened along with it (`openFile_spec`).
-/

namespace CodeDesk
namespace Desk

variable {σ : Type} {M : Machine} {d d' d'' : Desk σ}

/-- Something that is done at a desk. -/
inductive Act where
  /-- A file is opened, or brought to the front. -/
  | openFile (p : Path) (choice : SidecarChoice)
  /-- A document is closed. -/
  | closeFile (id : BufferId)
  /-- A document is saved. -/
  | saveFile (id : BufferId) (p : Command.Prompter)
  /-- Every document with unsaved changes is saved. -/
  | saveAll (p : Command.Prompter)
  /-- The unsaved changes of a document are kept in its sidecar. -/
  | autosave (id : BufferId)
  /-- The text of a document is changed. -/
  | edit (id : BufferId) (text : String)
  /-- The project is searched. -/
  | find (r : Find.Request) (active : Option Path) (cancelled : Bool)
  /-- The match of a line is opened. -/
  | openResult (line : Nat)
  /-- The match of a line is replaced. -/
  | replaceAt (line : Nat)
  /-- Every pending match is replaced. -/
  | replaceAll
  /-- Programs have run, and may have changed the disk. -/
  | meanwhile (r : Command.Runner)

/-- The desk after an act. -/
def act (M : Machine) (d : Desk σ) : Act → Desk σ
  | .openFile p choice => (d.openFile p choice).2
  | .closeFile id => d.closeFile id
  | .saveFile id p => (d.saveFile M id p).2
  | .saveAll p => (d.saveAll M p).2
  | .autosave id =>
    match d.documents.store.autosave id with
    | .ok (_, s) => d.withStore s
    | .error _ => d
  | .edit id text => d.withStore (d.documents.store.setText id text)
  | .find r active cancelled => (d.find r active cancelled).2
  | .openResult line => (d.openResult line).2
  | .replaceAt line => (d.replaceAt line).2
  | .replaceAll => d.replaceAll.2
  | .meanwhile r => d.withRunner r

/-- The desk after a list of acts. -/
def after (M : Machine) (d : Desk σ) (acts : List Act) : Desk σ := acts.foldl (act M) d

theorem after_concat (M : Machine) (d : Desk σ) (acts : List Act) (a : Act) :
    d.after M (acts ++ [a]) = (d.after M acts).act M a := by
  rw [after, List.foldl_append]
  rfl

/-! ## Documents come and go -/

theorem documents_withDocuments (d : Desk σ) (docs : Documents) :
    (d.withDocuments docs).documents = docs := rfl

/-- The desk goes on: its buffers are kept, the paths of the open ones stay
apart, and the results of the last search stay what they are. -/
structure Continues (d d' : Desk σ) : Prop where
  /-- The documents stay, and apart. -/
  documents : d.documents.GrowsApart d'.documents
  /-- The results stay. -/
  results : d'.findings.map (·.results) = d.findings.map (·.results)

theorem Continues.trans (h : d.Continues d') (h' : d'.Continues d'') : d.Continues d'' :=
  ⟨h.documents.trans h'.documents, h'.results.trans h.results⟩

theorem continues_withStore (h : d.documents.Tidy) {s : Store} (hs : d.documents.store.Keeps s) :
    d.Continues (d.withStore s) :=
  ⟨h.growsApart_store hs, rfl⟩

theorem continues_withRunner (h : d.documents.Tidy) (r : Command.Runner) :
    d.Continues (d.withRunner r) :=
  ⟨h.growsApart_store (.of_buffers rfl), rfl⟩

theorem continues_withDocuments {docs : Documents} (h : d.documents.GrowsApart docs) :
    d.Continues (d.withDocuments docs) :=
  ⟨h, rfl⟩

/-- Commands that run after a file was saved leave everything at the desk
alone but what they run on. -/
theorem runHooks_eq (M : Machine) (p : Command.Prompter) (file : Path) (labels : List String)
    (d : Desk σ) : ∃ r, (runHooks M p file labels d).2 = d.withRunner r := by
  induction labels generalizing d with
  | nil => exact ⟨d.runner, rfl⟩
  | cons label labels ih =>
    rw [runHooks]
    split
    · exact ih d
    · dsimp only
      split
      · obtain ⟨r, hr⟩ := ih (d.withRunner _)
        exact ⟨r, hr⟩
      · obtain ⟨r, hr⟩ := ih (d.withRunner _)
        exact ⟨r, hr⟩

theorem postSave_eq (M : Machine) (d : Desk σ) (id : BufferId) (p : Command.Prompter) :
    ∃ r, (d.postSave M id p).2 = d.withRunner r := by
  unfold postSave
  split
  · exact ⟨d.runner, rfl⟩
  · split
    · exact ⟨d.runner, rfl⟩
    · exact runHooks_eq ..

theorem continues_postSave (h : d.documents.Tidy) (id : BufferId) (p : Command.Prompter) :
    d.Continues (d.postSave M id p).2 := by
  obtain ⟨r, hr⟩ := postSave_eq M d id p
  rw [hr]
  exact continues_withRunner h r

/-! ## Saving -/

theorem continues_saveBuffer (h : d.documents.Tidy) (id : BufferId) :
    d.Continues (saveBuffer id d).2 :=
  continues_withStore h (Store.keeps_save d.documents.store id)

theorem continues_saveFile (h : d.documents.Tidy) (id : BufferId) (p : Command.Prompter) :
    d.Continues (d.saveFile M id p).2 := by
  have hsave := continues_saveBuffer h id
  unfold saveFile
  split
  · next e d' heq =>
    rw [heq] at hsave
    exact hsave
  · next d' heq =>
    rw [heq] at hsave
    exact hsave.trans (continues_postSave hsave.documents.tidy id p)

/-- Buffers are saved one after the other, and the commands that are set for
each of them are run. -/
def saveInTurn (M : Machine) (p : Command.Prompter) (ids : List BufferId) (d : Desk σ) :
    Except DocumentError Unit × List BufferId × Desk σ :=
  OpenList.saveEach saveBuffer (fun id d => (d.postSave M id p).2) ids d

theorem continues_saveInTurn (h : d.documents.Tidy) (p : Command.Prompter)
    (ids : List BufferId) : d.Continues (d.saveInTurn M p ids).2.2 := by
  have hstart : d.Continues d := ⟨h.growsApart, rfl⟩
  exact OpenList.saveEach_keeps
    (fun id _ hd => hd.trans (continues_saveBuffer hd.documents.tidy id))
    (fun id _ hd => hd.trans (continues_postSave hd.documents.tidy id p)) ids hstart

/-- What has unsaved changes is found without changing anything. -/
theorem onDocuments_dirty (h : d.documents.Tidy) :
    d.onDocuments Documents.dirty =
      (d.openList.ids.filter d.documents.store.isDirty, d) := by
  rw [onDocuments, Documents.dirty, Documents.read, h.purge, OpenList.dirty, OpenList.buffers,
    h.live]
  rfl

/-- Saving everything saves in turn what has unsaved changes. -/
theorem saveAll_eq (h : d.documents.Tidy) (p : Command.Prompter) :
    let out := d.saveInTurn M p (d.openList.ids.filter d.documents.store.isDirty)
    d.saveAll M p = ((out.1.map fun _ => out.2.1.length).mapError .document, out.2.2) := by
  rw [saveAll, saveChanged, onDocuments_dirty h]
  rfl

theorem continues_saveAll (h : d.documents.Tidy) (p : Command.Prompter) :
    d.Continues (d.saveAll M p).2 := by
  rw [saveAll_eq h]
  exact continues_saveInTurn h p _

/-! ## Searching and replacing -/

/-- No open document has the path of a file that is not found. -/
theorem path_ne_of_find?_none {docs : Documents} {p : Path}
    (h : (docs.list.ids.find? fun id => docs.store.pathOf id == p) = none) :
    ∀ j ∈ docs.list.ids, (docs.store.pathOf j == p) = false := fun j hj =>
  Bool.not_eq_true _ ▸ List.find?_eq_none.1 h j hj

/-- **A file gets an open buffer**, and no other document is touched. -/
theorem bufferOf_spec {docs : Documents} (h : docs.Tidy) (p : Path) :
    docs.Edits (bufferOf docs p).2 ∧
      ∀ id, (bufferOf docs p).1 = .ok id → id ∈ (bufferOf docs p).2.list.ids := by
  rw [bufferOf, h.byPath]
  cases hfind : docs.list.ids.find? fun id => docs.store.pathOf id == p with
  | some id =>
    exact ⟨h.edits, fun j hj => Except.ok.inj hj ▸ List.mem_of_find?_eq_some hfind⟩
  | none =>
    dsimp only
    split
    · refine ⟨h.edits, fun j hj => ?_⟩
      cases hj
    · next id s hopen =>
      obtain ⟨b, rfl, hattached, rfl, rfl⟩ := Store.openFile_inv hopen
      have hapart : docs.Apart → (docs.enter b).Apart := fun hapart =>
        (hapart.enter_iff h b).2 (path_ne_of_find?_none hfind)
      refine ⟨⟨⟨h.grows_enter hattached, hapart⟩, docs.store.edits_insert b⟩, fun j hj => ?_⟩
      exact Except.ok.inj hj ▸ (Documents.mem_add _ _ _).2 (.inl rfl)

/-- Finding or opening a buffer changes no text. -/
theorem textOf_bufferOf {docs : Documents} (h : docs.Tidy) (p : Path) {j : BufferId}
    (hj : j < docs.store.buffers.length) :
    (bufferOf docs p).2.store.textOf j = docs.store.textOf j := by
  rw [bufferOf, h.byPath]
  cases docs.list.ids.find? fun id => docs.store.pathOf id == p with
  | some id => rfl
  | none =>
    dsimp only
    split
    · rfl
    · next id s hopen =>
      obtain ⟨b, -, -, -, rfl⟩ := Store.openFile_inv hopen
      exact Store.textOf_insert hj b

theorem opener_givesOpen : Find.Replacer.GivesOpen opener where
  text p docs h j hj := textOf_bufferOf h p hj
  edits p docs h := (bufferOf_spec h p).1
  mem p docs h id hid := by
    refine (bufferOf_spec h p).2 id ?_
    rw [opener] at hid
    dsimp only at hid
    cases hbuffer : (bufferOf docs p).1 with
    | error e =>
      rw [hbuffer] at hid
      cases hid
    | ok j =>
      rw [hbuffer] at hid
      exact congrArg _ (Except.ok.inj hid)

theorem continues_openResult (h : d.documents.Tidy) (line : Nat) :
    d.Continues (d.openResult line).2 := by
  rw [openResult]
  split
  · exact ⟨h.growsApart, rfl⟩
  · next f l _ =>
    have hbuffer := (bufferOf_spec h l.path).1.toGrowsApart
    split
    · next e docs heq =>
      rw [heq] at hbuffer
      exact continues_withDocuments hbuffer
    · next id docs heq =>
      rw [heq] at hbuffer
      have hreveal := hbuffer.trans
        (hbuffer.tidy.growsApart_store (Store.keeps_highlight docs.store id
          (f.replacer.highlights l.path)))
      dsimp only
      split
      · exact continues_withDocuments hreveal
      · exact continues_withDocuments hreveal

theorem listed_inv {line : Nat} {f : Findings} {l : Find.Link} (h : d.listed line = .ok (f, l)) :
    d.findings = some f := by
  rw [listed] at h
  split at h
  · cases h
  · next f' hf =>
    split at h
    · cases h
    · cases h
      exact hf

theorem continues_replaceAt (h : d.documents.Tidy) (line : Nat) :
    d.Continues (d.replaceAt line).2 := by
  rw [replaceAt]
  split
  · exact ⟨h.growsApart, rfl⟩
  · next f l hlisted =>
    have hbuffer := (bufferOf_spec h l.path).1.toGrowsApart
    split
    · next e docs heq =>
      rw [heq] at hbuffer
      exact continues_withDocuments hbuffer
    · next id docs heq =>
      rw [heq] at hbuffer
      split
      · exact continues_withDocuments hbuffer
      · next replaced replacer view s hreplace =>
        have hedits := (Find.Replacer.replaceAt_spec hreplace).1
        refine ⟨hbuffer.trans (hbuffer.tidy.growsApart_store hedits.keeps), ?_⟩
        rw [listed_inv hlisted]
        rfl

theorem continues_replaceAll (h : d.documents.Tidy) : d.Continues d.replaceAll.2 := by
  rw [replaceAll]
  split
  · exact ⟨h.growsApart, rfl⟩
  · next f hf =>
    obtain ⟨hedits, -⟩ :=
      Find.Replacer.replaceFiles_spec opener_givesOpen h f.results.files f.replacer
    refine ⟨hedits.toGrowsApart, ?_⟩
    rw [hf]
    rfl

/-- What a search at the desk sees. -/
def scope (d : Desk σ) (active : Option Path) (tree : Find.Node) : Find.Scope :=
  ⟨d.settings.root, some (tree.attachBuffers d.documents.store d.openList.ids), active,
    d.openList.ids, d.findConfig⟩

/-- A search reads the documents and changes nothing. -/
theorem search_eq (h : d.documents.Tidy) (r : Find.Request) (active : Option Path)
    (cancelled : Bool) :
    d.search r active cancelled =
      (((Find.Node.scan d.documents.store.disk d.settings.isDirOpen d.settings.root).mapError
        fun _ => DeskError.readingTree).bind fun tree =>
          (Find.find d.documents.store r (d.scope active tree) cancelled).mapError .find, d) := by
  have hbuffers : d.onDocuments Documents.buffers = (d.openList.ids, d) := by
    rw [onDocuments, h.buffers]
    rfl
  rw [search, hbuffers]
  dsimp only
  cases Find.Node.scan d.documents.store.disk d.settings.isDirOpen d.settings.root <;> rfl

theorem search_documents (h : d.documents.Tidy) (r : Find.Request) (active : Option Path)
    (cancelled : Bool) : (d.search r active cancelled).2 = d :=
  congrArg Prod.snd (search_eq h r active cancelled)

theorem documents_find (h : d.documents.Tidy) (r : Find.Request) (active : Option Path)
    (cancelled : Bool) : (d.find r active cancelled).2.documents = d.documents := by
  have hsearch := search_documents h r active cancelled
  rw [find]
  split
  · next heq =>
    rw [heq] at hsearch
    rw [hsearch]
  · next results d' heq =>
    rw [heq] at hsearch
    rw [← hsearch, showResults]
    split <;> rfl

/-! ## Closing -/

theorem tidy_closeFile (h : d.documents.Tidy) (id : BufferId) :
    (d.closeFile id).documents.Tidy := by
  refine ⟨h.nodup.filter _, fun j hj => ?_⟩
  obtain ⟨hj, hne⟩ := List.mem_filter.1 hj
  show (d.documents.store.close id).isAttached j = true
  rw [Store.isAttached_close, h.attached j hj, Bool.and_true, decide_eq_true_eq]
  exact bne_iff_ne.1 hne

theorem apart_closeFile (h : d.documents.Apart) (id : BufferId) :
    (d.closeFile id).documents.Apart := by
  have hsub : (d.closeFile id).documents.list.ids.Sublist d.documents.list.ids :=
    List.filter_sublist
  refine (h.sublist hsub).imp fun {i j} hne => ?_
  rw [← hne]
  exact congrArg₂ (· == ·) (d.documents.store.pathOf_close id i)
    (d.documents.store.pathOf_close id j)

/-! ## Opening -/

/-- The file of a document is opened while its sidecar is open, and the user
wants the sidecar opened along with it. -/
def Doubles (docs : Documents) (p : Path) (choice : SidecarChoice) : Prop :=
  choice = .openSeparately ∧ ∃ sidecar, sidecarFound? docs p = some sidecar ∧
    (docs.list.byPath docs.store sidecar).isSome ∧
    ∃ b, Buffer.ofFile docs.store.disk sidecar = .ok b

/-- What opening a file that is not open makes of the documents. -/
inductive Opened (docs : Documents) (p : Path) (choice : SidecarChoice) : Documents → Prop
  /-- Nothing is put in. -/
  | nothing {s : Store} (hs : docs.store.Keeps s) (hno : ¬ Doubles docs p choice) :
      Opened docs p choice { docs with store := s }
  /-- The file is put in; its sidecar may have been thrown away. -/
  | alone {b : Buffer} (disk : Disk) (hpath : b.path = p) (hattached : b.attached)
      (hno : ¬ Doubles docs p choice) :
      Opened docs p choice ({ docs with store := { docs.store with disk := disk } }.enter b)
  /-- The sidecar is put in, and then the file. -/
  | both {b c : Buffer} (hpath : b.path = p) (hattached : b.attached) (hside : c.path = sidecarOf p)
      (hside' : c.attached)
      (hiff : Doubles docs p choice ↔ (docs.list.byPath docs.store (sidecarOf p)).isSome) :
      Opened docs p choice
        (({ docs with store := (docs.store.insert b).2 }.enter c).add (docs.store.insert b).1).2

theorem ofFile_spec {disk : Disk} {p : Path} {b : Buffer} (h : Buffer.ofFile disk p = .ok b) :
    b.path = p ∧ b.attached := by
  rw [Buffer.ofFile] at h
  split at h
  · cases h
    exact ⟨rfl, rfl⟩
  · cases h

theorem sidecarFound?_eq {docs : Documents} {p : Path} {b : Buffer}
    (hnew : docs.list.byPath docs.store p = none) (hb : Buffer.ofFile docs.store.disk p = .ok b) :
    sidecarFound? docs p =
      if b.hasSidecar docs.store.disk then some (sidecarOf p) else none := by
  rw [sidecarFound?, hnew, Option.isSome_none, if_neg Bool.false_ne_true, hb]
  dsimp only
  rw [(ofFile_spec hb).1]

/-- Once the file is read, all depends on what becomes of its sidecar. -/
theorem openNew_eq {docs : Documents} {p : Path} {b : Buffer} (choice : SidecarChoice)
    (hb : Buffer.ofFile docs.store.disk p = .ok b) :
    (openNew docs p choice).2 =
      match b.reconcile docs.store.disk choice with
      | .error _ => { docs with store := (docs.store.insert b).2 }
      | .ok (.openSeparately sidecar, disk) =>
        match Buffer.ofFile disk sidecar with
        | .error _ => { docs with store := (docs.store.insert b).2 }
        | .ok c =>
          (({ docs with store := { (docs.store.insert b).2 with disk := disk } }.enter c).add
            (docs.store.insert b).1).2
      | .ok (_, disk) => { docs with store := { docs.store with disk := disk } }.enter b := by
  have hself : (docs.store.insert b).2.buffer? (docs.store.insert b).1 = some b :=
    docs.store.buffer?_insert_self b
  have hdisk : (docs.store.insert b).2.disk = docs.store.disk := rfl
  simp only [openNew, Store.openFile, hb, hself, hdisk]
  rcases b.reconcile docs.store.disk choice with e | ⟨became, disk⟩
  · rfl
  · cases became with
    | openSeparately sidecar =>
      dsimp only
      cases Buffer.ofFile disk sidecar with
      | error e => rfl
      | ok c => rfl
    | nothing => rfl
    | discarded => rfl

theorem opened_openNew {docs : Documents} {p : Path} (choice : SidecarChoice)
    (hnew : docs.list.byPath docs.store p = none) :
    Opened docs p choice (openNew docs p choice).2 := by
  cases hb : Buffer.ofFile docs.store.disk p with
  | error e =>
    have hno : ¬ Doubles docs p choice := by
      rintro ⟨-, sidecar, hfound, -⟩
      rw [sidecarFound?, hnew, hb] at hfound
      cases hfound
    rw [openNew, Store.openFile, hb]
    exact .nothing (.refl docs.store) hno
  | ok b =>
    obtain ⟨hpath, hattached⟩ := ofFile_spec hb
    have hfound := sidecarFound?_eq hnew hb
    have hinsert := docs.store.keeps_insert b
    rw [openNew_eq choice hb, Buffer.reconcile.eq_def, hpath]
    -- Without a sidecar the file is opened alone, and with one it depends on the choice.
    by_cases hhas : b.hasSidecar docs.store.disk
    · rw [if_pos hhas] at hfound
      rw [if_pos hhas]
      cases choice with
      | discard =>
        have hno : ¬ Doubles docs p .discard := fun h => SidecarChoice.noConfusion h.1
        dsimp only
        cases Buffer.removeSidecar docs.store.disk p with
        | error e => exact .nothing hinsert hno
        | ok removed => exact .alone removed.2 hpath hattached hno
      | openSeparately =>
        dsimp only
        cases hside : Buffer.ofFile docs.store.disk (sidecarOf p) with
        | error e =>
          refine .nothing hinsert ?_
          rintro ⟨-, sidecar, hsidecar, -, c, hc⟩
          rw [hfound, Option.some.injEq] at hsidecar
          rw [← hsidecar, hside] at hc
          cases hc
        | ok c =>
          obtain ⟨hcpath, hcattached⟩ := ofFile_spec hside
          refine .both hpath hattached hcpath hcattached ⟨?_, fun hopen => ?_⟩
          · rintro ⟨-, sidecar, hsidecar, hopen, -⟩
            rw [hfound, Option.some.injEq] at hsidecar
            exact hsidecar ▸ hopen
          · exact ⟨rfl, sidecarOf p, hfound, hopen, c, hside⟩
    · rw [if_neg hhas] at hfound
      rw [if_neg hhas]
      refine .alone docs.store.disk hpath hattached ?_
      rintro ⟨-, sidecar, hsidecar, -⟩
      rw [hfound] at hsidecar
      cases hsidecar

theorem Opened.grows {docs docs' : Documents} {p : Path} {choice : SidecarChoice}
    (h : docs.Tidy) (hopened : Opened docs p choice docs') : docs.Grows docs' := by
  cases hopened with
  | nothing hs => exact h.grows_store hs
  | @alone b disk _ hattached =>
    have hdisk := h.grows_store (s := { docs.store with disk := disk }) (.of_buffers rfl)
    exact hdisk.trans (hdisk.tidy.grows_enter hattached)
  | @both b c _ hattached _ hside =>
    have hinsert := h.grows_store (docs.store.keeps_insert b)
    have henter := hinsert.tidy.grows_enter hside
    refine (hinsert.trans henter).trans (henter.tidy.grows_add ?_)
    have hself := docs.store.buffer?_insert_self b
    rw [henter.keeps.isAttached (Store.lt_of_buffer? hself), Store.isAttached_eq hself]
    exact hattached

/-- **The paths stay apart** when a file is opened, exactly if its sidecar is
not opened a second time. -/
theorem Opened.apart_iff {docs docs' : Documents} {p : Path} {choice : SidecarChoice}
    (h : docs.Tidy) (hapart : docs.Apart)
    (hnew : ∀ j ∈ docs.list.ids, (docs.store.pathOf j == p) = false)
    (hopened : Opened docs p choice docs') : docs'.Apart ↔ ¬ Doubles docs p choice := by
  cases hopened with
  | nothing hs hno => exact iff_of_true (hapart.keeps h hs) hno
  | @alone b disk hpath _ hno =>
    refine iff_of_true ?_ hno
    have hs : docs.store.Keeps { docs.store with disk := disk } := .of_buffers rfl
    exact ((hapart.keeps h hs).enter_iff (h.grows_store hs).tidy b).2 (hpath ▸ hnew)
  | @both b c hpath _ hside _ hiff =>
    have hkeeps := docs.store.keeps_insert b
    have hinsert := h.grows_store hkeeps
    have hself := docs.store.buffer?_insert_self b
    have hlast := Store.lt_of_buffer? hself
    have hcself := (docs.store.insert b).2.buffer?_insert_self c
    have hckeeps := (docs.store.insert b).2.keeps_insert c
    have hid : (docs.store.insert b).1 ∉
        ({ docs with store := (docs.store.insert b).2 }.enter c).list.ids := by
      intro hmem
      rcases (Documents.mem_add _ _ _).1 hmem with heq | hmem
      · exact Nat.lt_irrefl _ (heq ▸ hlast)
      · exact Nat.lt_irrefl _ (h.lt hmem)
    -- The file itself has a path of its own, also beside its sidecar.
    have hfile : ∀ j ∈ ({ docs with store := (docs.store.insert b).2 }.enter c).list.ids,
        (((docs.store.insert b).2.insert c).2.pathOf j ==
          ((docs.store.insert b).2.insert c).2.pathOf (docs.store.insert b).1) = false := by
      intro j hj
      rw [hckeeps.pathOf hlast, Store.pathOf_eq hself, hpath]
      rcases (Documents.mem_add _ _ _).1 hj with rfl | hj
      · rw [Store.pathOf_eq hcself, hside]
        exact sidecarOf_beq_self p
      · rw [(hkeeps.trans hckeeps).pathOf (h.lt hj)]
        exact hnew j hj
    rw [Documents.apart_add_iff hid]
    refine (and_iff_right hfile).trans ?_
    rw [(hapart.keeps h hkeeps).enter_iff hinsert.tidy, hside, hiff, Bool.not_eq_true,
      OpenList.byPath, OpenList.buffers, h.live, Option.isSome_eq_false_iff,
      Option.isNone_iff_eq_none, List.find?_eq_none]
    refine forall₂_congr fun j hj => ?_
    dsimp only
    rw [hkeeps.pathOf (h.lt hj), Bool.not_eq_true]

/-- Opening a file makes the list grow, and the paths stay apart exactly if a
sidecar is not opened a second time. -/
theorem openFile_spec (h : d.documents.Tidy) (p : Path) (choice : SidecarChoice) :
    d.documents.Grows (d.openFile p choice).2.documents ∧
      (d.documents.Apart →
        ((d.openFile p choice).2.documents.Apart ↔ ¬ Doubles d.documents p choice)) := by
  have hlist : d.documents.list.byPath d.documents.store p =
      d.documents.list.ids.find? fun id => d.documents.store.pathOf id == p := by
    rw [OpenList.byPath, OpenList.buffers, h.live]
  rw [openFile, h.byPath]
  cases hfind : d.documents.list.ids.find? fun id => d.documents.store.pathOf id == p with
  | some id =>
    have hadd := h.growsApart_add (List.mem_of_find?_eq_some hfind)
    refine ⟨hadd.toGrows, fun hapart => iff_of_true (hadd.apart hapart) ?_⟩
    rintro ⟨-, sidecar, hfound, -⟩
    rw [sidecarFound?, hlist, hfind] at hfound
    cases hfound
  | none =>
    have hopened := opened_openNew choice (hlist.trans hfind)
    exact ⟨hopened.grows h, fun hapart => hopened.apart_iff h hapart (path_ne_of_find?_none hfind)⟩

/-! ## Histories -/

/-- Most acts go on with what there is. -/
theorem continues_act (h : d.documents.Tidy) {a : Act}
    (hopen : ∀ p choice, a ≠ .openFile p choice) (hclose : ∀ id, a ≠ .closeFile id)
    (hfind : ∀ r active cancelled, a ≠ .find r active cancelled) : d.Continues (d.act M a) := by
  cases a with
  | openFile p choice => exact absurd rfl (hopen p choice)
  | closeFile id => exact absurd rfl (hclose id)
  | saveFile id p => exact continues_saveFile h id p
  | saveAll p => exact continues_saveAll h p
  | autosave id =>
    rw [act]
    split
    · next wrote s hs => exact continues_withStore h (Store.keeps_autosave hs)
    · exact ⟨h.growsApart, rfl⟩
  | edit id text => exact continues_withStore h (Store.keeps_setText d.documents.store id text)
  | find r active cancelled => exact absurd rfl (hfind r active cancelled)
  | openResult line => exact continues_openResult h line
  | replaceAt line => exact continues_replaceAt h line
  | replaceAll => exact continues_replaceAll h
  | meanwhile r => exact continues_withRunner h r

/-- **Every act but an opening and a closing** keeps the documents, and their
paths apart. -/
theorem growsApart_act (h : d.documents.Tidy) {a : Act} (hopen : ∀ p choice, a ≠ .openFile p choice)
    (hclose : ∀ id, a ≠ .closeFile id) : d.documents.GrowsApart (d.act M a).documents := by
  by_cases hfind : ∃ r active cancelled, a = .find r active cancelled
  · obtain ⟨r, active, cancelled, rfl⟩ := hfind
    rw [act, documents_find h]
    exact h.growsApart
  · refine (continues_act h hopen hclose fun r active cancelled heq => ?_).documents
    exact hfind ⟨r, active, cancelled, heq⟩

/-- Every act but a closing keeps the documents. -/
theorem grows_act (h : d.documents.Tidy) {a : Act} (hclose : ∀ id, a ≠ .closeFile id) :
    d.documents.Grows (d.act M a).documents := by
  by_cases hopen : ∃ p choice, a = .openFile p choice
  · obtain ⟨p, choice, rfl⟩ := hopen
    exact (openFile_spec h p choice).1
  · exact (growsApart_act h (fun p choice heq => hopen ⟨p, choice, heq⟩) hclose).toGrows

theorem tidy_act (h : d.documents.Tidy) (a : Act) : (d.act M a).documents.Tidy := by
  by_cases hclose : ∃ id, a = .closeFile id
  · obtain ⟨id, rfl⟩ := hclose
    exact tidy_closeFile h id
  · exact (grows_act h fun id heq => hclose ⟨id, heq⟩).tidy

/-- Nothing is open at first. -/
theorem tidy_ofSettings (s : Settings.ProjectSettings) (w : Supplies σ) (disk : Disk) :
    (ofSettings s w disk).documents.Tidy :=
  ⟨List.nodup_nil, fun _ hid => absurd hid List.not_mem_nil⟩

/-- **In every history** the list of the open documents is tidy. -/
theorem tidy_after (h : d.documents.Tidy) (acts : List Act) : (d.after M acts).documents.Tidy := by
  induction acts generalizing d with
  | nil => exact h
  | cons a acts ih => exact ih (tidy_act h a)

/-! ## A desk with a document -/

/-- The buffer of a file as it is read. -/
def freshBuffer (p : Path) (bytes : Bytes) (t : Stamp) : Buffer :=
  ⟨p, Utf8.decodeLossy bytes, false, true, t, []⟩

theorem ofFile_eq {disk : Disk} {p : Path} {bytes : Bytes} {t : Stamp} {mode : Nat}
    (h : disk.entry true p = .ok (.file bytes t mode)) :
    Buffer.ofFile disk p = .ok (freshBuffer p bytes t) := by
  simp only [Buffer.ofFile, Buffer.readFile, Buffer.readFileBy, Disk.Calls.ofDisk, Disk.read,
    Disk.modified, h, freshBuffer]

/-- The document. -/
def document : Path := ⟨"/a"⟩

/-- Its sidecar. -/
def sidecar : Path := ⟨"/#a#"⟩

/-- A machine on which nothing starts. -/
def idleMachine : Machine := ⟨fun _ _ => .error default⟩

/-- A desk of nothing but the files in the root directory. -/
def plainDesk (disk : Disk) : Desk Unit :=
  ofSettings { (default : Settings.ProjectSettings) with root := ⟨"/"⟩ }
    ⟨Command.Registry.empty, Settings.LanguageOptions.empty, none, (), default⟩ disk

/-- The first file that is opened is a new one. -/
theorem openFile_plainDesk (disk : Disk) (p : Path) (choice : SidecarChoice) :
    ((plainDesk disk).openFile p choice).2.documents =
      (openNew (Documents.ofDisk disk) p choice).2 := by
  have hdocs : (plainDesk disk).documents = Documents.ofDisk disk := rfl
  have hnew : (Documents.ofDisk disk).byPath p = (none, Documents.ofDisk disk) := rfl
  rw [openFile, hdocs, hnew]
  rfl

end Desk
end CodeDesk
