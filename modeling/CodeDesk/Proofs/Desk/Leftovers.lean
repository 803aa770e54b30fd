import CodeDesk.Proofs.Desk.ListedMatches
import CodeDesk.Proofs.Desk.Moves
import CodeDesk.Proofs.Desk.OnePath
/-!
# Leftovers — sidecars that are taken away unasked

A sidecar that was left over from an earlier session holds work that nobody
has saved. When its document is opened as a file, the user is asked about it
(`sidecarFound?_of_opens`), and saving the document takes it away later
(`removed_of_move`). A document that was opened so is vetted: whatever its
save takes away, the user was asked about, unless programs have made
directories or links meanwhile by which its path leads elsewhere
(`asked_of_vetted`). But a match is opened and replaced without asking, and
so is a document whose own name is that of a sidecar. So the user is asked
first exactly if no save of such a document takes a leftover away
(`askedFirst_iff`), and this does happen (`not_askedFirst_match`).
-/

namespace CodeDesk
namespace Desk

variable {σ : Type} {M : Machine} {d : Desk σ} {ms : List Move} {m : Move} {p : Path}
  {choice : SidecarChoice} {id : BufferId} {loc : Location}

/-! ## The law -/

/-- The user was asked about a file in the course of moves. -/
def Asked (M : Machine) (d : Desk σ) (ms : List Move) (loc : Location) : Prop :=
  ∃ front m back, ms = front ++ m :: back ∧ (d.play M front).AsksAbout m loc

/-- The unsaved changes of a buffer are kept in a file. -/
def AutosavesTo (d : Desk σ) (m : Move) (loc : Location) : Prop :=
  ∃ id h b s, m = .whole (.autosave id) h ∧ d.documents.store.buffer? id = some b ∧
    d.documents.store.autosave id = .ok (true, s) ∧
    d.disk.locate true (sidecarOf b.path) = .ok loc

/-- A sidecar that has been there all along, and that no unsaved changes were
kept in. -/
structure Leftover (M : Machine) (d : Desk σ) (ms : List Move) (loc : Location) : Prop where
  /-- Its name is that of a sidecar. -/
  named : ∃ name, loc.getLast? = some (sidecarName name)
  /-- It has been there all along. -/
  there : ∀ front back, ms = front ++ back → (d.play M front).disk.FileAt loc
  /-- No unsaved changes were kept in it. -/
  unwritten : ∀ front m back, ms = front ++ m :: back → ¬ (d.play M front).AutosavesTo m loc

/-- No leftover is taken away by the desk unless the user was asked about
it. -/
def AskedFirst (M : Machine) (d : Desk σ) (ms : List Move) : Prop :=
  ∀ front m back, ms = front ++ m :: back → (∀ r, m ≠ .programs r) →
    ∀ loc, d.Leftover M front loc → ¬ (d.play M (front ++ [m])).disk.FileAt loc →
      d.Asked M (front ++ [m]) loc

theorem asked_concat :
    d.Asked M (ms ++ [m]) loc ↔ d.Asked M ms loc ∨ (d.play M ms).AsksAbout m loc := by
  constructor
  · rintro ⟨front, m', back, hsplit, hasks⟩
    rcases List.eq_nil_or_concat back with rfl | ⟨back, last, rfl⟩
    · obtain ⟨rfl, heq⟩ := List.append_inj' hsplit rfl
      cases heq
      exact .inr hasks
    · rw [List.concat_eq_append, ← List.cons_append, ← List.append_assoc] at hsplit
      exact .inl ⟨front, m', back, (List.append_inj' hsplit rfl).1, hasks⟩
  · rintro (⟨front, m', back, rfl, hasks⟩ | hasks)
    · exact ⟨front, m', back ++ [m], by rw [List.append_assoc, List.cons_append], hasks⟩
    · exact ⟨ms, m, [], rfl, hasks⟩

/-! ## Documents that are opened as files -/

/-- Opening a file that is not the sidecar of another makes a buffer for
it. -/
structure Opens (d : Desk σ) (p : Path) (choice : SidecarChoice) (id : BufferId) : Prop where
  /-- It is not the sidecar of another file. -/
  plain : isSidecar p = false
  /-- It is opened. -/
  answer : (d.openFile p choice).1 = .ok id
  /-- Its buffer is new. -/
  new : d.buffers.length ≤ id

/-- A file that is opened anew gets the next buffer. -/
theorem openNew_answer {docs : Documents} (h : (openNew docs p choice).1 = .ok id) :
    ∃ b, Buffer.ofFile docs.store.disk p = .ok b ∧ id = docs.store.buffers.length := by
  cases hb : Buffer.ofFile docs.store.disk p with
  | error e =>
    rw [openNew, Store.openFile, hb] at h
    cases h
  | ok b =>
    refine ⟨b, rfl, ?_⟩
    have hself : (docs.store.insert b).2.buffer? (docs.store.insert b).1 = some b :=
      docs.store.buffer?_insert_self b
    simp only [openNew, Store.openFile, hb, hself] at h
    split at h
    · cases h
    · split at h
      · cases h
      · cases h
        rfl
    · cases h
      rfl

theorem pathOf_openNew (choice : SidecarChoice) {docs : Documents} {b : Buffer}
    (hb : Buffer.ofFile docs.store.disk p = .ok b) :
    docs.store.buffers.length < (openNew docs p choice).2.store.buffers.length ∧
      (openNew docs p choice).2.store.pathOf docs.store.buffers.length = p := by
  have hself : (docs.store.insert b).2.buffer? docs.store.buffers.length = some b :=
    docs.store.buffer?_insert_self b
  have hsuffices : ∀ {s : Store}, s.buffer? docs.store.buffers.length = some b →
      docs.store.buffers.length < s.buffers.length ∧
        s.pathOf docs.store.buffers.length = p := fun hs =>
    ⟨Store.lt_of_buffer? hs, (Store.pathOf_eq hs).trans (ofFile_spec hb).1⟩
  rw [openNew_eq choice hb]
  split
  · exact hsuffices hself
  · split
    · exact hsuffices hself
    · exact hsuffices ((List.getElem?_append_left (Store.lt_of_buffer? hself)).trans hself)
  · exact hsuffices hself

/-- What opening a file anew comes down to. -/
theorem Opens.spec (hopens : d.Opens p choice id) (h : d.documents.Tidy) :
    d.documents.list.byPath d.documents.store p = none ∧
      (∃ b, Buffer.ofFile d.disk p = .ok b) ∧
      id < (d.openFile p choice).2.buffers.length ∧
      (d.openFile p choice).2.documents.store.pathOf id = p := by
  have hlist : d.documents.list.byPath d.documents.store p =
      d.documents.list.ids.find? fun id => d.documents.store.pathOf id == p := by
    rw [OpenList.byPath, OpenList.buffers, h.live]
  have hanswer := hopens.answer
  rw [openFile, h.byPath] at hanswer
  cases hfind : d.documents.list.ids.find? fun id => d.documents.store.pathOf id == p with
  | some j =>
    -- An open document has a buffer already.
    rw [hfind] at hanswer
    cases hanswer
    exact absurd (h.lt (List.mem_of_find?_eq_some hfind)) (Nat.not_lt.2 hopens.new)
  | none =>
    rw [hfind] at hanswer
    have hnew : (openNew d.documents p choice).1 = .ok id := by
      cases hout : (openNew d.documents p choice).1 with
      | error e =>
        simp only [hout] at hanswer
        cases hanswer
      | ok j =>
        simp only [hout] at hanswer
        exact congrArg _ (Except.ok.inj hanswer)
    obtain ⟨b, hb, rfl⟩ := openNew_answer hnew
    have hafter : (d.openFile p choice).2.documents = (openNew d.documents p choice).2 := by
      rw [openFile, h.byPath, hfind]
      rfl
    obtain ⟨hlt, hpath⟩ := pathOf_openNew choice hb
    refine ⟨hlist.trans hfind, ⟨b, hb⟩, ?_, ?_⟩
    · show _ < (d.openFile p choice).2.documents.store.buffers.length
      rw [hafter]
      exact hlt
    · rw [hafter]
      exact hpath

/-- **The user is asked** when a file is opened anew whose sidecar is
there. -/
theorem sidecarFound?_of_opens (hopens : d.Opens p choice id) (h : d.documents.Tidy)
    (hsidecar : d.disk.isFile (sidecarOf p) = true) :
    sidecarFound? d.documents p = some (sidecarOf p) := by
  obtain ⟨hnew, ⟨b, hb⟩, -⟩ := hopens.spec h
  have hclean : b.dirty = false := by
    rw [Buffer.ofFile] at hb
    split at hb
    · cases hb
      rfl
    · cases hb
  have hhas : b.hasSidecar d.documents.store.disk = true := by
    rw [Buffer.hasSidecar, (ofFile_spec hb).1, hopens.plain, hclean]
    exact hsidecar
  rw [sidecarFound?_eq hnew hb, if_pos hhas]

/-! ## Vetted documents -/

/-- A buffer was made by opening a file, and programs that have run since
have made no directory and no link. -/
def Vetted (M : Machine) (d : Desk σ) (ms : List Move) (id : BufferId) : Prop :=
  ∃ front p choice h back, ms = front ++ .whole (.openFile p choice) h :: back ∧
    (d.play M front).Opens p choice id ∧
    ∀ x r y, back = x ++ .programs r :: y →
      r.disk.Within ((d.play M front).play M (.whole (.openFile p choice) h :: x)).disk

/-- Where programs make no directory and no link, none is made. -/
theorem within_play (h : d.documents.Tidy) (hprograms : ∀ x r y, ms = x ++ .programs r :: y →
    r.disk.Within (d.play M x).disk) : (d.play M ms).disk.Within d.disk := by
  induction ms generalizing d with
  | nil => exact .refl d.disk
  | cons m ms ih =>
    have hfirst : (d.move M m).disk.Within d.disk := by
      cases m with
      | programs r => exact hprograms [] r ms rfl
      | save id => exact (removed_of_move h fun r => Move.noConfusion).1
      | whole a ha => exact (removed_of_move h fun r => Move.noConfusion).1
    refine (ih (tidy_move h m) fun x r y hsplit => ?_).trans hfirst
    exact hprograms (m :: x) r y (by rw [hsplit, List.cons_append])

/-- **What the save of a vetted document takes away**, the user was asked
about when it was opened. -/
theorem asked_of_vetted (h : d.documents.Tidy) (hvetted : d.Vetted M ms id)
    (hleft : d.Leftover M ms loc)
    (hgone : ¬ (d.play M (ms ++ [.save id])).disk.FileAt loc) : d.Asked M ms loc := by
  obtain ⟨front, p, choice, hwhole, back, rfl, hopens, hprograms⟩ := hvetted
  have hfront := tidy_play (M := M) h front
  have hopened := tidy_move (M := M) hfront (.whole (.openFile p choice) hwhole)
  rw [play_concat] at hgone
  have hplay : d.play M (front ++ .whole (.openFile p choice) hwhole :: back) =
      ((d.play M front).move M (.whole (.openFile p choice) hwhole)).play M back := by
    rw [play_append]
    rfl
  -- Its buffer has the path of the file still.
  obtain ⟨-, -, hlt, hpath⟩ := hopens.spec hfront
  have hlater := (pathOf_play (M := M) hopened hlt back).2
  rw [← hplay] at hlater
  have hsave := hlater.trans hpath
  -- So the path of its sidecar leads to the file, and led there when it was opened.
  have hnow := hleft.there _ [] (List.append_nil _).symm
  have hthen := hleft.there front _ rfl
  have htidy := tidy_play (M := M) h (front ++ .whole (.openFile p choice) hwhole :: back)
  have hremoved := (removed_of_move (M := M) htidy (m := .save id) fun r => Move.noConfusion).2
    loc hnow
  rcases hremoved with hstays | hasks | ⟨j, written, heq, hwritten, hfile, hlocate⟩
  · exact absurd hstays hgone
  · obtain ⟨p', choice', hwhole', sidecar', heq, -⟩ := hasks
    cases heq
  · cases heq
    rw [hsave] at hlocate
    have hsince : written.Within (d.play M front).disk := by
      refine hwritten.trans ?_
      rw [play_append]
      exact within_play hfront fun x r y hsplit => by
        cases x with
        | nil => cases hsplit
        | cons m x =>
          cases hsplit
          exact hprograms x r y rfl
    have hled := Disk.locate_of_within hsince hlocate hfile hthen
    have hfound := sidecarFound?_of_opens hopens hfront
      (Disk.isFile_of_fileAt (hled true) hthen)
    exact ⟨front, _, back, rfl, p, choice, hwhole, sidecarOf p, rfl, hfound, hled false⟩

/-- **When the user is asked first.** In every session, the desk takes a
leftover away unasked exactly if it does so in saving a document that was
not opened as a file, or whose name is that of a sidecar, or whose path may
lead elsewhere by what programs have made since. -/
theorem askedFirst_iff (M : Machine) (s : Settings.ProjectSettings) (w : Supplies σ)
    (disk : Disk) (acts : List Act) :
    let d := ofSettings s w disk
    let ms := d.moves M acts
    d.play M ms = d.after M acts ∧
      (d.AskedFirst M ms ↔ ∀ front id back, ms = front ++ .save id :: back →
        ¬ d.Vetted M front id → ∀ loc, d.Leftover M front loc →
          ¬ (d.play M (front ++ [.save id])).disk.FileAt loc → d.Asked M front loc) := by
  intro d ms
  have h : d.documents.Tidy := tidy_ofSettings s w disk
  refine ⟨play_moves h acts, fun hlaw front id back hsplit _ loc hleft hgone => ?_,
    fun hunvetted front m back hsplit hm loc hleft hgone => ?_⟩
  · rcases asked_concat.1 (hlaw front _ back hsplit (fun r => Move.noConfusion) loc hleft hgone)
      with hasked | ⟨p, choice, hwhole, sidecar, heq, -⟩
    · exact hasked
    · cases heq
  · have hnow := hleft.there front [] (List.append_nil _).symm
    have hstep := hgone
    rw [play_concat] at hstep
    rw [asked_concat]
    rcases (removed_of_move (tidy_play h front) hm).2 loc hnow with
      hstays | hasks | ⟨id, written, rfl, -⟩
    · exact absurd hstays hstep
    · exact .inr hasks
    · by_cases hvetted : d.Vetted M front id
      · exact .inl (asked_of_vetted h hvetted hleft hgone)
      · exact .inl (hunvetted front id back hsplit hvetted loc hleft hgone)

/-! ## A match that is replaced -/

/-- A path in the root directory leads to the file there. -/
theorem locate_of_fileAt {disk : Disk} {p : Path} {name : String} (hp : Disk.InRoot p name)
    (hfile : disk.FileAt [name]) (follow : Bool) : disk.locate follow p = .ok [name] := by
  obtain ⟨e, he, hisFile⟩ := hfile.isFile
  refine Disk.locate_inRoot hp fun _ target hlink => ?_
  rw [he, Option.some.injEq] at hlink
  rw [hlink] at hisFile
  cases hisFile

theorem fileAt_root {disk : Disk} {name : String} {e : Entry} (he : disk.entryAt? [name] = some e)
    (hfile : e.isFile) : disk.FileAt [name] := by
  refine ⟨⟨e, he, hfile⟩, fun front back hsplit hback => ?_⟩
  cases front with
  | nil => rfl
  | cons x front =>
    have hend : [] = front ++ back := (List.cons.inj hsplit).2
    exact absurd (List.append_eq_nil_iff.1 hend.symm).2 hback

/-- The match in the document is replaced, and the document is saved. -/
def replacedAndSaved : List Act :=
  [.find request (some document) false, .replaceAt 1, .saveFile 0 .silent]

/-- The moves in front of the save. -/
def replacing : List Move :=
  [.whole (.find request (some document) false) rfl, .whole (.replaceAt 1) rfl]

/-- What the search finds while the document is not open. -/
def foundClosed : Find.Results :=
  ⟨request, [⟨document, 1, [⟨⟨0, 0⟩, ⟨0, 1⟩⟩], ["a"], none⟩]⟩

theorem tidy_plainDesk (disk : Disk) : (plainDesk disk).documents.Tidy := tidy_ofSettings _ _ disk

theorem find_request_closed (tree : Option Find.Node) :
    Find.find (Documents.ofDisk twoFiles).store request
      ⟨⟨"/"⟩, tree, some document, [], Find.Config.standard⟩ false = .ok foundClosed := by
  have hread : twoFiles.read document = .ok [97] := by
    simp only [Disk.read, entry_document]
  have hskip : Find.skipReason twoFiles request Find.Config.standard document 1 false = none := by
    have hnamed : isSidecar document = false ∧
        Find.isProjectName Find.Config.standard document.fileName = false ∧
        request.wants (Language.ofPath? document) = true := by decide +kernel
    have hsmall : ¬ Find.Config.standard.bigFileSize < 1 := by decide
    have htext : Find.isBinary twoFiles document = false := by
      rw [Find.isBinary, hread]
      decide
    simp [Find.skipReason, hnamed, hsmall, htext]
  have hmatches : Find.matchesIn (Regex.literal false "a") ⟨document, none⟩
      (Utf8.decodeLossy [97]) = some ⟨document, 1, [⟨⟨0, 0⟩, ⟨0, 1⟩⟩], ["a"], none⟩ := by
    decide +kernel
  have hfile : Find.searchFile (Documents.ofDisk twoFiles).store (Regex.literal false "a") request
      Find.Config.standard ⟨document, none⟩ =
        some ⟨document, 1, [⟨⟨0, 0⟩, ⟨0, 1⟩⟩], ["a"], none⟩ := by
    have hdisk : (Documents.ofDisk twoFiles).store.disk = twoFiles := rfl
    simp [Find.searchFile, hdisk, hread, hskip, hmatches]
  have hcandidates : Find.candidates (Documents.ofDisk twoFiles).store request
      ⟨⟨"/"⟩, tree, some document, [], Find.Config.standard⟩ = .ok [⟨document, none⟩] := rfl
  have hprogram : request.program = .ok (Regex.literal false "a") := rfl
  rw [Find.find, hprogram, hcandidates]
  simp [hfile, Find.rank, foundClosed]

theorem findings_foundClosed :
    ((plainDesk twoFiles).find request (some document) false).2.findings =
      some ⟨foundClosed, foundClosed.render, pending⟩ := by
  obtain ⟨tree, hscan⟩ := scan_root twoFiles (plainDesk twoFiles).settings.isDirOpen
  exact findings_find (tidy_plainDesk twoFiles) hscan (find_request_closed _) rfl

theorem bufferOf_document :
    bufferOf (Documents.ofDisk twoFiles) document =
      (.ok 0, ⟨⟨twoFiles, [freshBuffer document [97] 0]⟩, ⟨[0]⟩⟩) := by
  have hb : Buffer.ofFile (Documents.ofDisk twoFiles).store.disk document =
      .ok (freshBuffer document [97] 0) := ofFile_eq entry_document
  have hopen : (Documents.ofDisk twoFiles).store.openFile document =
      .ok (0, ⟨twoFiles, [freshBuffer document [97] 0]⟩) := by
    rw [Store.openFile, hb]
    rfl
  have hnew : (Documents.ofDisk twoFiles).byPath document = (none, Documents.ofDisk twoFiles) := rfl
  rw [bufferOf, hnew]
  dsimp only
  rw [hopen]
  rfl

/-- The match is replaced in a buffer of the document. -/
theorem buffer?_replacing :
    ∃ b, ((plainDesk twoFiles).play idleMachine replacing).documents.store.buffer? 0 = some b ∧
      b.path = document ∧ b.attached = true := by
  let d := ((plainDesk twoFiles).find request (some document) false).2
  have hdocs : d.documents = Documents.ofDisk twoFiles :=
    documents_find (tidy_plainDesk twoFiles) request (some document) false
  have hlink : foundClosed.render.linkAt 1 = some ⟨document, 1, 1, ⟨⟨0, 0⟩, ⟨0, 1⟩⟩⟩ := by
    decide +kernel
  have hlisted : d.listed 1 = .ok (⟨foundClosed, foundClosed.render, pending⟩, _) :=
    listed_eq_ok.2 ⟨findings_foundClosed, hlink⟩
  show ∃ b, (d.replaceAt 1).2.documents.store.buffer? 0 = some b ∧ _
  rw [replaceAt, hlisted]
  dsimp only
  rw [hdocs, bufferOf_document]
  dsimp only
  split
  · exact ⟨_, rfl, rfl, rfl⟩
  · next hreplace =>
    obtain ⟨b, hb, hpath, hattached⟩ :=
      (Find.Replacer.replaceAt_spec hreplace).1.keeps 0 _ rfl
    exact ⟨b, hb, hpath, hattached⟩

/-- Neither of the moves opens a file as such or keeps unsaved changes. -/
theorem whole_of_mem_replacing (hm : m ∈ replacing) :
    ∃ a h, m = .whole a h ∧ (∀ p choice, a ≠ .openFile p choice) ∧ ∀ id, a ≠ .autosave id := by
  rcases List.mem_cons.1 hm with rfl | hm
  · exact ⟨_, rfl, rfl, fun _ _ => Act.noConfusion, fun _ => Act.noConfusion⟩
  · obtain rfl := List.mem_singleton.1 hm
    exact ⟨_, rfl, rfl, fun _ _ => Act.noConfusion, fun _ => Act.noConfusion⟩

theorem spares_replacing (hms : ms <+: replacing) :
    twoFiles.Spares ((plainDesk twoFiles).play idleMachine ms).disk := by
  refine spares_play (d := plainDesk twoFiles) (tidy_plainDesk twoFiles) fun m hm => ?_
  obtain ⟨a, h, heq, hopen, -⟩ := whole_of_mem_replacing (hms.subset hm)
  exact ⟨a, h, heq, hopen⟩

theorem fileAt_document : twoFiles.FileAt ["a"] := fileAt_root rfl rfl

theorem fileAt_sidecar : twoFiles.FileAt ["#a#"] := fileAt_root rfl rfl

/-- The sidecar has been there all along. -/
theorem leftover_sidecar : (plainDesk twoFiles).Leftover idleMachine replacing ["#a#"] where
  named := ⟨"a", rfl⟩
  there ms back hsplit := (spares_replacing ⟨back, hsplit.symm⟩).files _ fileAt_sidecar
  unwritten := by
    rintro ms m back hsplit ⟨id, h, b, s, heq, -⟩
    have hm : m ∈ replacing := hsplit ▸ List.mem_append_right _ List.mem_cons_self
    obtain ⟨a, ha, heq', -, hauto⟩ := whole_of_mem_replacing hm
    cases heq.symm.trans heq'
    exact hauto id rfl

/-- Saving the document takes it away. -/
theorem not_fileAt_sidecar :
    ¬ ((plainDesk twoFiles).play idleMachine (replacing ++ [.save 0])).disk.FileAt ["#a#"] := by
  obtain ⟨b, hb, hpath, hattached⟩ := buffer?_replacing
  have hspares := spares_replacing (List.prefix_refl replacing)
  have hat := hspares.files _ fileAt_document
  have hthere := hspares.files _ fileAt_sidecar
  have hend : ((plainDesk twoFiles).play idleMachine (replacing ++ [.save 0])).disk =
      (b.save ((plainDesk twoFiles).play idleMachine replacing).disk).2.1 := by
    rw [play_concat]
    show (Store.save _ 0).2.disk = _
    rw [Store.save, hb]
    rfl
  rw [hend]
  refine Buffer.not_fileAt_of_save hattached ?_ hat hthere fun d' hd' => ?_
  · rw [hpath]
    exact locate_of_fileAt (by decide +kernel) hat true
  · rw [hpath, sidecarOf_document]
    exact locate_of_fileAt (by decide +kernel) (hd'.files _ hthere) false

/-- **A leftover is taken away unasked** when a match in its document is
replaced and the document is saved. -/
theorem not_askedFirst_match :
    ¬ (plainDesk twoFiles).AskedFirst idleMachine
      ((plainDesk twoFiles).moves idleMachine replacedAndSaved) := by
  intro hlaw
  obtain ⟨ms, m, back, hsplit, p, choice, h, sidecar, heq, -⟩ :=
    hlaw replacing (.save 0) _ rfl (fun r => Move.noConfusion) ["#a#"] leftover_sidecar
      not_fileAt_sidecar
  -- Nothing was opened as a file, so nobody was asked.
  have hmem : m ∈ replacing ++ [.save 0] := hsplit ▸ List.mem_append_right _ List.mem_cons_self
  rcases List.mem_append.1 hmem with hm | hm
  · obtain ⟨a, ha, heq', hopen, -⟩ := whole_of_mem_replacing hm
    cases heq.symm.trans heq'
    exact hopen p choice rfl
  · cases heq.symm.trans (List.mem_singleton.1 hm)

end Desk
end CodeDesk
