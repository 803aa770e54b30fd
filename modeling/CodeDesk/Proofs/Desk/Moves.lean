import CodeDesk.Proofs.Desk.Session
import CodeDesk.Proofs.Files.Stay
/-!
# Moves — the disk in the course of a session

Saving documents is more than one thing for the disk: buffers are written,
and behind each of them programs run that may do anything. So an act is
taken apart into moves, each of which is either such programs or the desk's
own doing (`play_moves`). Of its own doing the desk makes no directory and
no link (`within_move`), and it takes files away in two places only: where a
buffer is saved, and where a file is opened whose sidecar the user wants
thrown away (`removed_of_move`).
-/

namespace CodeDesk

open Disk (Spares)

/-! ## What becomes of the disk -/

namespace Buffer

variable {d d' : Disk} {b : Buffer}

/-- **A save** writes a file and then removes its sidecar, if it comes to
it. -/
theorem disk_save (d : Disk) (b : Buffer) :
    ∃ written, d.Spares written ∧
      ((b.save d).2.1 = written ∨ written.removeFile (sidecarOf b.path) = .ok (b.save d).2.1) := by
  rw [save]
  obtain ⟨e, h⟩ | ⟨written, r, d', hwrite, h, hdisk⟩ := saveBy_cases .ofDisk d b
  · exact ⟨d, .refl d, .inl (by rw [h])⟩
  · refine ⟨written.tick.2, (Disk.spares_write hwrite).trans written.spares_tick, ?_⟩
    rw [h]
    exact hdisk

/-- **The sidecar is gone** behind a save, if the path of the buffer leads to
a file. -/
theorem not_fileAt_of_save {at_ loc : Location} (hattached : b.attached)
    (hpath : d.locate true b.path = .ok at_) (hat : d.FileAt at_) (hfile : d.FileAt loc)
    (hsidecar : ∀ d' : Disk, d.Spares d' → d'.locate false (sidecarOf b.path) = .ok loc) :
    ¬ (b.save d).2.1.FileAt loc := by
  obtain ⟨written, hwrite⟩ := Disk.exists_write hpath hat (Utf8.encode b.text)
  have hspares := (Disk.spares_write hwrite).trans written.spares_tick
  obtain ⟨d', hremoved, hgone⟩ :=
    Disk.exists_removeFile (hsidecar _ hspares) (hspares.files loc hfile)
  have hend : (b.save d).2.1 = d' := by
    unfold save saveBy settleBy removeSidecarBy
    simp only [Disk.Calls.ofDisk, hattached, hwrite, hremoved]
    rfl
  rw [hend]
  exact hgone

theorem spares_autosave {wrote : Bool} (h : b.autosave d = .ok (wrote, d')) : d.Spares d' := by
  rw [autosave] at h
  split at h
  · split at h
    · next hwrite =>
      cases h
      unfold writeSidecar at hwrite
      split at hwrite
      · next hfile =>
        cases hwrite
        exact Disk.spares_write hfile
      · cases hwrite
    · cases h
  · cases h
    exact .refl d

end Buffer

namespace Store

variable {s s' : Store} {id : BufferId} {wrote : Bool}

theorem spares_autosave (h : s.autosave id = .ok (wrote, s')) : s.disk.Spares s'.disk := by
  rw [autosave] at h
  split at h
  · next b _ =>
    cases hauto : b.autosave s.disk with
    | error e =>
      rw [hauto] at h
      cases h
    | ok r =>
      rw [hauto] at h
      cases h
      exact Buffer.spares_autosave hauto
  · cases h
    exact .refl s.disk

theorem disk_modify (s : Store) (id : BufferId) (f : Buffer → Buffer) :
    (s.modify id f).disk = s.disk := by
  rw [modify]
  split <;> rfl

theorem disk_highlight (s : Store) (id : BufferId) (rs : List Region) :
    (s.highlight id rs).disk = s.disk :=
  s.disk_modify id _

theorem spares_setText (s : Store) (id : BufferId) (text : String) :
    s.disk.Spares (s.setText id text).disk := by
  rw [setText, disk_modify]
  exact s.disk.spares_tick

end Store

namespace Find
namespace Replacer

variable {r r' : Replacer} {l : Link} {id : BufferId} {s s' : Store} {answer : Bool}
  {opener : Opener}

theorem spares_replace (h : r.replace l id s = .ok (answer, r', s')) :
    s.disk.Spares s'.disk := by
  rcases replace_inv h with ⟨-, -, rfl⟩ | ⟨-, region, text, keepCase, edit, hreplace, -⟩
  · exact .refl s'.disk
  · obtain ⟨b, new, -, rfl⟩ := Store.replace_inv hreplace
    exact s.disk.spares_tick

theorem spares_replaceAt {v v' : View} {line : Nat}
    (h : r.replaceAt v line id s = .ok (answer, r', v', s')) : s.disk.Spares s'.disk := by
  rw [replaceAt] at h
  split at h
  · cases h
  · split at h
    · cases h
    · next replaced r₁ s₁ hreplace =>
      cases h
      exact (spares_replace hreplace).trans (.of_eq (s₁.disk_highlight id _))

theorem spares_replaceRegions (f : FileResult) (id : BufferId) (regions : List Region)
    (r : Replacer) (s : Store) :
    s.disk.Spares (replaceRegions f id regions r s).2.2.2.disk := by
  induction regions generalizing r s with
  | nil => exact .refl s.disk
  | cons region rest ih =>
    rw [replaceRegions]
    split
    · exact .refl s.disk
    · next replaced r₁ s₁ heq => exact (spares_replace heq).trans (ih r₁ s₁)

/-- Replacing everything takes no file away, if getting a buffer takes
none. -/
theorem spares_replaceFiles
    (hopener : ∀ (p : Path) (d : Documents), d.store.disk.Spares (opener p d).2.store.disk)
    (fs : List FileResult) (r : Replacer) (d : Documents) :
    d.store.disk.Spares (replaceFiles opener fs r d).2.2.2.store.disk := by
  induction fs generalizing r d with
  | nil => exact .refl d.store.disk
  | cons f fs ih =>
    have hbuffer : d.store.disk.Spares (bufferFor opener f d).2.store.disk := by
      rw [bufferFor]
      split
      · exact .refl d.store.disk
      · exact hopener f.path d
    rw [replaceFiles]
    split
    · next heq =>
      rw [heq] at hbuffer
      exact hbuffer
    · next id d₁ heq =>
      rw [heq] at hbuffer
      have hregions := spares_replaceRegions f id f.regions r d₁.store
      split
      · next hrun =>
        rw [hrun] at hregions
        exact hbuffer.trans hregions
      · next n u r₁ s₁ hrun =>
        rw [hrun] at hregions
        have hshown := (hbuffer.trans hregions).trans (.of_eq (s₁.disk_highlight id []))
        exact hshown.trans (ih r₁ { d₁ with store := s₁.highlight id [] })

end Replacer
end Find

namespace Desk

variable {σ : Type} {M : Machine} {d : Desk σ} {docs : Documents} {p : Path}
  {choice : SidecarChoice} {a : Act} {id : BufferId} {loc : Location}

theorem disk_bufferOf (docs : Documents) (p : Path) :
    (bufferOf docs p).2.store.disk = docs.store.disk := by
  have hread : (docs.byPath p).2.store = docs.store := rfl
  rw [bufferOf]
  split
  · next heq =>
    rw [heq] at hread
    rw [hread]
  · next docs' heq =>
    rw [heq] at hread
    split
    · rw [hread]
    · next hopen =>
      obtain ⟨b, -, -, -, rfl⟩ := Store.openFile_inv hopen
      show docs'.store.disk = docs.store.disk
      rw [hread]

theorem spares_openResult (d : Desk σ) (line : Nat) : d.disk.Spares (d.openResult line).2.disk := by
  rw [openResult]
  split
  · exact .refl d.disk
  · next f l _ =>
    have hbuffer : d.disk.Spares (bufferOf d.documents l.path).2.store.disk :=
      .of_eq (disk_bufferOf d.documents l.path)
    split
    · next heq =>
      rw [heq] at hbuffer
      exact hbuffer
    · next id docs heq =>
      rw [heq] at hbuffer
      have hshown := hbuffer.trans
        (.of_eq (docs.store.disk_highlight id (f.replacer.highlights l.path)))
      dsimp only
      split
      · exact hshown
      · exact hshown

theorem spares_replaceAt (d : Desk σ) (line : Nat) : d.disk.Spares (d.replaceAt line).2.disk := by
  rw [replaceAt]
  split
  · exact .refl d.disk
  · next f l _ =>
    have hbuffer : d.disk.Spares (bufferOf d.documents l.path).2.store.disk :=
      .of_eq (disk_bufferOf d.documents l.path)
    split
    · next heq =>
      rw [heq] at hbuffer
      exact hbuffer
    · next id docs heq =>
      rw [heq] at hbuffer
      split
      · exact hbuffer
      · next hreplace => exact hbuffer.trans (Find.Replacer.spares_replaceAt hreplace)

theorem spares_replaceAll (d : Desk σ) : d.disk.Spares d.replaceAll.2.disk := by
  rw [replaceAll]
  split
  · exact .refl d.disk
  · next f _ =>
    exact Find.Replacer.spares_replaceFiles (fun p docs => .of_eq (disk_bufferOf docs p))
      f.results.files f.replacer d.documents

/-- A file that is opened anew takes its sidecar away only if the user was
asked about it. -/
theorem disk_openNew (hnew : docs.list.byPath docs.store p = none) :
    (openNew docs p choice).2.store.disk = docs.store.disk ∨
      sidecarFound? docs p = some (sidecarOf p) ∧
        docs.store.disk.removeFile (sidecarOf p) = .ok (openNew docs p choice).2.store.disk := by
  cases hb : Buffer.ofFile docs.store.disk p with
  | error e =>
    rw [openNew, Store.openFile, hb]
    exact .inl rfl
  | ok b =>
    have hfound := sidecarFound?_eq hnew hb
    rw [openNew_eq choice hb, Buffer.reconcile.eq_def, (ofFile_spec hb).1]
    by_cases hhas : b.hasSidecar docs.store.disk = true
    · rw [if_pos hhas] at hfound
      rw [if_pos hhas]
      cases choice with
      | discard =>
        dsimp only
        cases hremoved : Buffer.removeSidecar docs.store.disk p with
        | error e => exact .inl rfl
        | ok removed =>
          exact (Buffer.removeSidecarBy_inv hremoved).symm.imp And.right fun h => ⟨hfound, h⟩
      | openSeparately =>
        dsimp only
        cases Buffer.ofFile docs.store.disk (sidecarOf p) with
        | error e => exact .inl rfl
        | ok c => exact .inl rfl
    · rw [if_neg hhas]
      exact .inl rfl

theorem disk_openFile (p : Path) (choice : SidecarChoice) (h : d.documents.Tidy) :
    (d.openFile p choice).2.disk = d.disk ∨
      sidecarFound? d.documents p = some (sidecarOf p) ∧
        d.disk.removeFile (sidecarOf p) = .ok (d.openFile p choice).2.disk := by
  have hlist : d.documents.list.byPath d.documents.store p =
      d.documents.list.ids.find? fun id => d.documents.store.pathOf id == p := by
    rw [OpenList.byPath, OpenList.buffers, h.live]
  rw [openFile, h.byPath]
  cases hfind : d.documents.list.ids.find? fun id => d.documents.store.pathOf id == p with
  | some id => exact .inl rfl
  | none => exact disk_openNew (hlist.trans hfind)

/-! ## Moves -/

/-- Whether an act is one move: no buffers are saved in it, and no programs
run. -/
def Act.isWhole : Act → Bool
  | .saveFile _ _ => false
  | .saveAll _ => false
  | .meanwhile _ => false
  | _ => true

/-- What an act consists of. -/
inductive Move where
  /-- A buffer is saved. -/
  | save (id : BufferId)
  /-- Programs have run, and may have changed the disk. -/
  | programs (r : Command.Runner)
  /-- Any other act. -/
  | whole (a : Act) (h : a.isWhole = true)

/-- The desk after a move. -/
def move (M : Machine) (d : Desk σ) : Move → Desk σ
  | .save id => (saveBuffer id d).2
  | .programs r => d.withRunner r
  | .whole a _ => d.act M a

/-- The desk after a list of moves. -/
def play (M : Machine) (d : Desk σ) (ms : List Move) : Desk σ := ms.foldl (move M) d

/-- The moves of saving buffers in turn, up to the first failure. -/
def savesOf (M : Machine) (p : Command.Prompter) : List BufferId → Desk σ → List Move
  | [], _ => []
  | id :: ids, d =>
    match saveBuffer id d with
    | (.error _, _) => [.save id]
    | (.ok _, d) =>
      .save id :: .programs (d.postSave M id p).2.runner :: savesOf M p ids (d.postSave M id p).2

/-- The moves of an act. -/
def movesOf (M : Machine) (d : Desk σ) : Act → List Move
  | .saveFile id p => [.save id, .programs (d.saveFile M id p).2.runner]
  | .saveAll p => savesOf M p (d.openList.ids.filter d.documents.store.isDirty) d
  | .meanwhile r => [.programs r]
  | .openFile p choice => [.whole (.openFile p choice) rfl]
  | .closeFile id => [.whole (.closeFile id) rfl]
  | .autosave id => [.whole (.autosave id) rfl]
  | .edit id text => [.whole (.edit id text) rfl]
  | .find r active cancelled => [.whole (.find r active cancelled) rfl]
  | .openResult line => [.whole (.openResult line) rfl]
  | .replaceAt line => [.whole (.replaceAt line) rfl]
  | .replaceAll => [.whole .replaceAll rfl]

/-- The moves of a list of acts. -/
def moves (M : Machine) : Desk σ → List Act → List Move
  | _, [] => []
  | d, a :: acts => d.movesOf M a ++ moves M (d.act M a) acts

theorem play_append (M : Machine) (d : Desk σ) (ms ms' : List Move) :
    d.play M (ms ++ ms') = (d.play M ms).play M ms' :=
  List.foldl_append

theorem play_concat (M : Machine) (d : Desk σ) (ms : List Move) (m : Move) :
    d.play M (ms ++ [m]) = (d.play M ms).move M m :=
  d.play_append M ms [m]

theorem play_savesOf (M : Machine) (p : Command.Prompter) (ids : List BufferId) (d : Desk σ) :
    d.play M (savesOf M p ids d) = (d.saveInTurn M p ids).2.2 := by
  unfold saveInTurn
  induction ids generalizing d with
  | nil => rfl
  | cons id ids ih =>
    rw [savesOf, OpenList.saveEach]
    rcases heq : saveBuffer id d with ⟨e | u, d'⟩
    · exact congrArg Prod.snd heq
    · have hsave : d.move M (.save id) = d' := congrArg Prod.snd heq
      obtain ⟨r, hr⟩ := postSave_eq M d' id p
      have hhooks : d'.withRunner (d'.postSave M id p).2.runner = (d'.postSave M id p).2 := by
        rw [hr]
        rfl
      rw [play, List.foldl_cons, List.foldl_cons, hsave]
      exact (congrArg (fun d => d.play M (savesOf M p ids (d'.postSave M id p).2)) hhooks).trans
        (ih (d'.postSave M id p).2)

/-- The moves of an act do what it does. -/
theorem play_movesOf (h : d.documents.Tidy) (a : Act) :
    d.play M (d.movesOf M a) = d.act M a := by
  cases a with
  | saveFile id p =>
    show ((saveBuffer id d).2).withRunner (d.saveFile M id p).2.runner = (d.saveFile M id p).2
    unfold saveFile
    split
    · next e d' heq => rw [heq]; rfl
    · next d' heq =>
      obtain ⟨r, hr⟩ := postSave_eq M d' id p
      rw [heq]
      dsimp only
      rw [hr]
      rfl
  | saveAll p =>
    rw [act, saveAll_eq h]
    exact play_savesOf M p _ d
  | _ => rfl

/-- **The moves of a list of acts** do what the acts do. -/
theorem play_moves (h : d.documents.Tidy) (acts : List Act) :
    d.play M (d.moves M acts) = d.after M acts := by
  induction acts generalizing d with
  | nil => rfl
  | cons a acts ih =>
    rw [moves, play_append, play_movesOf h]
    exact ih (tidy_act h a)

/-! ## What a move does -/

theorem tidy_move (h : d.documents.Tidy) (m : Move) : (d.move M m).documents.Tidy := by
  cases m with
  | save id => exact (continues_saveBuffer h id).documents.tidy
  | programs r => exact (continues_withRunner h r).documents.tidy
  | whole a _ => exact tidy_act h a

theorem tidy_play (h : d.documents.Tidy) (ms : List Move) : (d.play M ms).documents.Tidy := by
  induction ms generalizing d with
  | nil => exact h
  | cons m ms ih => exact ih (tidy_move h m)

/-- A buffer keeps its path for good. -/
theorem pathOf_move (h : d.documents.Tidy) (hid : id < d.buffers.length) (m : Move) :
    id < (d.move M m).buffers.length ∧
      (d.move M m).documents.store.pathOf id = d.documents.store.pathOf id := by
  have hkept : ∀ {d' : Desk σ}, d.documents.store.Keeps d'.documents.store →
      id < d'.buffers.length ∧ d'.documents.store.pathOf id = d.documents.store.pathOf id :=
    fun hkeeps => ⟨Nat.lt_of_lt_of_le hid hkeeps.length_le, hkeeps.pathOf hid⟩
  cases m with
  | save j => exact hkept (continues_saveBuffer h j).documents.keeps
  | programs r => exact hkept (continues_withRunner h r).documents.keeps
  | whole a _ =>
    by_cases hclose : ∃ j, a = .closeFile j
    · obtain ⟨j, rfl⟩ := hclose
      refine ⟨?_, d.documents.store.pathOf_close j id⟩
      obtain ⟨b, hb⟩ := Store.exists_buffer? (s := d.documents.store) hid
      have hb' := d.documents.store.buffer?_close j id
      rw [hb] at hb'
      split at hb' <;> exact Store.lt_of_buffer? hb'
    · exact hkept (grows_act h fun j heq => hclose ⟨j, heq⟩).keeps

theorem pathOf_play (h : d.documents.Tidy) (hid : id < d.buffers.length) (ms : List Move) :
    id < (d.play M ms).buffers.length ∧
      (d.play M ms).documents.store.pathOf id = d.documents.store.pathOf id := by
  induction ms generalizing d with
  | nil => exact ⟨hid, rfl⟩
  | cons m ms ih =>
    obtain ⟨hid', hpath⟩ := pathOf_move (M := M) h hid m
    obtain ⟨hlt, hsame⟩ := ih (tidy_move h m) hid'
    exact ⟨hlt, hsame.trans hpath⟩

/-- Most acts take no file away. -/
theorem spares_act (h : d.documents.Tidy) (ha : a.isWhole = true)
    (hopen : ∀ p choice, a ≠ .openFile p choice) : d.disk.Spares (d.act M a).disk := by
  cases a with
  | openFile p choice => exact absurd rfl (hopen p choice)
  | closeFile id => exact .of_eq (d.documents.store.disk_modify id _)
  | saveFile id p => cases ha
  | saveAll p => cases ha
  | autosave id =>
    rw [act]
    split
    · next wrote s hs => exact Store.spares_autosave hs
    · exact .refl d.disk
  | edit id text => exact Store.spares_setText d.documents.store id text
  | find r active cancelled =>
    exact .of_eq (congrArg (·.store.disk) (documents_find h r active cancelled))
  | openResult line => exact spares_openResult d line
  | replaceAt line => exact spares_replaceAt d line
  | replaceAll => exact spares_replaceAll d
  | meanwhile r => cases ha

/-- What a save does to the disk. -/
theorem disk_saveBuffer (d : Desk σ) (id : BufferId) :
    ∃ written, d.disk.Spares written ∧ ((saveBuffer id d).2.disk = written ∨
      written.removeFile (sidecarOf (d.documents.store.pathOf id)) =
        .ok (saveBuffer id d).2.disk) := by
  show ∃ written, d.disk.Spares written ∧ ((d.documents.store.save id).2.disk = written ∨
    written.removeFile (sidecarOf (d.documents.store.pathOf id)) =
      .ok (d.documents.store.save id).2.disk)
  rw [Store.save]
  cases hb : d.documents.store.buffer? id with
  | none => exact ⟨d.disk, .refl d.disk, .inl rfl⟩
  | some b =>
    rw [Store.pathOf_eq hb]
    exact Buffer.disk_save d.disk b

/-- Where nothing is opened and nothing saved, no file is taken away. -/
theorem spares_play (h : d.documents.Tidy) {ms : List Move}
    (hms : ∀ m ∈ ms, ∃ a ha, m = .whole a ha ∧ ∀ p choice, a ≠ .openFile p choice) :
    d.disk.Spares (d.play M ms).disk := by
  induction ms generalizing d with
  | nil => exact .refl d.disk
  | cons m ms ih =>
    obtain ⟨a, ha, rfl, hopen⟩ := hms m List.mem_cons_self
    have hfirst : d.disk.Spares (d.move M (.whole a ha)).disk := spares_act h ha hopen
    exact hfirst.trans (ih (tidy_move h _) fun m hm => hms m (List.mem_cons_of_mem _ hm))

/-- The user is asked about a file when a document is opened whose sidecar it
is. -/
def AsksAbout (d : Desk σ) (m : Move) (loc : Location) : Prop :=
  ∃ p choice h sidecar, m = .whole (.openFile p choice) h ∧
    sidecarFound? d.documents p = some sidecar ∧ d.disk.locate false sidecar = .ok loc

/-- **What the desk does to the disk** of its own: it makes no directory and
no link, and takes a file away only if it has just asked about it, or if it
is the sidecar of a buffer that is saved. -/
theorem removed_of_move (h : d.documents.Tidy) {m : Move} (hm : ∀ r, m ≠ .programs r) :
    (d.move M m).disk.Within d.disk ∧
      ∀ loc, d.disk.FileAt loc → (d.move M m).disk.FileAt loc ∨ d.AsksAbout m loc ∨
        ∃ (id : BufferId) (written : Disk), m = .save id ∧ written.Within d.disk ∧
          written.FileAt loc ∧
            written.locate false (sidecarOf (d.documents.store.pathOf id)) = .ok loc := by
  cases m with
  | save id =>
    obtain ⟨written, hspares, hend⟩ := disk_saveBuffer d id
    rcases hend with hsame | hremoved
    · have hall : d.disk.Spares (d.move M (.save id)).disk := hspares.trans (.of_eq hsame)
      exact ⟨hall.within, fun loc hloc => .inl (hall.files loc hloc)⟩
    · obtain ⟨hwithin, hfiles⟩ := Disk.removeFile_spec hremoved
      refine ⟨hwithin.trans hspares.within, fun loc hloc => ?_⟩
      have hwritten := hspares.files loc hloc
      rcases hfiles loc hwritten with hstays | hlocate
      · exact .inl hstays
      · exact .inr (.inr ⟨id, written, rfl, hspares.within, hwritten, hlocate⟩)
  | programs r => exact absurd rfl (hm r)
  | whole a ha =>
    by_cases hopen : ∃ p choice, a = .openFile p choice
    · obtain ⟨p, choice, rfl⟩ := hopen
      rcases disk_openFile p choice h with hsame | ⟨hfound, hremoved⟩
      · have hall : d.disk.Spares (d.move M (.whole (.openFile p choice) ha)).disk :=
          .of_eq hsame
        exact ⟨hall.within, fun loc hloc => .inl (hall.files loc hloc)⟩
      · obtain ⟨hwithin, hfiles⟩ := Disk.removeFile_spec hremoved
        refine ⟨hwithin, fun loc hloc => (hfiles loc hloc).imp_right fun hlocate => .inl ?_⟩
        exact ⟨p, choice, ha, sidecarOf p, rfl, hfound, hlocate⟩
    · have hall := spares_act (M := M) h ha fun p choice heq => hopen ⟨p, choice, heq⟩
      exact ⟨hall.within, fun loc hloc => .inl (hall.files loc hloc)⟩

end Desk
end CodeDesk
