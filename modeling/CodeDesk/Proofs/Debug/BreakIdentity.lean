import CodeDesk.Proofs.Debug.BreakEdit
import CodeDesk.Proofs.Files.Path
import Mathlib.Data.List.Induction
import Mathlib.Data.List.Nodup
import Mathlib.Data.List.Pairwise
/-!
# The identity of breakpoints — when two of them become one

A breakpoint is known to the user by its line and to the debugger by its
number. The user cannot set two on one line. The answers of a debugger can
make two breakpoints one all the same, and nothing looks out for that: the
list that it reports may put two of them on one line, and the numbers that
it gives back may hold one that another breakpoint has (`Clashes`).

These are the only two ways. As long as every answer has distinct numbers,
the breakpoints are distinct in every state just when no answer clashes
(`distinct_breaks_iff`). That two of them never share a number needs no
condition on the report: numbers that are merged clash only where the lines
do (`distinct_merge_iff`). `not_retakes` and `not_crowds` say what a
debugger has to do for its answers not to clash.
-/

namespace CodeDesk
namespace Debug

namespace Break

/-- The place of a breakpoint. -/
def place (home : Path) (b : Break) : List Component × Nat :=
  ((expandHome home b.path).components, b.line)

/-- No two breakpoints are at one line. -/
def Apart (home : Path) (bs : List Break) : Prop :=
  bs.Pairwise fun a b => ¬ a.isAt home b.path b.line

/-- No two breakpoints have the same number; zero is no number. -/
def Told (bs : List Break) : Prop := bs.Pairwise fun a b => a.id = b.id → a.id = 0

/-- No two breakpoints are the same to the user or to the debugger. -/
structure Distinct (home : Path) (bs : List Break) : Prop where
  apart : Apart home bs
  told : Told bs

instance (home : Path) (bs : List Break) : Decidable (Apart home bs) :=
  inferInstanceAs (Decidable (bs.Pairwise fun a b => ¬ a.isAt home b.path b.line))

instance (bs : List Break) : Decidable (Told bs) :=
  inferInstanceAs (Decidable (bs.Pairwise fun a b => a.id = b.id → a.id = 0))

section Distinct

variable {home path : Path} {line : Nat} {a b r : Break} {bs own reported pushed : List Break}

theorem isAt_iff :
    b.isAt home path line ↔ b.place home = ((expandHome home path).components, line) := by
  unfold isAt place
  rw [Bool.and_eq_true, beq_iff_eq, Path.beq_iff, Prod.mk.injEq, and_comm]

/-- Breakpoints are apart when their places are distinct. -/
theorem apart_iff : Apart home bs ↔ (bs.map (place home)).Nodup := by
  unfold Apart
  rw [List.Nodup, List.pairwise_map]
  simp only [isAt_iff]
  rfl

/-- A place tells a breakpoint from the others. -/
theorem Apart.eq_of_place (h : Apart home bs) (ha : a ∈ bs) (hb : b ∈ bs)
    (hplace : a.place home = b.place home) : a = b :=
  List.inj_on_of_nodup_map (apart_iff.1 h) ha hb hplace

/-- A number tells a breakpoint from the others. -/
theorem Told.eq_of_id (h : Told bs) (ha : a ∈ bs) (hb : b ∈ bs) (hid : a.id = b.id)
    (hne : a.id ≠ 0) : a = b := by
  -- The number may be that of either, so the relation goes both ways.
  have : Std.Symm fun a b : Break => a.id = b.id → a.id = 0 :=
    ⟨fun a b h heq => heq.trans (h heq.symm)⟩
  by_contra hab
  exact hne (List.Pairwise.forall h ha hb hab hid)

/-- Breakpoints that are apart have distinct numbers when a number is at
one place only. -/
theorem told_of_place (happart : Apart home bs)
    (h : ∀ a ∈ bs, ∀ b ∈ bs, a.id = b.id → a.id ≠ 0 → a.place home = b.place home) : Told bs := by
  refine List.Pairwise.imp_of_mem ?_ happart
  intro a b ha hb hne hid
  by_contra hnum
  exact hne (isAt_iff.2 (h a ha b hb hid hnum))

/-! ## Changes of the user -/

/-- A breakpoint that is set is a new one. -/
theorem Distinct.add (h : Distinct home bs) (path : Path) (line : Nat) :
    Distinct home ((BreakEdit.add path line).apply home bs) := by
  unfold BreakEdit.apply
  dsimp only
  split
  · exact h
  · next hany =>
    refine ⟨?_, ?_⟩
    · refine List.pairwise_append.2 ⟨h.apart, List.pairwise_singleton _ _, ?_⟩
      intro b hb e he hat
      cases List.mem_singleton.1 he
      exact hany (List.any_eq_true.2 ⟨b, hb, hat⟩)
    · refine List.pairwise_append.2 ⟨h.told, List.pairwise_singleton _ _, ?_⟩
      intro b hb e he hid
      cases List.mem_singleton.1 he
      exact hid

theorem Distinct.delete (h : Distinct home bs) (path : Path) (line : Nat) :
    Distinct home ((BreakEdit.delete path line).apply home bs) :=
  ⟨h.apart.sublist List.filter_sublist, h.told.sublist List.filter_sublist⟩

/-- Switching a breakpoint leaves what does not depend on that. -/
theorem map_toggleIn {β : Type} {f : Break → β}
    (hf : ∀ b, f { b with enabled := !b.enabled } = f b) :
    (Controller.toggleIn home path line bs).map f = bs.map f := by
  induction bs with
  | nil => rfl
  | cons b bs ih =>
    unfold Controller.toggleIn
    split
    · rw [List.map_cons, List.map_cons, hf]
    · rw [List.map_cons, List.map_cons, ih]

theorem Distinct.toggle (h : Distinct home bs) (path : Path) (line : Nat) :
    Distinct home ((BreakEdit.toggle path line).apply home bs) := by
  have hplace : (Controller.toggleIn home path line bs).map (place home) = bs.map (place home) :=
    map_toggleIn fun _ => rfl
  have hids : (Controller.toggleIn home path line bs).map Break.id = bs.map Break.id :=
    map_toggleIn fun _ => rfl
  have htold : ∀ bs : List Break, Told bs ↔ (bs.map Break.id).Pairwise fun m n => m = n → m = 0 :=
    fun bs => (List.pairwise_map (f := Break.id) (R := fun m n => m = n → m = 0)).symm
  refine ⟨?_, ?_⟩
  · exact apart_iff.2 (hplace.symm ▸ apart_iff.1 h.apart)
  · exact (htold _).2 (hids.symm ▸ (htold bs).1 h.told)

/-! ## Numbers that a debugger gives back -/

/-- The number that is given back for the place of a breakpoint. -/
def given? (home : Path) (pushed : List Break) (b : Break) : Option Nat :=
  (pushed.find? fun p => p.id != 0 && b.isAt home p.path p.line).map Break.id

/-- A breakpoint as the numbers that are given back leave it. -/
def numbered (home : Path) (pushed : List Break) (b : Break) : Break :=
  if b.id = 0 then { b with id := (given? home pushed b).getD 0 } else b

/-- A breakpoint that has no number is given one that another breakpoint
has. -/
def Retakes (home : Path) (own pushed : List Break) : Prop :=
  ∃ b ∈ own, b.id = 0 ∧ ∃ c ∈ own, given? home pushed b = some c.id

theorem given?_cons (p : Break) :
    given? home (p :: pushed) b =
      if p.id != 0 && b.isAt home p.path p.line then some p.id else given? home pushed b := by
  unfold given?
  rw [List.find?_cons]
  split
  · next hp => rw [if_pos hp]; rfl
  · next hp => rw [if_neg (Bool.not_eq_true _ ▸ hp)]

theorem given?_eq_some {n : Nat} (h : given? home pushed b = some n) :
    n ≠ 0 ∧ ∃ p ∈ pushed, p.id = n ∧ p.place home = b.place home := by
  obtain ⟨p, hp, rfl⟩ := Option.map_eq_some_iff.1 h
  have hfound := List.find?_some hp
  rw [Bool.and_eq_true, bne_iff_ne] at hfound
  exact ⟨hfound.1, p, List.mem_of_find?_eq_some hp, rfl, (isAt_iff.1 hfound.2).symm⟩

theorem numbered_of_ne (hne : b.id ≠ 0) : numbered home pushed b = b := if_neg hne

/-- A breakpoint without a number has one afterwards just when it was given
that. -/
theorem id_numbered_iff {n : Nat} (hid : b.id = 0) (hn : n ≠ 0) :
    (numbered home pushed b).id = n ↔ given? home pushed b = some n := by
  unfold numbered
  rw [if_pos hid]
  show (given? home pushed b).getD 0 = n ↔ _
  cases given? home pushed b with
  | none => exact iff_of_false (fun hzero => hn hzero.symm) nofun
  | some m => exact (Option.some_inj).symm

theorem place_numbered : (numbered home pushed b).place home = b.place home := by
  unfold numbered
  split <;> rfl

theorem numbered_singleton (p : Break) :
    numbered home [p] b =
      if b.id == 0 && b.isAt home p.path p.line then { b with id := p.id } else b := by
  obtain ⟨id, path, line, enabled, cond⟩ := b
  rw [numbered, given?_cons]
  by_cases hid : id = 0
  · subst hid
    by_cases hp : p.id = 0
    · simp [hp, given?]
    · simp only [given?, bne_iff_ne.2 hp, Bool.true_and, if_true, beq_self_eq_true]
      split <;> rfl
  · simp [hid]

/-- The first number that is given for a place counts. -/
theorem numbered_cons (p : Break) :
    numbered home pushed (numbered home [p] b) = numbered home (p :: pushed) b := by
  by_cases hid : b.id = 0
  · unfold numbered
    rw [if_pos hid, if_pos hid, given?_cons, given?_cons]
    split
    · next hp => exact if_neg (bne_iff_ne.1 (Bool.and_eq_true_iff.1 hp).1)
    · exact if_pos rfl
  · rw [numbered_of_ne hid, numbered_of_ne hid, numbered_of_ne hid]

theorem Apart.numbered (h : Apart home own) :
    Apart home (own.map (Break.numbered home pushed)) := by
  refine apart_iff.2 ?_
  rw [List.map_map, show place home ∘ Break.numbered home pushed = place home from
    funext fun _ => place_numbered]
  exact apart_iff.1 h

/-- Giving one number, to the first breakpoint at its place. No other
breakpoint is there. -/
theorem assign_eq_map (h : Apart home own) (p : Break) :
    assign home p own = own.map (Break.numbered home [p]) := by
  induction own with
  | nil => rfl
  | cons b bs ih =>
    have hrest := List.pairwise_cons.1 h
    unfold assign
    rw [List.map_cons, numbered_singleton]
    split
    · next hat =>
      have hplace := isAt_iff.1 (Bool.and_eq_true_iff.1 hat).2
      have hother : ∀ c ∈ bs, Break.numbered home [p] c = c := by
        intro c hc
        rw [numbered_singleton, if_neg]
        intro hcat
        have hcplace := isAt_iff.1 (Bool.and_eq_true_iff.1 hcat).2
        exact hrest.1 c hc (isAt_iff.2 (hplace.trans hcplace.symm))
      rw [List.map_congr_left hother, List.map_id']
    · rw [ih hrest.2]

/-- **Numbers are given breakpoint by breakpoint.** -/
theorem assignAll_eq_map (h : Apart home own) :
    assignAll home own pushed = own.map (Break.numbered home pushed) := by
  induction pushed generalizing own with
  | nil =>
    have hsame : ∀ b ∈ own, Break.numbered home [] b = b := by
      intro b _
      unfold Break.numbered
      split
      · next hid => cases b; cases hid; rfl
      · rfl
    rw [List.map_congr_left hsame, List.map_id']
    rfl
  | cons p ps ih =>
    show assignAll home (assign home p own) ps = _
    rw [assign_eq_map h, ih h.numbered, List.map_map]
    exact List.map_congr_left fun b _ => numbered_cons p

theorem Apart.assignAll (h : Apart home own) : Apart home (assignAll home own pushed) :=
  assignAll_eq_map h ▸ h.numbered

/-- **Giving numbers makes two breakpoints one just when it gives one that
another breakpoint has.** -/
theorem distinct_push_iff (h : Distinct home own) (hpushed : Told pushed) :
    Distinct home ((BreakEdit.push pushed).apply home own) ↔ ¬ Retakes home own pushed := by
  show Distinct home (Break.assignAll home own pushed) ↔ _
  rw [assignAll_eq_map h.apart]
  constructor
  · rintro hdistinct ⟨b, hb, hid, c, hc, hgiven⟩
    have hcne : c.id ≠ 0 := (given?_eq_some hgiven).1
    have hnum : (numbered home pushed b).id = c.id := (id_numbered_iff hid hcne).2 hgiven
    have hkept : c ∈ own.map (numbered home pushed) :=
      List.mem_map.2 ⟨c, hc, numbered_of_ne hcne⟩
    have hsame : numbered home pushed b = c :=
      hdistinct.told.eq_of_id (List.mem_map_of_mem hb) hkept hnum (hnum ▸ hcne)
    have hbc : b = c := h.apart.eq_of_place hb hc (by rw [← hsame, place_numbered])
    exact hcne (hbc ▸ hid)
  · intro hnot
    refine ⟨h.apart.numbered, told_of_place h.apart.numbered ?_⟩
    intro a' ha' b' hb' hid hne
    obtain ⟨a, ha, rfl⟩ := List.mem_map.1 ha'
    obtain ⟨b, hb, rfl⟩ := List.mem_map.1 hb'
    rw [place_numbered, place_numbered]
    -- Each of the two has kept its number or was given it.
    by_cases hazero : a.id = 0
    · have hagiven := (id_numbered_iff hazero hne).1 rfl
      by_cases hbzero : b.id = 0
      · have hbgiven := (id_numbered_iff hbzero hne).1 hid.symm
        obtain ⟨-, p, hp, hpid, hpa⟩ := given?_eq_some hagiven
        obtain ⟨-, q, hq, hqid, hqb⟩ := given?_eq_some hbgiven
        have hpq : p = q := hpushed.eq_of_id hp hq (hpid.trans hqid.symm) (hpid ▸ hne)
        rw [← hpa, ← hqb, hpq]
      · rw [numbered_of_ne hbzero] at hid
        exact absurd ⟨a, ha, hazero, b, hb, hid ▸ hagiven⟩ hnot
    · rw [numbered_of_ne hazero] at hid hne
      by_cases hbzero : b.id = 0
      · have hbgiven := (id_numbered_iff hbzero hne).1 hid.symm
        exact absurd ⟨b, hb, hbzero, a, ha, hbgiven⟩ hnot
      · rw [numbered_of_ne hbzero] at hid
        rw [h.told.eq_of_id ha hb hid hne]

/-- A debugger that keeps the breakpoints it has numbered where the user has
them gives no number twice. -/
theorem not_retakes (h : Distinct home own) (hpushed : Told pushed)
    (hkeeps : ∀ b ∈ own, b.id ≠ 0 → ∃ p ∈ pushed, p.id = b.id ∧ p.place home = b.place home) :
    ¬ Retakes home own pushed := by
  rintro ⟨b, hb, hid, c, hc, hgiven⟩
  obtain ⟨hcne, p, hp, hpid, hpb⟩ := given?_eq_some hgiven
  obtain ⟨q, hq, hqid, hqc⟩ := hkeeps c hc hcne
  have hpq : p = q := hpushed.eq_of_id hp hq (hpid.trans hqid.symm) (hpid ▸ hcne)
  have hbc : b = c := h.apart.eq_of_place hb hc (by rw [← hpb, ← hqc, hpq])
  exact hcne (hbc ▸ hid)

/-! ## Breakpoints that a debugger lists -/

theorem mem_of_reportOf (h : b.reportOf home reported = some r) : r ∈ reported := by
  unfold reportOf at h
  split at h <;> exact List.mem_of_find?_eq_some h

/-- A report is about the breakpoint that has its number. -/
theorem id_of_reportOf (hne : b.id ≠ 0) (h : b.reportOf home reported = some r) : r.id = b.id := by
  unfold reportOf at h
  rw [if_neg hne] at h
  have hid := List.find?_some h
  exact beq_iff_eq.1 hid

theorem ne_of_reportOf_none (hne : b.id ≠ 0) (h : b.reportOf home reported = none)
    (hr : r ∈ reported) : r.id ≠ b.id := by
  unfold reportOf at h
  rw [if_neg hne] at h
  exact fun hid => List.find?_eq_none.1 h r hr (beq_iff_eq.2 hid)

/-- Where a breakpoint is according to a report; the report may say nothing
about it. -/
def spot (home : Path) (reported : List Break) (b : Break) : List Component × Nat :=
  ((b.reportOf home reported).getD b).place home

/-- A report puts two breakpoints on one line. -/
def Crowds (home : Path) (own reported : List Break) : Prop :=
  ∃ a ∈ own, ∃ b ∈ own, a ≠ b ∧ spot home reported a = spot home reported b

/-- A breakpoint as a report leaves it. -/
def merged (home : Path) (reported : List Break) (b : Break) : Break :=
  match b.reportOf home reported with
  | some r => b.resolve r
  | none => b

/-- A breakpoint is where the report about it says, or nothing in the
report has its number. -/
theorem merged_cases (home : Path) (reported : List Break) (b : Break) :
    (∃ r ∈ reported, merged home reported b = b.resolve r) ∨
      (merged home reported b = b ∧ (b.id ≠ 0 → ∀ r ∈ reported, r.id ≠ b.id)) := by
  unfold merged
  split
  · next r hr => exact Or.inl ⟨r, mem_of_reportOf hr, rfl⟩
  · next hnone => exact Or.inr ⟨rfl, fun hne r => ne_of_reportOf_none hne hnone⟩

theorem place_merged : (merged home reported b).place home = spot home reported b := by
  unfold merged spot
  cases b.reportOf home reported <;> rfl

/-- Breakpoints are apart in a report that does not put two of them on one
line. -/
theorem apart_merge_iff (h : Apart home own) :
    Apart home (merge home own reported) ↔ ¬ Crowds home own reported := by
  have hspots : (merge home own reported).map (place home) = own.map (spot home reported) := by
    show (own.map (merged home reported)).map (place home) = _
    rw [List.map_map]
    exact List.map_congr_left fun _ _ => place_merged
  rw [apart_iff, hspots, List.nodup_map_iff_inj_on (apart_iff.1 h).of_map]
  constructor
  · rintro hinj ⟨a, ha, b, hb, hne, hspot⟩
    exact hne (hinj a ha b hb hspot)
  · intro hnot a ha b hb hspot
    by_contra hne
    exact hnot ⟨a, ha, b, hb, hne, hspot⟩

/-- **A report makes two breakpoints one just when it puts them on one
line.** -/
theorem distinct_merge_iff (h : Distinct home own) (hreported : Told reported) :
    Distinct home ((BreakEdit.merge reported).apply home own) ↔ ¬ Crowds home own reported := by
  refine ⟨fun hdistinct => (apart_merge_iff h.apart).1 hdistinct.apart, fun hnot => ?_⟩
  have happart : Apart home (merge home own reported) := (apart_merge_iff h.apart).2 hnot
  refine ⟨happart, told_of_place happart ?_⟩
  intro a' ha' b' hb' hid hne
  obtain ⟨a, ha, rfl⟩ := List.mem_map.1 (show a' ∈ own.map (merged home reported) from ha')
  obtain ⟨b, hb, rfl⟩ := List.mem_map.1 (show b' ∈ own.map (merged home reported) from hb')
  rcases merged_cases home reported a with ⟨r, hr, har⟩ | ⟨haa, hnoa⟩
  · rcases merged_cases home reported b with ⟨q, hq, hbq⟩ | ⟨hbb, hnob⟩
    · rw [har, hbq] at hid ⊢
      rw [har] at hne
      have hrq : r = q := hreported.eq_of_id hr hq hid hne
      rw [hrq]
      rfl
    · rw [har, hbb] at hid
      rw [har] at hne
      exact absurd hid (hnob (hid ▸ hne) r hr)
  · rcases merged_cases home reported b with ⟨q, hq, hbq⟩ | ⟨hbb, -⟩
    · rw [haa, hbq] at hid
      rw [haa] at hne
      exact absurd hid.symm (hnoa hne q hq)
    · rw [haa, hbb] at hid ⊢
      rw [haa] at hne
      rw [h.told.eq_of_id ha hb hid hne]

/-- A debugger that lists every breakpoint, on lines of their own, puts no
two on one. -/
theorem not_crowds (h : Distinct home own) (hreported : Apart home reported)
    (hlists : ∀ b ∈ own, b.id ≠ 0 ∧ ∃ r ∈ reported, r.id = b.id) : ¬ Crowds home own reported := by
  have hreport : ∀ b ∈ own, ∃ r ∈ reported, r.id = b.id ∧
      spot home reported b = r.place home := by
    intro b hb
    obtain ⟨hne, r, hr, hid⟩ := hlists b hb
    cases hfind : b.reportOf home reported with
    | none => exact absurd hid (ne_of_reportOf_none hne hfind hr)
    | some q =>
      exact ⟨q, mem_of_reportOf hfind, id_of_reportOf hne hfind, by rw [spot, hfind]; rfl⟩
  rintro ⟨a, ha, b, hb, hne, hspot⟩
  obtain ⟨r, hr, hrid, hra⟩ := hreport a ha
  obtain ⟨q, hq, hqid, hqb⟩ := hreport b hb
  have hrq : r = q := hreported.eq_of_place hr hq (by rw [← hra, ← hqb, hspot])
  exact hne (h.told.eq_of_id ha hb (by rw [← hrid, ← hqid, hrq]) (hlists a ha).1)

/-- A breakpoint keeps the number it has. -/
theorem merged_id (hne : b.id ≠ 0) : (merged home reported b).id = b.id := by
  unfold merged
  split
  · next r hr =>
    have hid : r.id = b.id := id_of_reportOf hne hr
    exact hid
  · rfl

/-- A report does not tell apart two breakpoints of one number. -/
theorem told_of_told_merge (h : Told (merge home own reported)) : Told own := by
  have hmap : (own.map (merged home reported)).Pairwise fun a b => a.id = b.id → a.id = 0 := h
  refine (List.pairwise_map.1 hmap).imp fun {a b} hab hid => ?_
  by_contra hne
  have hsame := hab (by rw [merged_id hne, merged_id (hid ▸ hne), hid])
  rw [merged_id hne] at hsame
  exact hne hsame

end Distinct

end Break

/-! ## Whole histories -/

namespace BreakEdit

open CodeDesk.Debug.Break

variable {home : Path} {own : List Break} {e : BreakEdit} {es : List BreakEdit}

/-- What a debugger answered has distinct numbers. -/
def Told : BreakEdit → Prop
  | push pushed => Break.Told pushed
  | merge reported => Break.Told reported
  | _ => True

/-- A change makes two breakpoints one: it gives one of them a number that
another one has, or puts them on one line. -/
def Clashes (home : Path) (own : List Break) : BreakEdit → Prop
  | push pushed => Retakes home own pushed
  | merge reported => Crowds home own reported
  | _ => False

/-- Some change of several, made one after the other, clashes. -/
def ClashAmong (home : Path) (own : List Break) : List BreakEdit → Prop
  | [] => False
  | e :: es => e.Clashes home own ∨ ClashAmong home (e.apply home own) es

instance (home : Path) (own pushed : List Break) : Decidable (Retakes home own pushed) :=
  inferInstanceAs (Decidable (∃ b ∈ own, b.id = 0 ∧ ∃ c ∈ own, _))

instance (home : Path) (own reported : List Break) : Decidable (Crowds home own reported) :=
  inferInstanceAs (Decidable (∃ a ∈ own, ∃ b ∈ own, a ≠ b ∧ _))

instance (home : Path) (own : List Break) : (e : BreakEdit) → Decidable (e.Clashes home own)
  | push pushed => inferInstanceAs (Decidable (Retakes home own pushed))
  | merge reported => inferInstanceAs (Decidable (Crowds home own reported))
  | add _ _ => isFalse not_false
  | delete _ _ => isFalse not_false
  | toggle _ _ => isFalse not_false

instance decidableClashAmong (home : Path) (own : List Break) :
    (es : List BreakEdit) → Decidable (ClashAmong home own es)
  | [] => isFalse not_false
  | e :: es =>
    have := decidableClashAmong home (e.apply home own) es
    inferInstanceAs (Decidable (e.Clashes home own ∨ ClashAmong home (e.apply home own) es))

instance : (e : BreakEdit) → Decidable e.Told
  | push pushed => inferInstanceAs (Decidable (Break.Told pushed))
  | merge reported => inferInstanceAs (Decidable (Break.Told reported))
  | add _ _ => isTrue trivial
  | delete _ _ => isTrue trivial
  | toggle _ _ => isTrue trivial

/-- **One change** leaves distinct breakpoints distinct just when it does
not clash. -/
theorem distinct_apply_iff (h : Distinct home own) (he : e.Told) :
    Distinct home (e.apply home own) ↔ ¬ e.Clashes home own := by
  cases e with
  | add path line => exact iff_of_true (h.add path line) not_false
  | delete path line => exact iff_of_true (h.delete path line) not_false
  | toggle path line => exact iff_of_true (h.toggle path line) not_false
  | push pushed => exact distinct_push_iff h he
  | merge reported => exact distinct_merge_iff h he

/-- The changes of one operation leave distinct breakpoints distinct just
when none of them clashes. -/
theorem distinct_foldl_iff (hes : Shape es) (h : Distinct home own) (hall : ∀ e ∈ es, e.Told) :
    Distinct home (es.foldl (apply home) own) ↔ ¬ ClashAmong home own es := by
  have hone : ∀ e, e.Told → (Distinct home (e.apply home own) ↔ ¬ ClashAmong home own [e]) := by
    intro e he
    rw [distinct_apply_iff h he]
    exact not_congr (or_iff_left not_false).symm
  cases hes with
  | none => exact iff_of_true h not_false
  | own e _ => exact hone e (hall e List.mem_cons_self)
  | push pushed => exact hone _ (hall _ List.mem_cons_self)
  | merge reported => exact hone _ (hall _ List.mem_cons_self)
  | both pushed reported =>
    have hpushed := distinct_apply_iff h (hall (.push pushed) List.mem_cons_self)
    have hreported : (merge reported).Told := hall _ (List.mem_cons_of_mem _ List.mem_cons_self)
    show Distinct home ((merge reported).apply home ((push pushed).apply home own)) ↔
      ¬ ((push pushed).Clashes home own ∨
        (merge reported).Clashes home ((push pushed).apply home own) ∨ False)
    by_cases hclash : (push pushed).Clashes home own
    · -- A number that two breakpoints have is not taken back by the report.
      refine iff_of_false (fun hdistinct => ?_) (not_not_intro (Or.inl hclash))
      exact hpushed.1 ⟨h.apart.assignAll, told_of_told_merge hdistinct.told⟩ hclash
    · rw [distinct_apply_iff (hpushed.2 hclash) hreported]
      simp only [hclash, false_or, or_false]

theorem told_of_isOwn (h : e.isOwn) : e.Told := by
  cases e with
  | push pushed => cases h
  | merge reported => cases h
  | _ => exact trivial

end BreakEdit

/-- An answer has distinct numbers, if it is about breakpoints. -/
def Exchange.Told (x : Exchange) : Prop := ∀ e ∈ x.edit?, e.Told

instance (x : Exchange) : Decidable x.Told := inferInstanceAs (Decidable (∀ e ∈ x.edit?, e.Told))

namespace Scene

open CodeDesk.Debug.Break BreakEdit

variable {σ : Type} {S : Setup σ} {d : Scene σ} {op : Op σ} {ops : List (Op σ)}

/-- The changes of an operation have distinct numbers if the answers in the
record have. -/
theorem told_edits (h : ∀ x ∈ (d.after S op).log, x.Told) : ∀ e ∈ op.edits S d, e.Told := by
  intro e he
  rcases List.mem_append.1 he with he | he
  · exact told_of_isOwn (heard_own S d (Option.mem_toList.1 he)).1
  · obtain ⟨x, hx, hxe⟩ := List.mem_filterMap.1 he
    exact h x (List.mem_of_mem_drop hx) e hxe

/-- **One operation** leaves distinct breakpoints distinct just when none
of its changes clashes. -/
theorem distinct_after_iff (hd : Distinct S.home d.breaks)
    (htold : ∀ x ∈ (d.after S op).log, x.Told) :
    Distinct S.home (d.after S op).breaks ↔ ¬ ClashAmong S.home d.breaks (op.edits S d) := by
  rw [breaks_after]
  exact distinct_foldl_iff (shape_edits S d op) hd (told_edits htold)

/-- **Breakpoints are distinct just when no answer clashes.** Whatever is
done with a controller, as long as the debuggers answer with distinct
numbers: in every state no two breakpoints are at one line and no two have
the same number, exactly if no report puts two breakpoints of the user on
one line, and no breakpoint is given a number that another one has. -/
theorem distinct_breaks_iff {world : σ} {marks : Marks} {sinks : Command.Sinks}
    (htold : ∀ x ∈ (run S (initial world marks sinks) ops).log, x.Told) :
    (∀ ops₁ ops₂, ops = ops₁ ++ ops₂ →
      Distinct S.home (run S (initial world marks sinks) ops₁).breaks) ↔
    ∀ ops₁ op ops₂, ops = ops₁ ++ op :: ops₂ →
      ¬ ClashAmong S.home (run S (initial world marks sinks) ops₁).breaks
        (op.edits S (run S (initial world marks sinks) ops₁)) := by
  -- What was answered up to some operation is in the record at the end.
  have hpast : ∀ ops₁ op ops₂, ops = ops₁ ++ op :: ops₂ →
      ∀ x ∈ ((run S (initial world marks sinks) ops₁).after S op).log, x.Told := by
    rintro ops₁ op ops₂ rfl x hx
    refine htold x ?_
    rw [run_append, run_cons]
    exact (log_run S _ ops₂).subset hx
  have hsnoc : ∀ ops₁ op, run S (initial world marks sinks) (ops₁ ++ [op]) =
      (run S (initial world marks sinks) ops₁).after S op := fun ops₁ op => by
    rw [run_append]
    rfl
  constructor
  · intro hdistinct ops₁ op ops₂ heq
    have hbefore := hdistinct ops₁ (op :: ops₂) heq
    have hafter := hdistinct (ops₁ ++ [op]) ops₂ (by rw [heq, List.append_assoc]; rfl)
    rw [hsnoc] at hafter
    exact (distinct_after_iff hbefore (hpast ops₁ op ops₂ heq)).1 hafter
  · intro hnone ops₁
    induction ops₁ using List.reverseRecOn with
    | nil =>
      intro ops₂ _
      exact ⟨List.Pairwise.nil, List.Pairwise.nil⟩
    | append_singleton ops₁ op ih =>
      intro ops₂ heq
      rw [List.append_assoc, List.singleton_append] at heq
      rw [hsnoc]
      exact (distinct_after_iff (ih (op :: ops₂) heq) (hpast ops₁ op ops₂ heq)).2
        (hnone ops₁ op ops₂ heq)

/-! A debugger that sets no breakpoint on line 10 but on line 12. -/

/-- A controller in use with that debugger. -/
def resettled (ops : List (Op Script)) : Scene Script :=
  run played (initial { Script.blank with movedLines := [(10, 12)] } .hidden Command.Sinks.empty)
    ops

/-- One breakpoint that is moved, and one that is set when it was. -/
def spread : List (Op Script) :=
  [.addBreak ⟨"/work/main"⟩ 10, .start debugged 0 1, .step .line, .addBreak ⟨"/work/main"⟩ 14,
    .step .line]

theorem distinct_spread :
    (∀ x ∈ (resettled spread).log, x.Told) ∧
      ∀ ops₁ ops₂, spread = ops₁ ++ ops₂ → Distinct played.home (resettled ops₁).breaks := by
  have htold : ∀ x ∈ (resettled spread).log, x.Told := by decide +kernel
  have hnone : ∀ n (hn : n < spread.length), ¬ ClashAmong played.home
      (resettled (spread.take n)).breaks (spread[n].edits played (resettled (spread.take n))) := by
    decide +kernel
  refine ⟨htold, (distinct_breaks_iff htold).2 fun ops₁ op ops₂ heq => ?_⟩
  have hlength : ops₁.length < spread.length := by
    rw [heq, List.length_append, List.length_cons]
    omega
  have hop : spread[ops₁.length] = op := by simp only [heq, List.getElem_append_right, Nat.le_refl,
    Nat.sub_self, List.getElem_cons_zero]
  have htake : spread.take ops₁.length = ops₁ := by rw [heq, List.take_left]
  have := hnone ops₁.length hlength
  rwa [htake, hop] at this

/-- Two breakpoints on lines 10 and 12. -/
def crowded : List (Op Script) :=
  [.addBreak ⟨"/work/main"⟩ 10, .addBreak ⟨"/work/main"⟩ 12, .start debugged 0 1, .step .line]

/-- **Two breakpoints become one** when the debugger moves one of them to
the line of the other. -/
theorem not_distinct_crowded :
    (∀ x ∈ (resettled crowded).log, x.Told) ∧
      ¬ Distinct played.home (resettled crowded).breaks :=
  ⟨by decide +kernel, fun h => absurd h.apart (by decide +kernel)⟩

end Scene

end Debug
end CodeDesk
