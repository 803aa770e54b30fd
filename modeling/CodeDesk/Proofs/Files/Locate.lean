import CodeDesk.Files.Disk
/-!
# Locating — where a path leads

A path that leads to a location does so in steps, each of which looks at
one entry of the disk (`Trail`). That a path is located is the same as that
there is such a trail (`walk_eq_ok`), so what is said of all paths is shown
step by step.
-/

namespace CodeDesk
namespace Disk

variable {d : Disk} {follow : Bool} {links : Nat} {at_ loc : Location} {segs rest : List String}
  {seg target : String} {p : Path}

/-- Where the target of a link is taken from. -/
def linkBase (at_ : Location) (target : String) : Location :=
  if target.toList.head? = some '/' then [] else at_

/-- Whether a segment names an entry, in a way that can be looked up. -/
def IsName (seg : String) : Prop :=
  seg ≠ "" ∧ seg ≠ "." ∧ seg ≠ ".." ∧ seg.utf8ByteSize ≤ nameLimit

instance (seg : String) : Decidable (IsName seg) := inferInstanceAs (Decidable (_ ∧ _))

variable (d follow) in
/-- How segments lead from a directory to a location. -/
inductive Trail : Nat → Location → List String → Location → Prop
  /-- There are no more segments. -/
  | done {links : Nat} {at_ : Location} : Trail links at_ [] at_
  /-- A segment that means nothing. -/
  | stay {links : Nat} {at_ loc : Location} {seg : String} {rest : List String} :
      d.entryAt? at_ = some .dir → seg = "" ∨ seg = "." → Trail links at_ rest loc →
      Trail links at_ (seg :: rest) loc
  /-- A step back. -/
  | up {links : Nat} {at_ loc : Location} {rest : List String} :
      d.entryAt? at_ = some .dir → Trail links at_.dropLast rest loc →
      Trail links at_ (".." :: rest) loc
  /-- The last name, of something that is not there. -/
  | fresh {links : Nat} {at_ : Location} {seg : String} :
      d.entryAt? at_ = some .dir → IsName seg → d.entryAt? (at_ ++ [seg]) = none →
      Trail links at_ [seg] (at_ ++ [seg])
  /-- The last name, of a link that is not followed. -/
  | atLink {links : Nat} {at_ : Location} {seg target : String} :
      d.entryAt? at_ = some .dir → IsName seg →
      d.entryAt? (at_ ++ [seg]) = some (.link target) → follow = false →
      Trail links at_ [seg] (at_ ++ [seg])
  /-- A link that is followed. -/
  | hop {links : Nat} {at_ loc : Location} {seg target : String} {rest : List String} :
      d.entryAt? at_ = some .dir → IsName seg →
      d.entryAt? (at_ ++ [seg]) = some (.link target) → (rest = [] → follow = true) →
      Trail links (linkBase at_ target) (segmentsOf target ++ rest) loc →
      Trail (links + 1) at_ (seg :: rest) loc
  /-- A name of a file or of a directory. -/
  | enter {links : Nat} {at_ loc : Location} {seg : String} {rest : List String} {e : Entry} :
      d.entryAt? at_ = some .dir → IsName seg → d.entryAt? (at_ ++ [seg]) = some e →
      (∀ target, e ≠ .link target) → Trail links (at_ ++ [seg]) rest loc →
      Trail links at_ (seg :: rest) loc

theorem isName_of (hidle : ¬ (decide (seg = "") || decide (seg = ".")) = true) (hup : ¬ seg = "..")
    (hshort : ¬ nameLimit < seg.utf8ByteSize) : IsName seg := by
  simp only [Bool.or_eq_true, decide_eq_true_eq, not_or] at hidle
  exact ⟨hidle.1, hidle.2, hup, Nat.not_lt.1 hshort⟩

theorem trail_of_walk (h : d.walk follow links at_ segs = .ok loc) :
    d.Trail follow links at_ segs loc := by
  fun_induction walk d follow links at_ segs with
  | case1 links at_ =>
    cases h
    exact .done
  | case2 => cases h
  | case3 => cases h
  | case4 => cases h
  | case5 links at_ seg rest hdir hidle ih =>
    simp only [Bool.or_eq_true, decide_eq_true_eq] at hidle
    exact .stay hdir hidle (ih h)
  | case6 links at_ rest hdir hidle ih => exact .up hdir (ih h)
  | case7 => cases h
  | case8 links at_ seg rest hdir hidle hup hshort hnone hlast =>
    rw [List.isEmpty_iff] at hlast
    subst hlast
    cases h
    exact .fresh hdir (isName_of hidle hup hshort) hnone
  | case9 => cases h
  | case10 links at_ seg rest hdir hidle hup hshort target hlink hstop =>
    rw [Bool.and_eq_true, List.isEmpty_iff, Bool.not_eq_true'] at hstop
    obtain ⟨rfl, hfollow⟩ := hstop
    cases h
    exact .atLink hdir (isName_of hidle hup hshort) hlink hfollow
  | case11 => cases h
  | case12 at_ seg rest hdir hidle hup hshort target hlink hstop links ih =>
    refine .hop hdir (isName_of hidle hup hshort) hlink (fun hrest => ?_) (ih h)
    subst hrest
    cases follow with
    | true => rfl
    | false => exact absurd rfl hstop
  | case13 links at_ seg rest hdir hidle hup hshort e hnolink hentry ih =>
    exact .enter hdir (isName_of hidle hup hshort) hentry (fun target heq => hnolink target heq)
      (ih h)

theorem Trail.walk (h : d.Trail follow links at_ segs loc) :
    d.walk follow links at_ segs = .ok loc := by
  induction h with
  | done => rw [Disk.walk]
  | stay hdir hidle _ ih =>
    rw [Disk.walk, hdir]
    dsimp only
    rw [if_pos (by simpa using hidle), ih]
  | up hdir _ ih =>
    rw [Disk.walk, hdir]
    dsimp only
    rw [if_neg (by decide), if_pos rfl, ih]
  | fresh hdir hname hnone =>
    rw [Disk.walk, hdir]
    obtain ⟨hne, hdot, hup, hshort⟩ := hname
    simp [hne, hdot, hup, Nat.not_lt.2 hshort, hnone]
  | atLink hdir hname hlink hfollow =>
    rw [Disk.walk, hdir]
    obtain ⟨hne, hdot, hup, hshort⟩ := hname
    simp [hne, hdot, hup, Nat.not_lt.2 hshort, hlink, hfollow]
  | @hop links at_ loc seg target rest hdir hname hlink hlast _ ih =>
    rw [Disk.walk, hdir]
    obtain ⟨hne, hdot, hup, hshort⟩ := hname
    have hgo : (rest.isEmpty && !follow) = false := by
      cases rest with
      | nil => rw [hlast rfl]; rfl
      | cons n rest => rfl
    simp only [hne, hdot, hup, Nat.not_lt.2 hshort, hlink, hgo, decide_false, Bool.or_false,
      Bool.false_eq_true, if_false]
    exact ih
  | @enter links at_ loc seg rest e hdir hname hentry hnolink _ ih =>
    rw [Disk.walk, hdir]
    obtain ⟨hne, hdot, hup, hshort⟩ := hname
    cases e with
    | link target => exact absurd rfl (hnolink target)
    | _ => simp [hne, hdot, hup, Nat.not_lt.2 hshort, hentry, ih]

/-- **Segments lead to a location** exactly if there is a trail. -/
theorem walk_eq_ok :
    d.walk follow links at_ segs = .ok loc ↔ d.Trail follow links at_ segs loc :=
  ⟨trail_of_walk, Trail.walk⟩

/-- A trail that follows a link at the end stops at the same place without
following it, or at a link. -/
theorem Trail.noFollow (h : d.Trail true links at_ segs loc) :
    d.Trail false links at_ segs loc ∨
      ∃ stop target, d.Trail false links at_ segs stop ∧
        d.entryAt? stop = some (.link target) := by
  induction h with
  | done => exact .inl .done
  | stay hdir hidle _ ih =>
    exact ih.imp (.stay hdir hidle) fun ⟨stop, target, htrail, hlink⟩ =>
      ⟨stop, target, .stay hdir hidle htrail, hlink⟩
  | up hdir _ ih =>
    exact ih.imp (.up hdir) fun ⟨stop, target, htrail, hlink⟩ =>
      ⟨stop, target, .up hdir htrail, hlink⟩
  | fresh hdir hname hnone => exact .inl (.fresh hdir hname hnone)
  | atLink _ _ _ hfollow => cases hfollow
  | @hop links at_ loc seg target rest hdir hname hlink _ _ ih =>
    by_cases hrest : rest = []
    · subst hrest
      exact .inr ⟨_, target, .atLink hdir hname hlink rfl, hlink⟩
    · have hgo : rest = [] → false = true := fun hnil => absurd hnil hrest
      exact ih.imp (.hop hdir hname hlink hgo) fun ⟨stop, target', htrail, hlink'⟩ =>
        ⟨stop, target', .hop hdir hname hlink hgo htrail, hlink'⟩
  | enter hdir hname hentry hnolink _ ih =>
    exact ih.imp (.enter hdir hname hentry hnolink) fun ⟨stop, target, htrail, hlink⟩ =>
      ⟨stop, target, .enter hdir hname hentry hnolink htrail, hlink⟩

/-- Whether a path is written so that it can be looked up. -/
def IsWritten (p : Path) : Prop :=
  p.text ≠ "" ∧ '\x00' ∉ p.text.toList ∧ p.text.utf8ByteSize ≤ pathLimit

instance (p : Path) : Decidable (IsWritten p) := inferInstanceAs (Decidable (_ ∧ _))

/-- **A path leads to a location** exactly if it can be looked up and its
segments have a trail. -/
theorem locate_eq_ok :
    d.locate follow p = .ok loc ↔ IsWritten p ∧
      d.Trail follow linkLimit (if p.isAbsolute then [] else d.cwd) (segmentsOf p.text) loc := by
  rw [locate, IsWritten, ← walk_eq_ok]
  by_cases hempty : p.text = ""
  · simp [hempty]
  · by_cases hzero : '\x00' ∈ p.text.toList
    · simp [hempty, hzero]
    · by_cases hlong : pathLimit < p.text.utf8ByteSize
      · simp [hempty, hzero, hlong, Nat.not_le.2 hlong]
      · simp [hempty, hzero, hlong, Nat.not_lt.1 hlong]

/-- A path that names an entry of the root directory. -/
def InRoot (p : Path) (name : String) : Prop :=
  IsWritten p ∧ p.isAbsolute = true ∧ segmentsOf p.text = ["", name] ∧ IsName name

instance (p : Path) (name : String) : Decidable (InRoot p name) :=
  inferInstanceAs (Decidable (_ ∧ _))

/-- It leads to that entry, if that is no link to be followed. -/
theorem locate_inRoot {name : String} (h : InRoot p name)
    (hlink : follow = true → ∀ target, d.entryAt? [name] ≠ some (.link target)) :
    d.locate follow p = .ok [name] := by
  obtain ⟨hwritten, habsolute, hsegments, hname⟩ := h
  have hroot : d.entryAt? [] = some .dir := rfl
  refine locate_eq_ok.2 ⟨hwritten, ?_⟩
  rw [if_pos habsolute, hsegments]
  refine .stay hroot (.inl rfl) ?_
  cases hentry : d.entryAt? [name] with
  | none => exact .fresh hroot hname hentry
  | some e =>
    cases e with
    | link target =>
      have hfollow : follow = false := Bool.eq_false_iff.2 fun hfollow => hlink hfollow _ hentry
      exact .atLink hroot hname hentry hfollow
    | _ => exact .enter hroot hname hentry (fun _ => Entry.noConfusion) .done

theorem entry_inRoot {e : Entry} (name : String) (h : InRoot p name)
    (hentry : d.entryAt? [name] = some e) (hfile : e.isFile) : d.entry follow p = .ok e := by
  have hlocate : d.locate follow p = .ok [name] := by
    refine locate_inRoot h fun _ target hlink => ?_
    rw [hentry, Option.some.injEq] at hlink
    rw [hlink] at hfile
    cases hfile
  simp only [entry, hlocate, hentry]

/-- A path leads to the same place whether or not a link at its end is
followed, or else to a link. -/
theorem locate_noFollow (h : d.locate true p = .ok loc) :
    d.locate false p = .ok loc ∨
      ∃ stop target, d.locate false p = .ok stop ∧ d.entryAt? stop = some (.link target) := by
  rw [locate_eq_ok] at h
  obtain ⟨hwritten, htrail⟩ := h
  refine htrail.noFollow.imp (fun hsame => locate_eq_ok.2 ⟨hwritten, hsame⟩) ?_
  rintro ⟨stop, target, hstop, hlink⟩
  exact ⟨stop, target, locate_eq_ok.2 ⟨hwritten, hstop⟩, hlink⟩

end Disk
end CodeDesk
