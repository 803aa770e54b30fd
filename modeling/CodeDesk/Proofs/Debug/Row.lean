import CodeDesk.Debug.View
import CodeDesk.Proofs.Data.Table
import CodeDesk.Proofs.Debug.BreakChoice
import CodeDesk.Proofs.Debug.BreakIdentity
import CodeDesk.Proofs.Files.Path
/-!
# Rows — the marks of a file, line by line

Marks count lines from zero and take paths as they are written; breakpoints
count from one and read `~` as the home directory. For absolute paths and
lines from one (`Located`) the two agree on what a line is, and a `Row` is
that line.

A display holds one mark for a row at most (`Displayed.nodup`), and marking
a line changes that one (`at?_setAt`). What the breakpoints want of a row is
`rowMark`; a change of the user is about one row and leaves what the
breakpoints want of the others.
-/

namespace CodeDesk

namespace Debug

/-- A line of a file, from zero, however the path is written. -/
abbrev Row := List Component × Nat

/-- The row of a line that is counted from one. -/
def Row.of (path : Path) (line : Nat) : Row := (path.components, line - 1)

/-- The row of a mark. -/
def Place.row (p : Place) : Row := (p.path.components, p.line)

/-- The row of a line of source code. -/
def SourceLine.row (l : SourceLine) : Row := Row.of l.path l.line

/-- The row of a breakpoint. -/
def Break.row (b : Break) : Row := Row.of b.path b.line

/-! ## Marks of a row -/

instance : Std.TransOrd Place :=
  inferInstanceAs (Std.TransCmp
    (compareLex (compareOn fun p : Place => p.path.components) (compareOn Place.line)))

theorem Place.compare_eq_iff {p q : Place} : compare p q = .eq ↔ p.row = q.row := by
  have hthen : compare p q = (compare p.path.components q.path.components).then
      (compare p.line q.line) := rfl
  rw [hthen, Ordering.then_eq_eq, Std.LawfulEqCmp.compare_eq_iff_eq,
    Std.LawfulEqCmp.compare_eq_iff_eq, Place.row, Place.row, Prod.mk.injEq]

/-- The mark of a row in a list of marks. -/
def markIn (es : List (Place × Mark)) (k : Row) : Option Mark :=
  (es.find? fun e => e.1.row = k).map Prod.snd

theorem markIn_cons (e : Place × Mark) (es : List (Place × Mark)) (k : Row) :
    markIn (e :: es) k = if e.1.row = k then some e.2 else markIn es k := by
  unfold markIn
  rw [List.find?_cons]
  by_cases he : e.1.row = k
  · rw [if_pos he, decide_eq_true he]
    rfl
  · rw [if_neg he, decide_eq_false he]

theorem markIn_insertEntry (p : Place) (m : Mark) (es : List (Place × Mark)) (k : Row) :
    markIn (Table.insertEntry p m es) k = if p.row = k then some m else markIn es k := by
  induction es with
  | nil => exact markIn_cons (p, m) [] k
  | cons e es ih =>
    unfold Table.insertEntry
    split
    · exact markIn_cons (p, m) (e :: es) k
    · next heq =>
      rw [Place.compare_eq_iff] at heq
      rw [markIn_cons, markIn_cons, heq]
      split <;> rfl
    · next hgt =>
      have hne : p.row ≠ e.1.row := fun heq => by
        rw [Place.compare_eq_iff.2 heq] at hgt
        cases hgt
      rw [markIn_cons, ih, markIn_cons]
      by_cases hp : p.row = k
      · rw [if_pos hp, if_neg fun he => hne (hp.trans he.symm), if_pos hp]
      · rw [if_neg hp, if_neg hp]

theorem markIn_erase (p : Place) (t : Table Place Mark) (k : Row) :
    markIn (t.erase p).entries k = if p.row = k then none else markIn t.entries k := by
  show markIn (t.entries.filter fun e => compare p e.1 != .eq) k = _
  induction t.entries with
  | nil => exact (ite_self none).symm
  | cons e es ih =>
    rw [List.filter_cons]
    split
    · next hkeep =>
      have hne : p.row ≠ e.1.row := fun heq =>
        bne_iff_ne.1 hkeep (Place.compare_eq_iff.2 heq)
      rw [markIn_cons, ih, markIn_cons]
      by_cases hp : p.row = k
      · rw [if_pos hp, if_pos hp, if_neg fun he => hne (hp.trans he.symm)]
      · rw [if_neg hp, if_neg hp]
    · next hdrop =>
      rw [bne_iff_ne, not_not, Place.compare_eq_iff] at hdrop
      rw [ih, markIn_cons, hdrop]
      by_cases he : e.1.row = k
      · rw [if_pos he, if_pos he]
      · rw [if_neg he, if_neg he, if_neg he]

namespace Marks

variable {m : Marks} {path : Path} {line : Nat} {k : Row}

/-- Marks that a display shows, in order. -/
def Displayed : Marks → Prop
  | hidden => False
  | shown t => t.Ordered

/-- The mark of a row. -/
def at? (m : Marks) (k : Row) : Option Mark := markIn m.toList k

theorem displayed_blank : blank.Displayed := List.Pairwise.nil

theorem Displayed.setAt (hm : m.Displayed) (path : Path) (line : Nat) (mark : Option Mark) :
    (m.setAt path line mark).Displayed := by
  cases m with
  | hidden => exact hm
  | shown t =>
    cases mark with
    | none => exact Table.Ordered.erase hm _
    | some mark => exact Table.Ordered.set hm _ mark

/-- A display marks no line twice. -/
theorem Displayed.nodup (hm : m.Displayed) : (m.toList.map fun e => e.1.row).Nodup := by
  cases m with
  | hidden => cases hm
  | shown t =>
    refine List.pairwise_map.2 (List.Pairwise.imp (fun {a b} hlt hrow => ?_) hm)
    rw [Place.compare_eq_iff.2 hrow] at hlt
    cases hlt

/-- Marking a line marks its row and no other one. -/
theorem at?_setAt (hm : m.Displayed) (mark : Option Mark) :
    (m.setAt path line mark).at? k = if Row.of path line = k then mark else m.at? k := by
  cases m with
  | hidden => cases hm
  | shown t =>
    cases mark with
    | none => exact markIn_erase ⟨path, line - 1⟩ t k
    | some mark => exact markIn_insertEntry ⟨path, line - 1⟩ mark t.entries k

theorem at?_setAt_self (hm : m.Displayed) (mark : Option Mark) :
    (m.setAt path line mark).at? (Row.of path line) = mark := by
  rw [at?_setAt hm, if_pos rfl]

theorem at?_setAt_of_ne (hm : m.Displayed) (mark : Option Mark) (hk : Row.of path line ≠ k) :
    (m.setAt path line mark).at? k = m.at? k := by rw [at?_setAt hm, if_neg hk]

end Marks

/-! ## Breakpoints of a row -/

/-- A line that is known without more: an absolute path, and a line from
one. -/
def Located (path : Path) (line : Nat) : Prop := path.isAbsolute ∧ 0 < line

instance (path : Path) (line : Nat) : Decidable (Located path line) :=
  inferInstanceAs (Decidable (_ ∧ _))

/-- A breakpoint on such a line. -/
def Break.Located (b : Break) : Prop := Debug.Located b.path b.line

/-- Such a line of source code. -/
def SourceLine.Located (l : SourceLine) : Prop := Debug.Located l.path l.line

instance (b : Break) : Decidable b.Located := inferInstanceAs (Decidable (Debug.Located _ _))

instance (l : SourceLine) : Decidable l.Located := inferInstanceAs (Decidable (Debug.Located _ _))

/-- An absolute path has no `~` to expand. -/
theorem expandHome_of_isAbsolute {home p : Path} (h : p.isAbsolute) : expandHome home p = p := by
  obtain ⟨rest, hrest⟩ := Path.components_of_isAbsolute h
  have hleads : Path.leads (⟨"~"⟩ : Path).components p.components = false := by
    rw [hrest]
    rfl
  rw [expandHome, Path.stripPrefix?, hleads]
  rfl

/-- The mark that breakpoints give a row: that of the first one there. -/
def rowMark (bs : List Break) (k : Row) : Option Mark :=
  (bs.find? fun b => b.row = k).map Break.mark

namespace Break

variable {home path : Path} {line : Nat} {b : Break} {bs : List Break} {k : Row}

/-- What marks show of a breakpoint. -/
def face (b : Break) : Path × Nat × Mark := (b.path, b.line, b.mark)

theorem row_of_face {a b : Break} (h : a.face = b.face) : a.row = b.row :=
  congrArg (fun f : Path × Nat × Mark => Row.of f.1 f.2.1) h

theorem mark_of_face {a b : Break} (h : a.face = b.face) : a.mark = b.mark :=
  congrArg (fun f : Path × Nat × Mark => f.2.2) h

theorem isAt_iff_row (hb : b.Located) (h : Debug.Located path line) :
    b.isAt home path line ↔ b.row = Row.of path line := by
  unfold isAt row Row.of
  rw [expandHome_of_isAbsolute hb.1, expandHome_of_isAbsolute h.1, Bool.and_eq_true, beq_iff_eq,
    Path.beq_iff, Prod.mk.injEq, and_comm]
  refine and_congr_right fun _ => ?_
  have := hb.2
  have := h.2
  omega

theorem mark_cases (b : Break) : b.mark = .active ∨ b.mark = .inactive := by
  unfold mark
  split
  · exact Or.inl rfl
  · exact Or.inr rfl

theorem rowMark_cons :
    rowMark (b :: bs) k = if b.row = k then some b.mark else rowMark bs k := by
  unfold rowMark
  rw [List.find?_cons]
  by_cases hb : b.row = k
  · rw [if_pos hb, decide_eq_true hb]
    rfl
  · rw [if_neg hb, decide_eq_false hb]

theorem rowMark_eq_none_iff : rowMark bs k = none ↔ ∀ b ∈ bs, b.row ≠ k := by
  unfold rowMark
  rw [Option.map_eq_none_iff, List.find?_eq_none]
  simp only [decide_eq_true_eq, ne_eq]

theorem rowMark_cases (bs : List Break) (k : Row) :
    rowMark bs k = none ∨ ∃ b ∈ bs, b.row = k ∧ rowMark bs k = some b.mark := by
  unfold rowMark
  cases hfind : bs.find? fun b => b.row = k with
  | none => exact Or.inl rfl
  | some b =>
    have hrow := List.find?_some hfind
    exact Or.inr ⟨b, List.mem_of_find?_eq_some hfind, of_decide_eq_true hrow, rfl⟩

/-- Breakpoints never mark a row as the one the program is at. -/
theorem rowMark_not_program (bs : List Break) (k : Row) :
    ¬ (rowMark bs k = some .current ∨ rowMark bs k = some .counter) := by
  rcases rowMark_cases bs k with hnone | ⟨b, -, -, hsome⟩
  · rw [hnone]
    rintro (h | h) <;> cases h
  · rw [hsome]
    rcases b.mark_cases with hb | hb <;> rw [hb] <;> rintro (h | h) <;> cases h

/-- Breakpoints of a row that want the same mark get it. -/
theorem rowMark_of_mem (hb : b ∈ bs) (hsame : ∀ a ∈ bs, a.row = b.row → a.mark = b.mark) :
    rowMark bs b.row = some b.mark := by
  rcases rowMark_cases bs b.row with hnone | ⟨a, ha, hrow, hsome⟩
  · exact absurd rfl (rowMark_eq_none_iff.1 hnone b hb)
  · rw [hsome, hsame a ha hrow]

/-- A breakpoint is found at a line just as at its row. -/
theorem find?_isAt (hbs : ∀ b ∈ bs, b.Located) (h : Debug.Located path line) :
    (bs.find? fun b => b.isAt home path line) = bs.find? fun b => b.row = Row.of path line := by
  induction bs with
  | nil => rfl
  | cons b bs ih =>
    have hhead : b.isAt home path line = decide (b.row = Row.of path line) := by
      rw [Bool.eq_iff_iff, isAt_iff_row (hbs b List.mem_cons_self) h, decide_eq_true_iff]
    rw [List.find?_cons, List.find?_cons, hhead, ih fun c hc => hbs c (List.mem_cons_of_mem _ hc)]

theorem markAt_eq_rowMark (hbs : ∀ b ∈ bs, b.Located) (h : Debug.Located path line) :
    markAt home bs path line = rowMark bs (Row.of path line) := by
  rw [markAt, find?_isAt hbs h, rowMark]

/-! Changes of the user change one row. -/

theorem rowMark_add_of_ne (hk : Row.of path line ≠ k) :
    rowMark (bs ++ [onLine path line]) k = rowMark bs k := by
  induction bs with
  | nil => exact rowMark_cons.trans (if_neg hk)
  | cons b bs ih => rw [List.cons_append, rowMark_cons, rowMark_cons, ih]

theorem rowMark_add_self (h : rowMark bs (Row.of path line) = none) :
    rowMark (bs ++ [onLine path line]) (Row.of path line) = some .active := by
  induction bs with
  | nil => exact rowMark_cons.trans (if_pos rfl)
  | cons b bs ih =>
    rw [rowMark_cons] at h
    split at h
    · cases h
    · next hb => rw [List.cons_append, rowMark_cons, if_neg hb, ih h]

theorem rowMark_delete_of_ne (hbs : ∀ b ∈ bs, b.Located) (h : Debug.Located path line)
    (hk : Row.of path line ≠ k) :
    rowMark (bs.filter fun b => !b.isAt home path line) k = rowMark bs k := by
  induction bs with
  | nil => rfl
  | cons b bs ih =>
    have hrest := ih fun c hc => hbs c (List.mem_cons_of_mem _ hc)
    rw [List.filter_cons, rowMark_cons]
    split
    · rw [rowMark_cons, hrest]
    · next hat =>
      rw [Bool.not_eq_true', Bool.not_eq_false, isAt_iff_row (hbs b List.mem_cons_self) h] at hat
      rw [hrest, if_neg fun hb => hk (hat.symm.trans hb)]

theorem rowMark_delete_self (hbs : ∀ b ∈ bs, b.Located) (h : Debug.Located path line) :
    rowMark (bs.filter fun b => !b.isAt home path line) (Row.of path line) = none := by
  refine rowMark_eq_none_iff.2 fun b hb hrow => ?_
  obtain ⟨hmem, hnot⟩ := List.mem_filter.1 hb
  rw [Bool.not_eq_true'] at hnot
  exact Bool.eq_false_iff.1 hnot ((isAt_iff_row (hbs b hmem) h).2 hrow)

theorem rowMark_toggle_of_ne (hbs : ∀ b ∈ bs, b.Located) (h : Debug.Located path line)
    (hk : Row.of path line ≠ k) :
    rowMark (Controller.toggleIn home path line bs) k = rowMark bs k := by
  induction bs with
  | nil => rfl
  | cons b bs ih =>
    unfold Controller.toggleIn
    split
    · next hat =>
      have hrow : b.row ≠ k := fun hb =>
        hk (((isAt_iff_row (hbs b List.mem_cons_self) h).1 hat).symm.trans hb)
      rw [rowMark_cons, rowMark_cons, if_neg hrow]
      exact if_neg hrow
    · rw [rowMark_cons, rowMark_cons, ih fun c hc => hbs c (List.mem_cons_of_mem _ hc)]

theorem rowMark_toggle_self (hbs : ∀ b ∈ bs, b.Located) (h : Debug.Located path line)
    (hb : (bs.find? fun b => b.isAt home path line) = some b) :
    rowMark (Controller.toggleIn home path line bs) (Row.of path line) =
      some (if !b.enabled then .active else .inactive) := by
  induction bs with
  | nil => cases hb
  | cons a bs ih =>
    have hrow : a.isAt home path line ↔ a.row = Row.of path line :=
      isAt_iff_row (hbs a List.mem_cons_self) h
    rw [List.find?_cons] at hb
    unfold Controller.toggleIn
    split at hb
    · next hat =>
      cases hb
      rw [if_pos hat]
      exact rowMark_cons.trans (if_pos (hrow.1 hat))
    · next hat =>
      rw [Bool.eq_false_iff] at hat
      rw [if_neg hat, rowMark_cons, if_neg fun ha => hat (hrow.2 ha),
        ih (fun c hc => hbs c (List.mem_cons_of_mem _ hc)) hb]

end Break

end Debug

end CodeDesk
