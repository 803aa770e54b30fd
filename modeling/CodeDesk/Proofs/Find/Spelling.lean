import CodeDesk.Find.Link
import CodeDesk.Proofs.Text.Number
/-!
# Spelling — which texts are links, and which link each of them is

A link is read in one pass: the path is what stands before the last number
sign, and behind it six numbers follow their letters. Each reader takes the
longest run of digits, so what it has read is known as soon as the next
character is no digit, and a reader accepts exactly what its part of the
format says (`number?_eq_some_iff` up to `fragment?_eq_some_iff`).

A text that is read is therefore a link in the one way that its spelling
says (`parse?_eq_some_iff`), and everything else is read off that: the text
of a link is one of its spellings exactly if the numbers in it fit a machine
word, and other spellings of the same link differ by zeros in front of the
numbers. Lines and columns stand there counted from one, so a link whose
fields are machine words has a text that is read back unless one of them is
the greatest there is (`link_texts`).
-/

namespace CodeDesk

/-! ## The last separator -/

section CutLast

variable {sep : Char} {cs front back : List Char}

theorem cutLast_of_notMem (h : sep ∉ cs) : cutLast sep cs = none := by
  induction cs with
  | nil => rfl
  | cons c cs ih =>
    rw [List.mem_cons, not_or] at h
    rw [cutLast, ih h.2]
    exact if_neg (Ne.symm h.1)

theorem mem_of_cutLast_none (h : cutLast sep cs = none) : sep ∉ cs := by
  induction cs with
  | nil => exact List.not_mem_nil
  | cons c cs ih =>
    rw [cutLast] at h
    split at h
    · cases h
    · next hnone =>
      split at h
      · cases h
      · next hne =>
        rw [List.mem_cons, not_or]
        exact ⟨Ne.symm hne, ih hnone⟩

/-- **The last separator** is the one with none behind it. -/
theorem cutLast_eq_some_iff :
    cutLast sep cs = some (front, back) ↔ cs = front ++ sep :: back ∧ sep ∉ back := by
  constructor
  · intro h
    induction cs generalizing front with
    | nil => cases h
    | cons c cs ih =>
      rw [cutLast] at h
      split at h
      · next p hp =>
        rw [Option.some.injEq, Prod.mk.injEq] at h
        obtain ⟨rfl, rfl⟩ := h
        obtain ⟨hcs, hback⟩ := ih hp
        exact ⟨by rw [hcs, List.cons_append], hback⟩
      · next hnone =>
        split at h
        · next hc =>
          rw [Option.some.injEq, Prod.mk.injEq] at h
          obtain ⟨rfl, rfl⟩ := h
          exact ⟨by rw [hc, List.nil_append], mem_of_cutLast_none hnone⟩
        · cases h
  · rintro ⟨rfl, hback⟩
    induction front with
    | nil =>
      rw [List.nil_append, cutLast, cutLast_of_notMem hback]
      exact if_pos rfl
    | cons c front ih => rw [List.cons_append, cutLast, ih]

end CutLast

namespace Find

/-! ## Numbers -/

/-- A text of digits that says a number, which fits a machine word. Zeros may
stand in front. -/
structure Numeral (ds : String) (n : Nat) : Prop where
  /-- There is a digit. -/
  ne : ds ≠ ""
  /-- There is nothing else. -/
  digits : ∀ c ∈ ds.toList, isDigit c
  /-- What the digits say. -/
  value : digitsValue ds.toList = n
  /-- The number fits a machine word. -/
  word : n < wordLimit

/-- A text that does not go on with a digit. -/
def Stops (rest : List Char) : Prop := ∀ c ∈ rest.head?, ¬ isDigit c

section Reading

variable {cs rest : List Char} {n : Nat} {tag : Char} {ds : String} {p : Pos}

theorem stops_cons (h : ¬ isDigit tag) : Stops (tag :: rest) := by
  intro c hc
  rw [List.head?_cons, Option.mem_some_iff] at hc
  exact hc ▸ h

theorem stops_nil : Stops [] := fun c hc => by cases hc

theorem Numeral.word? (h : Numeral ds n) : word? ds.toList = some n := by
  have hplus : '+' ∉ ds.toList := fun hmem => absurd (h.digits '+' hmem) (by decide)
  exact (word?_eq_some_iff hplus).2
    ⟨fun hnil => h.ne (String.toList_eq_nil_iff.1 hnil), h.digits, h.value, h.word⟩

/-- One more than a number that is not the greatest machine word. -/
theorem wordSucc_of_lt (h : n + 1 < wordLimit) : wordSucc n = n + 1 := Nat.mod_eq_of_lt h

/-- A number is written as one of its numerals, if it fits a machine word. -/
theorem numeral_toString (h : n < wordLimit) : Numeral (toString n) n := by
  have hplus : '+' ∉ (toString n).toList := fun hmem =>
    absurd (isDigit_of_mem_toString hmem) (by decide)
  obtain ⟨hne, hdigits, hvalue, hword⟩ := (word?_eq_some_iff hplus).1 (word?_toString h)
  exact ⟨fun hempty => hne (String.toList_eq_nil_iff.2 hempty), hdigits, hvalue, hword⟩

/-- **A number is read up to the last of its digits.** -/
theorem number?_eq_some_iff :
    number? cs = some (n, rest) ↔
      ∃ ds : String, Numeral ds n ∧ cs = ds.toList ++ rest ∧ Stops rest := by
  constructor
  · intro h
    obtain ⟨m, hm, heq⟩ := Option.map_eq_some_iff.1 h
    rw [Prod.mk.injEq] at heq
    obtain ⟨rfl, rfl⟩ := heq
    have hplus : '+' ∉ cs.takeWhile isDigit := fun hin =>
      absurd (List.all_eq_true.1 List.all_takeWhile '+' hin) (by decide)
    obtain ⟨hne, hdigits, hvalue, hword⟩ := (word?_eq_some_iff hplus).1 hm
    refine ⟨String.ofList (cs.takeWhile isDigit), ⟨fun hempty => hne ?_, ?_, ?_, hword⟩, ?_, ?_⟩
    · rw [← String.toList_ofList (l := cs.takeWhile isDigit), hempty]
      rfl
    · rwa [String.toList_ofList]
    · rwa [String.toList_ofList]
    · rw [String.toList_ofList, List.takeWhile_append_dropWhile]
    · intro c hc
      have hstop := List.head?_dropWhile_not isDigit cs
      rw [Option.mem_def.1 hc] at hstop
      rw [hstop]
      exact Bool.false_ne_true
  · rintro ⟨ds, hds, rfl, hrest⟩
    have htake : rest.takeWhile isDigit = [] ∧ rest.dropWhile isDigit = rest := by
      cases rest with
      | nil => exact ⟨rfl, rfl⟩
      | cons c rest =>
        have hc : ¬ isDigit c := hrest c rfl
        exact ⟨List.takeWhile_cons_of_neg hc, List.dropWhile_cons_of_neg hc⟩
    rw [number?, List.takeWhile_append_of_pos hds.digits, List.dropWhile_append_of_pos hds.digits,
      htake.1, htake.2, List.append_nil, hds.word?, Option.map_some]

theorem tagged?_eq_some_iff :
    tagged? tag cs = some (n, rest) ↔
      ∃ ds : String, Numeral ds n ∧ cs = tag :: (ds.toList ++ rest) ∧ Stops rest := by
  cases cs with
  | nil => simp [tagged?]
  | cons c cs =>
    rw [tagged?]
    split
    · next hc =>
      rw [number?_eq_some_iff]
      simp only [hc, List.cons.injEq, true_and]
    · next hc =>
      constructor
      · intro h
        cases h
      · rintro ⟨ds, -, heq, -⟩
        exact absurd (List.cons.inj heq).1 hc

theorem ordinal?_eq_some_iff :
    ordinal? tag cs = some (n, rest) ↔
      ∃ ds : String, Numeral ds (n + 1) ∧ cs = tag :: (ds.toList ++ rest) ∧ Stops rest := by
  rw [← tagged?_eq_some_iff, ordinal?]
  constructor
  · intro h
    split at h
    · next m rest' htag =>
      rw [Option.some.injEq, Prod.mk.injEq] at h
      rw [htag, h.1, h.2]
    · cases h
  · intro h
    rw [h]

/-- How a position is spelled in a link, its line as `line` and its column as
`col`. -/
def positionText (line col : String) : String := "L" ++ line ++ "C" ++ col

/-- The texts say the line and the column of a position, counted from one. -/
structure PosNumerals (p : Pos) (line col : String) : Prop where
  /-- The line. -/
  line : Numeral line (p.line + 1)
  /-- The column. -/
  col : Numeral col (p.col + 1)

theorem position?_eq_some_iff :
    position? cs = some (p, rest) ↔
      ∃ line col : String, PosNumerals p line col ∧
        cs = (positionText line col).toList ++ rest ∧ Stops rest := by
  have htext : ∀ line col : String, (positionText line col).toList ++ rest =
      'L' :: (line.toList ++ 'C' :: (col.toList ++ rest)) := fun line col => by
    simp [positionText]
  constructor
  · intro h
    rw [position?] at h
    split at h
    · cases h
    · next n rest' hline =>
      obtain ⟨⟨m, rest''⟩, hcol, heq⟩ := Option.map_eq_some_iff.1 h
      rw [Prod.mk.injEq] at heq
      obtain ⟨rfl, rfl⟩ := heq
      obtain ⟨line, hn, rfl, -⟩ := ordinal?_eq_some_iff.1 hline
      obtain ⟨col, hm, rfl, hstops⟩ := ordinal?_eq_some_iff.1 hcol
      exact ⟨line, col, ⟨hn, hm⟩, (htext line col).symm, hstops⟩
  · rintro ⟨line, col, hp, rfl, hstops⟩
    have hline : ordinal? 'L' ((positionText line col).toList ++ rest) =
        some (p.line, 'C' :: (col.toList ++ rest)) :=
      ordinal?_eq_some_iff.2 ⟨line, hp.line, htext line col, stops_cons (by decide)⟩
    have hcol : ordinal? 'C' ('C' :: (col.toList ++ rest)) = some (p.col, rest) :=
      ordinal?_eq_some_iff.2 ⟨col, hp.col, rfl, hstops⟩
    rw [position?, hline]
    dsimp only
    rw [hcol]
    rfl

end Reading

/-! ## Links -/

/-- The numbers that the text of a link is to say. -/
def Link.numbers (l : Link) : List Nat :=
  [l.resultsLine, l.count, l.region.start.line + 1, l.region.start.col + 1,
    l.region.stop.line + 1, l.region.stop.col + 1]

/-- The lines and columns of a link, counted from zero. -/
def Link.coordinates (l : Link) : List Nat :=
  [l.region.start.line, l.region.start.col, l.region.stop.line, l.region.stop.col]

/-- The fields of a link are machine words. -/
def Link.IsWord (l : Link) : Prop :=
  ∀ n ∈ l.resultsLine :: l.count :: l.coordinates, n < wordLimit

/-- What stands behind the last number sign of a link, by the digits of its
numbers. -/
def fragmentText (a b c d e f : String) : String :=
  "R" ++ a ++ "N" ++ b ++ positionText c d ++ "-" ++ positionText e f

/-- The texts say the numbers of a link. -/
structure Link.Numerals (l : Link) (a b c d e f : String) : Prop where
  /-- The line of the view. -/
  resultsLine : Numeral a l.resultsLine
  /-- The number of matches. -/
  count : Numeral b l.count
  /-- The start of the match. -/
  start : PosNumerals l.region.start c d
  /-- The end of the match. -/
  stop : PosNumerals l.region.stop e f

/-- A text is a link by its spelling: the scheme, a path, a number sign, and
six numbers behind their letters, in which the lines and columns count from
one. -/
def Link.Spelled (l : Link) (s : String) : Prop :=
  ∃ p a b c d e f : String, p ≠ "" ∧
    s = "find://" ++ p ++ "#R" ++ a ++ "N" ++ b ++ "L" ++ c ++ "C" ++ d ++ "-L" ++ e ++ "C" ++ f ∧
    l.path = ⟨p⟩ ∧ Numeral a l.resultsLine ∧ Numeral b l.count ∧
    Numeral c (l.region.start.line + 1) ∧ Numeral d (l.region.start.col + 1) ∧
    Numeral e (l.region.stop.line + 1) ∧ Numeral f (l.region.stop.col + 1)

section Spelling

variable {l : Link} {s : String} {p : Path} {cs : List Char} {a b c d e f : String}

theorem fragment?_eq_some_iff :
    fragment? p cs = some l ↔
      l.path = p ∧ ∃ a b c d e f, l.Numerals a b c d e f ∧
        cs = (fragmentText a b c d e f).toList := by
  have htext : ∀ a b c d e f : String, (fragmentText a b c d e f).toList =
      'R' :: (a.toList ++ 'N' :: (b.toList ++ ((positionText c d).toList ++
        '-' :: ((positionText e f).toList ++ [])))) := fun a b c d e f => by simp [fragmentText]
  constructor
  · intro h
    rw [fragment?] at h
    split at h
    · cases h
    next resultsLine rest hresults =>
    split at h
    · cases h
    next count rest' hcount =>
    split at h
    · next start rest'' hstart =>
      split at h
      · next stop hstop =>
        rw [Option.some.injEq] at h
        subst h
        obtain ⟨a, ha, rfl, -⟩ := tagged?_eq_some_iff.1 hresults
        obtain ⟨b, hb, rfl, -⟩ := tagged?_eq_some_iff.1 hcount
        obtain ⟨c, d, hcd, rfl, -⟩ := position?_eq_some_iff.1 hstart
        obtain ⟨e, f, hef, rfl, -⟩ := position?_eq_some_iff.1 hstop
        exact ⟨rfl, a, b, c, d, e, f, ⟨ha, hb, hcd, hef⟩, (htext a b c d e f).symm⟩
      · cases h
    · cases h
  · rintro ⟨rfl, a, b, c, d, e, f, hl, rfl⟩
    have hdash : Stops ('-' :: ((positionText e f).toList ++ [])) := stops_cons (by decide)
    have hL : Stops ((positionText c d).toList ++ '-' :: ((positionText e f).toList ++ [])) := by
      rw [show (positionText c d).toList = 'L' :: (c.toList ++ 'C' :: d.toList) by
        simp [positionText]]
      exact stops_cons (by decide)
    have hstop : position? ((positionText e f).toList ++ []) = some (l.region.stop, []) :=
      position?_eq_some_iff.2 ⟨e, f, hl.stop, rfl, stops_nil⟩
    rw [fragment?, htext, tagged?_eq_some_iff.2 ⟨a, hl.resultsLine, rfl, stops_cons (by decide)⟩]
    dsimp only
    rw [tagged?_eq_some_iff.2 ⟨b, hl.count, rfl, hL⟩]
    dsimp only
    rw [position?_eq_some_iff.2 ⟨c, d, hl.start, rfl, hdash⟩]
    simp only [hstop]

/-- Nothing behind the path looks like the end of a path or of a link. -/
theorem Link.Numerals.notMem (h : l.Numerals a b c d e f) {x : Char} (hdigit : ¬ isDigit x)
    (htags : x ∉ ['R', 'N', 'L', 'C', '-']) : x ∉ (fragmentText a b c d e f).toList := by
  have hnum : ∀ {ds : String} {n : Nat}, Numeral ds n → x ∉ ds.toList :=
    fun hds hin => hdigit (hds.digits x hin)
  simp only [List.mem_cons, List.not_mem_nil, not_or] at htags
  simp [fragmentText, positionText, hnum h.resultsLine, hnum h.count, hnum h.start.line,
    hnum h.start.col, hnum h.stop.line, hnum h.stop.col, htags]

theorem Link.spelled_iff :
    l.Spelled s ↔ l.path.text ≠ "" ∧ ∃ a b c d e f, l.Numerals a b c d e f ∧
      s = Link.scheme ++ l.path.text ++ "#" ++ fragmentText a b c d e f := by
  have hspell : ∀ p a b c d e f : String,
      "find://" ++ p ++ "#R" ++ a ++ "N" ++ b ++ "L" ++ c ++ "C" ++ d ++ "-L" ++ e ++ "C" ++ f =
        Link.scheme ++ p ++ "#" ++ fragmentText a b c d e f := by
    intro p a b c d e f
    refine String.toList_inj.1 ?_
    simp [Link.scheme, fragmentText, positionText]
  constructor
  · rintro ⟨p, a, b, c, d, e, f, hp, rfl, hpath, ha, hb, hc, hd, he, hf⟩
    rw [hpath]
    exact ⟨hp, a, b, c, d, e, f, ⟨ha, hb, ⟨hc, hd⟩, ⟨he, hf⟩⟩, hspell p a b c d e f⟩
  · rintro ⟨hp, a, b, c, d, e, f, hl, rfl⟩
    exact ⟨l.path.text, a, b, c, d, e, f, hp, (hspell _ a b c d e f).symm, rfl, hl.resultsLine,
      hl.count, hl.start.line, hl.start.col, hl.stop.line, hl.stop.col⟩

/-- **A text is read as a link** exactly if it is spelled as that link. -/
theorem Link.parse?_eq_some_iff : Link.parse? s = some l ↔ l.Spelled s := by
  rw [Link.spelled_iff]
  constructor
  · intro h
    rw [Link.parse?] at h
    split at h
    · cases h
    next rest hlead =>
    split at h
    · next x xs fragment hcut =>
      obtain ⟨hpath, a, b, c, d, e, f, hl, rfl⟩ := fragment?_eq_some_iff.1 h
      rw [hpath]
      refine ⟨fun hnil => ?_, a, b, c, d, e, f, hl, String.toList_inj.1 ?_⟩
      · have hxs := congrArg String.toList hnil
        rw [String.toList_ofList] at hxs
        cases hxs
      · rw [dropLead?_eq_some_iff.1 hlead, (cutLast_eq_some_iff.1 hcut).1]
        simp
    · cases h
  · rintro ⟨hp, a, b, c, d, e, f, hl, rfl⟩
    obtain ⟨x, xs, hxs⟩ : ∃ x xs, l.path.text.toList = x :: xs :=
      List.exists_cons_of_ne_nil fun hnil => hp (String.toList_eq_nil_iff.1 hnil)
    have htext : (Link.scheme ++ l.path.text ++ "#" ++ fragmentText a b c d e f).toList =
        Link.scheme.toList ++ (x :: xs ++ '#' :: (fragmentText a b c d e f).toList) := by
      simp [hxs]
    have hhash : '#' ∉ (fragmentText a b c d e f).toList := hl.notMem (by decide) (by decide)
    rw [Link.parse?, dropLead?_eq_some_iff.2 htext]
    dsimp only
    rw [cutLast_eq_some_iff.2 ⟨rfl, hhash⟩]
    dsimp only
    rw [← hxs, String.ofList_toList]
    exact fragment?_eq_some_iff.2 ⟨rfl, a, b, c, d, e, f, hl, rfl⟩

/-! ## The text of a link -/

/-- The text of a link, in its parts. -/
theorem Link.text_eq (l : Link) :
    l.text = Link.scheme ++ l.path.text ++ "#" ++
      fragmentText (toString l.resultsLine) (toString l.count)
        (toString (wordSucc l.region.start.line)) (toString (wordSucc l.region.start.col))
        (toString (wordSucc l.region.stop.line)) (toString (wordSucc l.region.stop.col)) := by
  refine String.toList_inj.1 ?_
  simp [Link.text, Link.scheme, fragmentText, positionText, String.join]

/-- The numbers of a link that is spelled fit a machine word. -/
theorem Link.Spelled.words (h : l.Spelled s) : ∀ n ∈ l.numbers, n < wordLimit := by
  obtain ⟨-, a, b, c, d, e, f, -, -, -, ha, hb, hc, hd, he, hf⟩ := h
  simp only [Link.numbers, List.forall_mem_cons, List.not_mem_nil, false_implies, implies_true,
    and_true]
  exact ⟨ha.word, hb.word, hc.word, hd.word, he.word, hf.word⟩

/-- **The text of a link is one of its spellings** exactly if it has a path
and its numbers fit a machine word. -/
theorem Link.spelled_text_iff :
    l.Spelled l.text ↔ l.path.text ≠ "" ∧ ∀ n ∈ l.numbers, n < wordLimit := by
  refine ⟨fun h => ⟨(Link.spelled_iff.1 h).1, h.words⟩, fun ⟨hpath, hwords⟩ => ?_⟩
  simp only [Link.numbers, List.forall_mem_cons] at hwords
  obtain ⟨ha, hb, hc, hd, he, hf, -⟩ := hwords
  have htext := l.text_eq
  rw [wordSucc_of_lt hc, wordSucc_of_lt hd, wordSucc_of_lt he, wordSucc_of_lt hf] at htext
  exact Link.spelled_iff.2 ⟨hpath, _, _, _, _, _, _,
    ⟨numeral_toString ha, numeral_toString hb, ⟨numeral_toString hc, numeral_toString hd⟩,
      ⟨numeral_toString he, numeral_toString hf⟩⟩, htext⟩

/-- The numbers of a link of machine words fit a machine word themselves
exactly if no line and no column is the greatest of these. -/
theorem Link.IsWord.words_iff (h : l.IsWord) :
    (∀ n ∈ l.numbers, n < wordLimit) ↔ ∀ n ∈ l.coordinates, n + 1 ≠ wordLimit := by
  simp only [Link.IsWord, Link.coordinates, List.forall_mem_cons] at h
  obtain ⟨ha, hb, hc, hd, he, hf, -⟩ := h
  simp only [Link.numbers, Link.coordinates, List.forall_mem_cons, List.not_mem_nil, false_implies,
    implies_true, and_true]
  omega

/-- **Links are read exactly as they are spelled, and their texts are read
back.** Whatever the path holds, the text of a link with a path is read as
that link, unless a line or a column is the greatest machine word. What was
read from any spelling is read again from the text of the link. -/
theorem link_texts :
    (∀ (s : String) (l : Link), Link.parse? s = some l ↔ l.Spelled s) ∧
    (∀ l : Link, l.path.text ≠ "" → l.IsWord →
      (Link.parse? l.text = some l ↔ ∀ n ∈ l.coordinates, n + 1 ≠ wordLimit)) ∧
    ∀ (s : String) (l : Link), Link.parse? s = some l → Link.parse? l.text = some l := by
  refine ⟨fun s l => Link.parse?_eq_some_iff, fun l hpath hword => ?_, fun s l h => ?_⟩
  · rw [Link.parse?_eq_some_iff, Link.spelled_text_iff, ← hword.words_iff]
    exact and_iff_right hpath
  · have hspelled := Link.parse?_eq_some_iff.1 h
    exact Link.parse?_eq_some_iff.2
      (Link.spelled_text_iff.2 ⟨(Link.spelled_iff.1 hspelled).1, hspelled.words⟩)

/-- A path may look like the rest of a link, and numbers may have zeros in
front. -/
theorem link_texts_odd :
    let l : Link := ⟨⟨"a\n#R1N2L3C4-L5C6"⟩, 0, 7, ⟨⟨0, 0⟩, ⟨1, 2⟩⟩⟩
    let s := "find://a\n#R1N2L3C4-L5C6#R00N007L1C01-L2C3"
    l.path.text ≠ "" ∧ l.IsWord ∧ Link.parse? s = some l ∧ l.Spelled s ∧
      Link.parse? l.text = some l ∧ ∀ n ∈ l.coordinates, n + 1 ≠ wordLimit := by
  intro l s
  have hpath : l.path.text ≠ "" := by decide
  have hword : l.IsWord := by unfold Link.IsWord; decide
  have hread : Link.parse? s = some l := by decide
  have hback : Link.parse? l.text = some l := link_texts.2.2 s l hread
  exact ⟨hpath, hword, hread, (link_texts.1 s l).1 hread, hback,
    (link_texts.2.1 l hpath hword).1 hback⟩

/-- **The greatest column is not read back**: one more than it is no machine
word, and the text says a column that there is not. -/
theorem not_link_texts_greatest :
    let l : Link := ⟨⟨"/a"⟩, 0, 1, ⟨⟨0, 0⟩, ⟨0, 18446744073709551615⟩⟩⟩
    l.path.text ≠ "" ∧ l.IsWord ∧ l.text = "find:///a#R0N1L1C1-L1C0" ∧
      Link.parse? l.text ≠ some l := by
  intro l
  have htext : l.text = "find:///a#R0N1L1C1-L1C0" := by decide
  refine ⟨by decide, by unfold Link.IsWord; decide, htext, ?_⟩
  rw [htext]
  decide

end Spelling

end Find
end CodeDesk
