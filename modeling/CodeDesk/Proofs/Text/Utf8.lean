import CodeDesk.Text.Utf8
/-!
# Bytes and characters — what is read from bytes, and read back

Reading bytes takes them apart into spans: the bytes of one character each,
or of a gap. The spans hold all bytes in their order (`bytesOf_spans`) and
show the text that is read (`map_char`). A character is written with the
bytes it was read from (`encode_of_next`). A gap has at most as many bytes
as the replacement character that is shown for it, and is never the same
bytes (`le_two_of_next`, `gap_ne`), so what is written for a text with a gap is
not what was read.

The bytes a character is written with are read as this character, whatever
follows them (`exists_next_encode`): its first byte says how many there are,
and none of them can be taken for the end of a shorter one. So the bytes of a
text have no gap, and are read as the text (`decode?_encode`). If some at the
end are missing, no other characters are read than those of the text
(`decode?_cut`).
-/

namespace CodeDesk
namespace Utf8

/-- What bytes were read as. -/
structure Span where
  /-- The character, `none` for a gap. -/
  char? : Option Char
  /-- The bytes. -/
  bytes : Bytes
  deriving DecidableEq

/-- The character that is shown. -/
def Span.char (x : Span) : Char := x.char?.getD '\ufffd'

/-- The bytes of spans. -/
def bytesOf (xs : List Span) : Bytes := xs.flatMap (·.bytes)

/-- What bytes are read as, one character or gap after the other. -/
def spans : Bytes → List Span
  | [] => []
  | a :: rest =>
    ⟨(next a rest).1, a :: rest.take (next a rest).2⟩ :: spans (rest.drop (next a rest).2)
termination_by bs => bs.length
decreasing_by simp only [List.length_drop, List.length_cons]; omega

/-- No byte is lost, and none is read twice. -/
theorem bytesOf_spans (bs : Bytes) : bytesOf (spans bs) = bs := by
  fun_induction spans bs with
  | case1 => rfl
  | case2 a rest ih =>
    rw [bytesOf] at ih
    rw [bytesOf, List.flatMap_cons, ih, List.cons_append, List.take_append_drop]

theorem map_char? (bs : Bytes) : (spans bs).map (·.char?) = decode bs := by
  fun_induction spans bs with
  | case1 => rw [decode, List.map_nil]
  | case2 a rest ih => rw [decode, List.map_cons, ih]

/-- The spans show the text that is read. -/
theorem map_char (bs : Bytes) : (spans bs).map Span.char = (decodeLossy bs).toList := by
  rw [decodeLossy, String.toList_ofList, ← map_char?, List.map_map]
  rfl

variable {a b c d : UInt8} {n k : Nat} {rest : Bytes} {x : Char}

/-! ## Bytes as numbers -/

theorem ofNat_eq (h : n = a.toNat) : UInt8.ofNat n = a := by
  rw [h, UInt8.ofNat_toNat]

/-- A number that is no surrogate is the number of a character. -/
theorem toNat_ofNat (h : n < 0xD800 ∨ (0xDFFF < n ∧ n < 0x110000)) :
    (Char.ofNat n).val.toNat = n := by
  have hvalid : n.isValidChar := h
  rw [Char.ofNat, dif_pos hvalid]
  rfl

theorem le_and_le_iff {low high : UInt8} :
    (low ≤ b && b ≤ high) = true ↔ low.toNat ≤ b.toNat ∧ b.toNat ≤ high.toNat := by
  rw [Bool.and_eq_true, decide_eq_true_eq, decide_eq_true_eq, UInt8.le_iff_toNat_le,
    UInt8.le_iff_toNat_le]

theorem isTail_iff : isTail b = true ↔ 0x80 ≤ b.toNat ∧ b.toNat ≤ 0xBF := le_and_le_iff

/-- The first two bytes of a longer character: what the second may be
depends on the first. -/
theorem isSecond_iff : isSecond a b = true ↔
    0x80 ≤ b.toNat ∧ b.toNat ≤ 0xBF ∧ (a.toNat = 0xE0 → 0xA0 ≤ b.toNat) ∧
      (a.toNat = 0xED → b.toNat ≤ 0x9F) ∧ (a.toNat = 0xF0 → 0x90 ≤ b.toNat) ∧
      (a.toNat = 0xF4 → b.toNat ≤ 0x8F) := by
  have hsame : ∀ x : UInt8, a = x ↔ a.toNat = x.toNat := fun x => UInt8.toNat_inj.symm
  unfold isSecond isTail
  simp only [hsame]
  repeat' split
  all_goals
    rw [le_and_le_iff]
    simp only [UInt8.toNat_ofNat] at *
    omega

/-! ## What a character is written with -/

theorem encode_one (h : a.toNat < 0x80) : String.utf8EncodeChar (Char.ofNat a.toNat) = [a] := by
  have hn : (Char.ofNat a.toNat).val.toNat = a.toNat := toNat_ofNat (by omega)
  rw [String.utf8EncodeChar, hn, if_pos (by omega), ofNat_eq rfl]

theorem encode_two (ha : 0xC2 ≤ a.toNat ∧ a.toNat ≤ 0xDF)
    (hb : 0x80 ≤ b.toNat ∧ b.toNat ≤ 0xBF) :
    String.utf8EncodeChar (Char.ofNat (a.toNat % 0x20 * 0x40 + b.toNat % 0x40)) = [a, b] := by
  generalize hn : a.toNat % 0x20 * 0x40 + b.toNat % 0x40 = n
  have hval : (Char.ofNat n).val.toNat = n := toNat_ofNat (by omega)
  have hfirst : n / 64 % 32 + 192 = a.toNat := by omega
  have hsecond : n % 64 + 128 = b.toNat := by omega
  rw [String.utf8EncodeChar, hval, if_neg (by omega), if_pos (by omega), ofNat_eq hfirst,
    ofNat_eq hsecond]

theorem encode_three (ha : 0xE0 ≤ a.toNat ∧ a.toNat ≤ 0xEF) (hb : isSecond a b)
    (hc : 0x80 ≤ c.toNat ∧ c.toNat ≤ 0xBF) :
    String.utf8EncodeChar
      (Char.ofNat ((a.toNat % 0x10 * 0x40 + b.toNat % 0x40) * 0x40 + c.toNat % 0x40)) =
        [a, b, c] := by
  obtain ⟨hlow, hhigh, hE0, hED, -, -⟩ := isSecond_iff.1 hb
  generalize hn : (a.toNat % 0x10 * 0x40 + b.toNat % 0x40) * 0x40 + c.toNat % 0x40 = n
  have hrange : 0x800 ≤ n ∧ n ≤ 0xFFFF ∧ (n < 0xD800 ∨ 0xDFFF < n) := by omega
  have hval : (Char.ofNat n).val.toNat = n := toNat_ofNat (by omega)
  have hfirst : n / 4096 % 16 + 224 = a.toNat := by omega
  have hsecond : n / 64 % 64 + 128 = b.toNat := by omega
  have hthird : n % 64 + 128 = c.toNat := by omega
  rw [String.utf8EncodeChar, hval, if_neg (by omega), if_neg (by omega), if_pos (by omega),
    ofNat_eq hfirst, ofNat_eq hsecond, ofNat_eq hthird]

theorem encode_four (ha : 0xF0 ≤ a.toNat ∧ a.toNat ≤ 0xF4) (hb : isSecond a b)
    (hc : 0x80 ≤ c.toNat ∧ c.toNat ≤ 0xBF) (hd : 0x80 ≤ d.toNat ∧ d.toNat ≤ 0xBF) :
    String.utf8EncodeChar
      (Char.ofNat (((a.toNat % 0x8 * 0x40 + b.toNat % 0x40) * 0x40 + c.toNat % 0x40) * 0x40 +
        d.toNat % 0x40)) = [a, b, c, d] := by
  obtain ⟨hlow, hhigh, -, -, hF0, hF4⟩ := isSecond_iff.1 hb
  generalize hn : ((a.toNat % 0x8 * 0x40 + b.toNat % 0x40) * 0x40 + c.toNat % 0x40) * 0x40 +
    d.toNat % 0x40 = n
  have hrange : 0x10000 ≤ n ∧ n < 0x110000 := by omega
  have hval : (Char.ofNat n).val.toNat = n := toNat_ofNat (by omega)
  have hfirst : n / 262144 % 8 + 240 = a.toNat := by omega
  have hsecond : n / 4096 % 64 + 128 = b.toNat := by omega
  have hthird : n / 64 % 64 + 128 = c.toNat := by omega
  have hfourth : n % 64 + 128 = d.toNat := by omega
  rw [String.utf8EncodeChar, hval, if_neg (by omega), if_neg (by omega), if_neg (by omega),
    ofNat_eq hfirst, ofNat_eq hsecond, ofNat_eq hthird, ofNat_eq hfourth]

/-- **A character is written with the bytes it was read from.** -/
theorem encode_of_next (h : next a rest = (some x, k)) :
    String.utf8EncodeChar x = a :: rest.take k := by
  unfold next at h
  split at h
  · next ha =>
    cases h
    exact encode_one (UInt8.lt_iff_toNat_lt.1 ha)
  split at h
  · next ha =>
    have ha' : 0xC2 ≤ a.toNat ∧ a.toNat ≤ 0xDF := le_and_le_iff.1 ha
    split at h
    · split at h
      · next b _ hb =>
        cases h
        exact encode_two ha' (isTail_iff.1 hb)
      · cases h
    · cases h
  split at h
  · next ha =>
    have ha' : 0xE0 ≤ a.toNat ∧ a.toNat ≤ 0xEF := le_and_le_iff.1 ha
    split at h
    · next b x _ =>
      split at h
      · cases h
      · split at h
        · cases h
        · next hb hx =>
          cases h
          rw [Bool.not_eq_true', Bool.not_eq_false] at hb hx
          exact encode_three ha' hb (isTail_iff.1 hx)
    · cases h
    · cases h
  split at h
  · next ha =>
    have ha' : 0xF0 ≤ a.toNat ∧ a.toNat ≤ 0xF4 := le_and_le_iff.1 ha
    split at h
    · next b x y _ =>
      split at h
      · cases h
      · split at h
        · cases h
        · split at h
          · cases h
          · next hb hx hy =>
            cases h
            rw [Bool.not_eq_true', Bool.not_eq_false] at hb hx hy
            exact encode_four ha' hb (isTail_iff.1 hx) (isTail_iff.1 hy)
    · cases h
    · cases h
    · cases h
  · cases h

/-! ## Gaps -/

/-- A gap has at most three bytes. -/
theorem le_two_of_next (h : next a rest = (none, k)) : k ≤ 2 := by
  unfold next at h
  repeat' split at h
  all_goals
    rw [Prod.mk.injEq] at h
    obtain ⟨hgap, rfl⟩ := h
    first
      | omega
      | cases hgap

/-- The bytes of the replacement character are no gap. -/
theorem gap_ne (h : next a rest = (none, k)) : a :: rest.take k ≠ [0xEF, 0xBF, 0xBD] := by
  intro heq
  rw [List.cons.injEq] at heq
  obtain ⟨rfl, hrest⟩ := heq
  obtain ⟨rest', rfl⟩ : ∃ rest', rest = 0xBF :: 0xBD :: rest' := by
    match rest, k, hrest with
    | b :: c :: rest', k + 2, hrest =>
      simp only [List.take_succ_cons, List.cons.injEq] at hrest
      exact ⟨rest', by rw [hrest.1, hrest.2.1]⟩
    | [], k, hrest => simp at hrest
    | [b], k + 1, hrest => simp at hrest
    | b :: rest', 0, hrest => simp at hrest
    | b :: c :: rest', 1, hrest => simp at hrest
  simp [next, isSecond, isTail] at h

/-! ## What a character is read from -/

theorem next_one (ha : a.toNat < 0x80) : next a rest = (some (Char.ofNat a.toNat), 0) := by
  rw [next.eq_def, if_pos (UInt8.lt_iff_toNat_lt.2 ha)]

theorem not_lt_of_toNat {k : UInt8} (h : k.toNat ≤ a.toNat) : ¬ a < k := fun hlt =>
  absurd (UInt8.lt_iff_toNat_lt.1 hlt) (Nat.not_lt.2 h)

theorem next_two (ha : 0xC2 ≤ a.toNat ∧ a.toNat ≤ 0xDF) (hb : 0x80 ≤ b.toNat ∧ b.toNat ≤ 0xBF) :
    next a (b :: rest) = (some (Char.ofNat (a.toNat % 0x20 * 0x40 + b.toNat % 0x40)), 1) := by
  have hlow : (0x80 : UInt8).toNat ≤ a.toNat := Nat.le_trans (by decide) ha.1
  have htwo : (0xC2 ≤ a && a ≤ 0xDF) = true := le_and_le_iff.2 ha
  rw [next, if_neg (not_lt_of_toNat hlow), if_pos htwo, if_pos (isTail_iff.2 hb)]
  rfl

theorem next_three (ha : 0xE0 ≤ a.toNat ∧ a.toNat ≤ 0xEF) (hb : isSecond a b = true)
    (hc : 0x80 ≤ c.toNat ∧ c.toNat ≤ 0xBF) :
    next a (b :: c :: rest) =
      (some (Char.ofNat ((a.toNat % 0x10 * 0x40 + b.toNat % 0x40) * 0x40 + c.toNat % 0x40)),
        2) := by
  have hlow : (0x80 : UInt8).toNat ≤ a.toNat := Nat.le_trans (by decide) ha.1
  have htwo : ¬ (0xC2 ≤ a && a ≤ 0xDF) = true := fun h =>
    absurd (Nat.le_trans ha.1 (le_and_le_iff.1 h).2) (by decide)
  have hthree : (0xE0 ≤ a && a ≤ 0xEF) = true := le_and_le_iff.2 ha
  rw [next, if_neg (not_lt_of_toNat hlow), if_neg htwo, if_pos hthree]
  dsimp only
  rw [hb, isTail_iff.2 hc]
  rfl

theorem next_four (ha : 0xF0 ≤ a.toNat ∧ a.toNat ≤ 0xF4) (hb : isSecond a b = true)
    (hc : 0x80 ≤ c.toNat ∧ c.toNat ≤ 0xBF) (hd : 0x80 ≤ d.toNat ∧ d.toNat ≤ 0xBF) :
    next a (b :: c :: d :: rest) =
      (some (Char.ofNat
        (((a.toNat % 0x8 * 0x40 + b.toNat % 0x40) * 0x40 + c.toNat % 0x40) * 0x40 +
          d.toNat % 0x40)), 3) := by
  have hlow : (0x80 : UInt8).toNat ≤ a.toNat := Nat.le_trans (by decide) ha.1
  have htwo : ¬ (0xC2 ≤ a && a ≤ 0xDF) = true := fun h =>
    absurd (Nat.le_trans ha.1 (le_and_le_iff.1 h).2) (by decide)
  have hthree : ¬ (0xE0 ≤ a && a ≤ 0xEF) = true := fun h =>
    absurd (Nat.le_trans ha.1 (le_and_le_iff.1 h).2) (by decide)
  have hfour : (0xF0 ≤ a && a ≤ 0xF4) = true := le_and_le_iff.2 ha
  rw [next, if_neg (not_lt_of_toNat hlow), if_neg htwo, if_neg hthree, if_pos hfour]
  dsimp only
  rw [hb, isTail_iff.2 hc, isTail_iff.2 hd]
  rfl

/-! ## Texts -/

/-- **A character is read from the bytes it is written with**, whatever
follows them. -/
theorem exists_next_encode (x : Char) :
    ∃ a tail, String.utf8EncodeChar x = a :: tail ∧
      ∀ rest, next a (tail ++ rest) = (some x, tail.length) := by
  have hvalid : x.val.toNat < 0xD800 ∨ (0xDFFF < x.val.toNat ∧ x.val.toNat < 0x110000) := x.valid
  have hx : ∀ {k : Nat}, k = x.val.toNat → Char.ofNat k = x := fun h => h ▸ Char.ofNat_toNat x
  generalize hv : x.val.toNat = v at hvalid hx
  rw [String.utf8EncodeChar, hv]
  by_cases h₁ : v ≤ 127
  · rw [if_pos h₁]
    have ha : (UInt8.ofNat v).toNat = v := UInt8.toNat_ofNat_of_lt' (show v < 256 by omega)
    refine ⟨_, _, rfl, fun rest => ?_⟩
    rw [List.nil_append, next_one (by omega), hx ha]
    rfl
  by_cases h₂ : v ≤ 2047
  · rw [if_neg h₁, if_pos h₂]
    have ha := UInt8.toNat_ofNat_of_lt' (show v / 64 % 32 + 192 < 256 by omega)
    have hb := UInt8.toNat_ofNat_of_lt' (show v % 64 + 128 < 256 by omega)
    refine ⟨_, _, rfl, fun rest => ?_⟩
    rw [List.singleton_append, next_two (by omega) (by omega), ha, hb, hx (by omega)]
    rfl
  by_cases h₃ : v ≤ 65535
  · rw [if_neg h₁, if_neg h₂, if_pos h₃]
    have ha := UInt8.toNat_ofNat_of_lt' (show v / 4096 % 16 + 224 < 256 by omega)
    have hb := UInt8.toNat_ofNat_of_lt' (show v / 64 % 64 + 128 < 256 by omega)
    have hc := UInt8.toNat_ofNat_of_lt' (show v % 64 + 128 < 256 by omega)
    refine ⟨_, _, rfl, fun rest => ?_⟩
    rw [List.cons_append, List.singleton_append, next_three (by omega) _ (by omega), ha, hb, hc,
      hx (by omega)]
    · rfl
    -- No second byte stands for a surrogate, or for a number with a shorter form.
    · exact isSecond_iff.2 (by omega)
  · rw [if_neg h₁, if_neg h₂, if_neg h₃]
    have ha := UInt8.toNat_ofNat_of_lt' (show v / 262144 % 8 + 240 < 256 by omega)
    have hb := UInt8.toNat_ofNat_of_lt' (show v / 4096 % 64 + 128 < 256 by omega)
    have hc := UInt8.toNat_ofNat_of_lt' (show v / 64 % 64 + 128 < 256 by omega)
    have hd := UInt8.toNat_ofNat_of_lt' (show v % 64 + 128 < 256 by omega)
    refine ⟨_, _, rfl, fun rest => ?_⟩
    rw [List.cons_append, List.cons_append, List.singleton_append,
      next_four (by omega) _ (by omega) (by omega), ha, hb, hc, hd, hx (by omega)]
    · rfl
    · exact isSecond_iff.2 (by omega)

theorem decode_flatMap (cs : List Char) :
    decode (cs.flatMap String.utf8EncodeChar) = cs.map some := by
  induction cs with
  | nil => rw [List.flatMap_nil, decode, List.map_nil]
  | cons x cs ih =>
    obtain ⟨a, tail, hencode, hnext⟩ := exists_next_encode x
    rw [List.flatMap_cons, hencode, List.cons_append, decode, hnext]
    dsimp only
    rw [List.drop_left, ih, List.map_cons]

/-- **A text is read from its bytes.** -/
theorem decode?_encode (s : String) : decode? (encode s) = some s := by
  have hall : ∀ cs : List Char, (cs.map some).mapM id = some cs := fun cs => by
    induction cs with
    | nil => rfl
    | cons c cs ih => rw [List.map_cons, List.mapM_cons, ih]; rfl
  rw [decode?, encode, decode_flatMap, hall, Option.map_some, String.ofList_toList]

theorem decodeLossy_encode (s : String) : decodeLossy (encode s) = s := by
  have hall : (s.toList.map some).map (fun c => c.getD '\ufffd') = s.toList := by
    rw [List.map_map]
    exact List.map_id s.toList
  rw [decodeLossy, encode, decode_flatMap, hall, String.ofList_toList]

/-! ## Texts that are cut short -/

/-- Characters are the same characters if something else follows them. -/
theorem decode_append {front back : Bytes} (h : none ∉ decode front) :
    decode (front ++ back) = decode front ++ decode back := by
  fun_induction decode front with
  | case1 => rfl
  | case2 a rest ih =>
    rw [List.mem_cons, not_or] at h
    obtain ⟨x, hx⟩ := Option.ne_none_iff_exists'.1 (Ne.symm h.1)
    have hnext : next a rest = (some x, (next a rest).2) := by rw [← hx]
    obtain ⟨a', tail, hencode, hread⟩ := exists_next_encode x
    rw [encode_of_next hnext, List.cons.injEq] at hencode
    obtain ⟨rfl, htail⟩ := hencode
    generalize (next a rest).2 = k at *
    have hsplit : rest ++ back = tail ++ (rest.drop k ++ back) := by
      rw [← htail, ← List.append_assoc, List.take_append_drop]
    rw [List.cons_append, decode, hsplit, hread, hx, List.drop_left, ih h.2, List.cons_append]

theorem mapM_id_eq_some {os : List (Option Char)} {cs : List Char} (h : os.mapM id = some cs) :
    os = cs.map some := by
  induction os generalizing cs with
  | nil =>
    cases h
    rfl
  | cons o os ih =>
    rw [List.mapM_cons] at h
    cases hos : os.mapM id with
    | none =>
      rw [hos] at h
      cases o <;> cases h
    | some ds =>
      rw [hos] at h
      cases o with
      | none => cases h
      | some c =>
        cases h
        rw [ih hos, List.map_cons]

/-- **The bytes of a text that is cut short** are no text, or that of fewer
characters. -/
theorem decode?_cut {s : String} {front back : Bytes} (h : encode s = front ++ back)
    (hback : back ≠ []) : decode? front = none ∨
      ∃ cs ds, decode? front = some (String.ofList cs) ∧ s.toList = cs ++ ds ∧ ds ≠ [] := by
  cases hcs : (decode front).mapM id with
  | none => exact .inl (by rw [decode?, hcs]; rfl)
  | some cs =>
    have hfront := mapM_id_eq_some hcs
    have hall : s.toList.map some = cs.map some ++ decode back := by
      rw [← decode_flatMap, ← encode, h, decode_append (by rw [hfront]; simp), hfront]
    obtain ⟨cs', ds, hsplit, hcs', hds⟩ := List.map_eq_append_iff.1 hall
    obtain rfl := (List.map_inj_right fun _ _ => Option.some.inj).1 hcs'
    refine .inr ⟨cs', ds, by rw [decode?, hcs]; rfl, hsplit, ?_⟩
    rintro rfl
    obtain ⟨b, back, rfl⟩ := List.exists_cons_of_ne_nil hback
    rw [decode] at hds
    cases hds

end Utf8
end CodeDesk
