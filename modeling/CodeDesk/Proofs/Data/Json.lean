import CodeDesk.Data.Json.Parser
import CodeDesk.Data.Json.Printer
import CodeDesk.Proofs.Text.Number
/-!
# JSON that is written is read back

A string is read back from its quotes whatever characters are in it
(`string?_quote`): an escape is read as the one character it stands for, and
every other character as itself. A machine word is read back from its digits
if what follows does not go on with the number (`number?_toString`). A value
without other numbers is read back from its lines at any level, and reading
stops where its text ends (`value_prettyChars`), so that what stands around
it is read next. Every part of a text has a character that no other part has,
which is why there is always enough fuel.
-/

namespace CodeDesk
namespace Json

variable {fuel level outer : Nat} {rest : List Char}

/-! ## Strings -/

theorem hexDigit?_lowerHex : ∀ n < 16, hexDigit? (lowerHex n) = some n := by decide

/-- The escape of a character below the blank has two zeros and two digits. -/
theorem hex4?_low {n : Nat} (h : n < 0x20) :
    hex4? ('0' :: '0' :: lowerHex (n / 16) :: lowerHex (n % 16) :: rest) = some (n, rest) := by
  have hzero : hexDigit? '0' = some 0 := by decide
  rw [hex4?, hzero, hexDigit?_lowerHex (n / 16) (by omega), hexDigit?_lowerHex (n % 16) (by omega)]
  dsimp only
  rw [show ((0 * 16 + 0) * 16 + n / 16) * 16 + n % 16 = n by omega]

/-- The escape of a number that is no half of a surrogate pair. -/
theorem stringBody_numbered {n : Nat} {digits : List Char} (acc : Option (List Char))
    (h : hex4? digits = some (n, rest)) (hhigh : isHigh n = false) (hlow : isLow n = false) :
    stringBody (fuel + 1) acc ('\\' :: 'u' :: digits) =
      stringBody fuel (acc.map (Char.ofNat n :: ·)) rest := by
  rw [stringBody.eq_def]
  dsimp only
  rw [if_neg (by decide), if_neg (by decide), if_pos rfl]
  simp only [h, hhigh, hlow, Bool.false_eq_true, if_false]

/-- **A character is read back from how it is written in a string.** -/
theorem stringBody_escapeChar (acc : List Char) (c : Char) (rest : List Char) :
    stringBody (fuel + 1) (some acc) (escapeChar c ++ rest) =
      stringBody fuel (some (c :: acc)) rest := by
  unfold escapeChar
  -- The escapes with a letter of their own.
  iterate 7
    split
    · next hc =>
      subst hc
      rfl
  split
  · next hlow =>
    have hhigh : isHigh c.toNat = false := by
      rw [isHigh, decide_eq_false (by omega), Bool.false_and]
    have hsecond : isLow c.toNat = false := by
      rw [isLow, decide_eq_false (by omega), Bool.false_and]
    show stringBody (fuel + 1) (some acc)
      ('\\' :: 'u' :: '0' :: '0' :: lowerHex (c.toNat / 16) :: lowerHex (c.toNat % 16) :: rest) = _
    rw [stringBody_numbered (some acc) (hex4?_low hlow) hhigh hsecond, Option.map_some,
      Char.ofNat_toNat]
  · next hquote hbackslash _ _ _ _ _ hlow =>
    rw [List.singleton_append, stringBody.eq_def]
    dsimp only
    rw [if_neg hquote, if_neg hlow, if_neg hbackslash, Option.map_some]

theorem stringBody_flatMap (cs acc : List Char) (hfuel : cs.length < fuel) :
    stringBody fuel (some acc) (cs.flatMap escapeChar ++ '"' :: rest) =
      some (some (String.ofList (acc.reverse ++ cs)), rest) := by
  induction cs generalizing fuel acc with
  | nil =>
    obtain ⟨fuel, rfl⟩ := Nat.exists_eq_succ_of_ne_zero (Nat.ne_of_gt hfuel)
    rw [List.flatMap_nil, List.nil_append, List.append_nil, stringBody.eq_def]
    rfl
  | cons c cs ih =>
    obtain ⟨fuel, rfl⟩ := Nat.exists_eq_succ_of_ne_zero (Nat.ne_zero_of_lt hfuel)
    rw [List.flatMap_cons, List.append_assoc, stringBody_escapeChar,
      ih (c :: acc) (Nat.lt_of_succ_lt_succ hfuel), List.reverse_cons, List.append_assoc,
      List.singleton_append]

theorem length_le_flatMap_escapeChar (cs : List Char) :
    cs.length ≤ (cs.flatMap escapeChar).length := by
  induction cs with
  | nil => exact Nat.le_refl 0
  | cons c cs ih =>
    have hone : 1 ≤ (escapeChar c).length := by
      unfold escapeChar
      repeat' split
      all_goals exact Nat.le_add_left 1 _
    rw [List.flatMap_cons, List.length_append, List.length_cons]
    omega

/-- **A string is read back from its quotes**, whatever characters are in
it. -/
theorem string?_quote (s : String) :
    string? (s.toList.flatMap escapeChar ++ '"' :: rest) = some (some s, rest) := by
  have hlength := length_le_flatMap_escapeChar s.toList
  rw [string?, stringBody_flatMap, List.reverse_nil, List.nil_append, String.ofList_toList]
  rw [List.length_append]
  omega

theorem quote_append (s : String) (rest : List Char) :
    quote s ++ rest = '"' :: (s.toList.flatMap escapeChar ++ '"' :: rest) := by
  rw [quote, List.append_assoc, List.singleton_append, List.cons_append]

/-! ## Numbers -/

/-- Whether a number ends where this follows it. -/
def endsNumber : List Char → Bool
  | [] => true
  | c :: _ => !(isDigit c || c = '.' || c = 'e' || c = 'E')

section

variable (hrest : endsNumber rest = true)

include hrest

theorem digits_append {ds : List Char} (hds : ∀ d ∈ ds, isDigit d = true) :
    (ds ++ rest).takeWhile isDigit = ds ∧ (ds ++ rest).dropWhile isDigit = rest := by
  rw [List.takeWhile_append_of_pos hds, List.dropWhile_append_of_pos hds]
  cases rest with
  | nil => exact ⟨List.append_nil ds, rfl⟩
  | cons c cs =>
    have hc : ¬ isDigit c = true := by
      simp only [endsNumber, Bool.not_eq_true', Bool.or_eq_false_iff] at hrest
      simp [hrest]
    rw [List.takeWhile_cons_of_neg hc, List.dropWhile_cons_of_neg hc]
    exact ⟨List.append_nil ds, rfl⟩

theorem fraction?_of_ends : fraction? rest = some (none, rest) := by
  unfold fraction?
  split
  · exact absurd hrest (by simp [endsNumber])
  · rfl

theorem exponent?_of_ends : exponent? rest = some (none, rest) := by
  unfold exponent?
  split
  · next e cs =>
    simp only [endsNumber, Bool.not_eq_true', Bool.or_eq_false_iff] at hrest
    rw [if_neg (by simp [hrest])]
  · rfl

theorem wholePart?_toString (n : Nat) :
    wholePart? ((toString n).toList ++ rest) = some ((toString n).toList, rest) := by
  have hdigits : ∀ d ∈ (toString n).toList, isDigit d = true := fun _ => isDigit_of_mem_toString
  unfold wholePart?
  split
  · next more heq =>
    obtain ⟨d, ds, hds⟩ := List.exists_cons_of_ne_nil (toString_ne_nil n)
    rw [hds, List.cons_append] at heq
    obtain ⟨rfl, rfl⟩ := List.cons.inj heq
    -- A zero in front is the only digit.
    obtain rfl := eq_nil_of_toString hds
    rw [hds, List.nil_append]
    cases rest with
    | nil => rfl
    | cons c cs =>
      simp only [endsNumber, Bool.not_eq_true', Bool.or_eq_false_iff] at hrest
      simp [hrest]
  · obtain ⟨htake, hdrop⟩ := digits_append hrest hdigits
    rw [htake, hdrop, if_neg]
    rw [List.isEmpty_iff]
    exact toString_ne_nil n

/-- **A machine word is read back from its digits**, and what follows them is
left. -/
theorem number?_toString {n : Nat} (h : n < wordLimit) :
    number? ((toString n).toList ++ rest) = some (.int n, rest) := by
  have hwhole := wholePart?_toString hrest n
  have hunsigned : ∀ more, (toString n).toList ++ rest ≠ '-' :: more := by
    obtain ⟨d, ds, hds⟩ := List.exists_cons_of_ne_nil (toString_ne_nil n)
    intro more heq
    have hd := isDigit_of_mem_toString (hds ▸ List.mem_cons_self : d ∈ (toString n).toList)
    rw [hds, List.cons_append] at heq
    rw [(List.cons.inj heq).1] at hd
    exact absurd hd (by decide)
  unfold number?
  split
  · next hsign =>
    split at hsign
    · next heq => exact absurd heq (hunsigned _)
    · cases hsign
      rw [hwhole]
      dsimp only
      rw [fraction?_of_ends hrest]
      dsimp only
      rw [exponent?_of_ends hrest]
      simp only [numberValue, digitsValue_toString, Bool.false_eq_true, if_false, if_pos h]

end

/-! ## Values -/

mutual

/-- Whether a value is made of texts, truth values and machine words. -/
def isWordy : Value → Bool
  | .null => true
  | .bool _ => true
  | .int (.ofNat n) => decide (n < wordLimit)
  | .text _ => true
  | .list vs => wordyItems vs
  | .map ms => wordyMembers ms
  | _ => false

/-- `isWordy` of every item. -/
def wordyItems : List Value → Bool
  | [] => true
  | v :: vs => isWordy v && wordyItems vs

/-- `isWordy` of every member. -/
def wordyMembers : List (String × Value) → Bool
  | [] => true
  | (_, v) :: ms => isWordy v && wordyMembers ms

end

theorem wordyItems_map {α : Type} {f : α → Value} (as : List α)
    (h : ∀ a ∈ as, isWordy (f a) = true) : wordyItems (as.map f) = true := by
  induction as with
  | nil => rfl
  | cons a as ih =>
    rw [List.map_cons, wordyItems, h a List.mem_cons_self,
      ih fun b hb => h b (List.mem_cons_of_mem a hb)]
    rfl

theorem isWordy_texts (ss : List String) : isWordy (.texts ss) = true :=
  wordyItems_map ss fun _ _ => rfl

theorem skipBlanks_cons {c : Char} (hc : isBlank c = false) (cs : List Char) :
    skipBlanks (c :: cs) = c :: cs :=
  List.dropWhile_cons_of_neg (Bool.not_eq_true _ ▸ hc)

/-- The blanks of a new line are skipped. -/
theorem skipBlanks_newline (level : Nat) {c : Char} (hc : isBlank c = false) (cs : List Char) :
    skipBlanks (newline level ++ c :: cs) = c :: cs := by
  have hblanks : ∀ b ∈ newline level, isBlank b = true := by
    intro b hb
    rcases List.mem_cons.1 hb with rfl | hb
    · rfl
    · rw [List.eq_of_mem_replicate hb]
      rfl
  rw [skipBlanks, List.dropWhile_append_of_pos hblanks]
  exact skipBlanks_cons hc cs

/-- A number starts with a digit, which is read as nothing else. -/
theorem exists_digits_eq (n : Nat) : ∃ d ds, (toString n).toList = d :: ds ∧
    isBlank d = false ∧ d ∉ ['"', '[', ']', '\x7b', '\x7d', 'n', 't', 'f'] := by
  obtain ⟨d, ds, hds⟩ := List.exists_cons_of_ne_nil (toString_ne_nil n)
  have hd := isDigit_of_mem_toString (hds ▸ List.mem_cons_self : d ∈ (toString n).toList)
  have hother : ∀ c, isDigit c = false → d ≠ c := by
    rintro c hc rfl
    cases hd.symm.trans hc
  refine ⟨d, ds, hds, ?_, ?_⟩
  · simp [isBlank, hother ' ' rfl, hother '\n' rfl, hother '\t' rfl, hother '\r' rfl]
  · intro hmem
    have hnone : ['"', '[', ']', '\x7b', '\x7d', 'n', 't', 'f'].all (fun c => !isDigit c) := rfl
    have hnot : (!isDigit d) = true := List.all_eq_true.1 hnone d hmem
    rw [hd] at hnot
    cases hnot

/-- The first character of a value is neither a blank nor the end of a
list. -/
theorem exists_prettyChars_eq (level : Nat) : ∀ v : Value, isWordy v = true →
    ∃ c cs, prettyChars level v = c :: cs ∧ isBlank c = false ∧ c ≠ ']'
  | .null, _ => ⟨_, _, rfl, by decide, by decide⟩
  | .int (.ofNat n), _ => by
    obtain ⟨d, ds, hds, hblank, hother⟩ := exists_digits_eq n
    exact ⟨d, ds, hds, hblank, by rintro rfl; exact hother (by decide)⟩
  | .bool true, _ => ⟨_, _, rfl, by decide, by decide⟩
  | .bool false, _ => ⟨_, _, rfl, by decide, by decide⟩
  | .text s, _ => ⟨_, _, rfl, by decide, by decide⟩
  | .list [], _ => ⟨_, _, rfl, by decide, by decide⟩
  | .list (_ :: _), _ => ⟨_, _, rfl, by decide, by decide⟩
  | .map [], _ => ⟨_, _, rfl, by decide, by decide⟩
  | .map (_ :: _), _ => ⟨_, _, rfl, by decide, by decide⟩

section

variable {v : Value}

theorem length_pos_prettyChars (hv : isWordy v = true) (level : Nat) :
    0 < (prettyChars level v).length := by
  obtain ⟨c, cs, heq, -, -⟩ := exists_prettyChars_eq level v hv
  rw [heq]
  exact Nat.succ_pos _

/-- A value is read the same behind a new line. -/
theorem value_newline (hv : isWordy v = true) (fuel level outer : Nat) (rest : List Char) :
    value fuel (newline outer ++ (prettyChars level v ++ rest)) =
      value fuel (prettyChars level v ++ rest) := by
  obtain ⟨c, cs, heq, hc, -⟩ := exists_prettyChars_eq level v hv
  rw [heq, List.cons_append]
  cases fuel with
  | zero => rfl
  | succ fuel => rw [value, value, skipBlanks_newline outer hc, skipBlanks_cons hc]

theorem value_blank (hv : isWordy v = true) (fuel level : Nat) (rest : List Char) :
    value fuel (' ' :: (prettyChars level v ++ rest)) =
      value fuel (prettyChars level v ++ rest) := by
  obtain ⟨c, cs, heq, hc, -⟩ := exists_prettyChars_eq level v hv
  rw [heq, List.cons_append]
  cases fuel with
  | zero => rfl
  | succ fuel =>
    have hskip : skipBlanks (' ' :: c :: (cs ++ rest)) = skipBlanks (c :: (cs ++ rest)) :=
      List.dropWhile_cons_of_pos rfl
    rw [value, value, hskip]

theorem value_quote (s : String) (rest : List Char) :
    value (fuel + 1) (quote s ++ rest) = some (.text s, rest) := by
  rw [quote_append, value, skipBlanks_cons (by decide)]
  dsimp only
  rw [if_pos rfl, string?_quote]

theorem value_digits {n : Nat} (h : n < wordLimit) (hrest : endsNumber rest = true) :
    value (fuel + 1) ((toString n).toList ++ rest) = some (.int n, rest) := by
  have hread := number?_toString hrest h
  obtain ⟨d, ds, hds, hblank, hother⟩ := exists_digits_eq n
  simp only [List.mem_cons, List.not_mem_nil, or_false, not_or] at hother
  rw [hds, List.cons_append] at hread ⊢
  rw [value, skipBlanks_cons hblank]
  simp only [hother, if_false]
  exact hread

/-- An item is read, and then what stands behind it. -/
theorem items_value {acc : List Value} {cs after : List Char}
    (h : value fuel cs = some (v, after)) :
    items (fuel + 1) acc cs =
      match skipBlanks after with
      | ',' :: after => items fuel (v :: acc) after
      | ']' :: after => some (.list (v :: acc).reverse, after)
      | _ => none := by
  rw [items]
  generalize value fuel cs = read at h ⊢
  subst h
  rfl

/-- A member is read, and then what stands behind it. -/
theorem members_value {acc : List (String × Value)} {n : String} {cs after : List Char}
    (h : value fuel cs = some (v, after)) (level : Nat) :
    members (fuel + 1) acc (newline level ++ (quote n ++ ':' :: cs)) =
      match skipBlanks after with
      | ',' :: after => members fuel ((n, v) :: acc) after
      | '\x7d' :: after => some (.map ((n, v) :: acc).reverse, after)
      | _ => none := by
  rw [members, quote_append, skipBlanks_newline level (by decide)]
  simp only [string?_quote, skipBlanks_cons (show isBlank ':' = false by decide)]
  generalize value fuel cs = read at h ⊢
  subst h
  rfl

end

/-! ## Lists and maps -/

/-- What stands behind an item. -/
def moreItems (level : Nat) : List Value → List Char
  | [] => []
  | v :: vs => ',' :: prettyItems level (v :: vs)

theorem prettyItems_cons (level : Nat) (v : Value) (vs : List Value) :
    prettyItems level (v :: vs) = newline level ++ (prettyChars level v ++ moreItems level vs) := by
  cases vs with
  | nil => rw [prettyItems, moreItems, List.append_nil]
  | cons w vs => rw [prettyItems, moreItems, List.append_assoc]; rintro ⟨⟩

/-- What stands behind a member. -/
def moreMembers (level : Nat) : List (String × Value) → List Char
  | [] => []
  | m :: ms => ',' :: prettyMembers level (m :: ms)

theorem prettyMembers_cons (level : Nat) (n : String) (v : Value) (ms : List (String × Value)) :
    prettyMembers level ((n, v) :: ms) =
      newline level ++
        (quote n ++ ':' :: ' ' :: (prettyChars level v ++ moreMembers level ms)) := by
  cases ms with
  | nil => rw [prettyMembers, moreMembers, List.append_nil, List.append_assoc]
  | cons m ms =>
    rw [prettyMembers, moreMembers, List.append_assoc, List.append_assoc]
    · rfl
    · rintro ⟨⟩

/-- A list with an item is read item by item. -/
theorem value_list {v : Value} (hv : isWordy v = true) (vs : List Value) (rest : List Char) :
    value (fuel + 1) ('[' :: (prettyItems level (v :: vs) ++ rest)) =
      items fuel [] (prettyItems level (v :: vs) ++ rest) := by
  obtain ⟨c, cs, hc, hblank, hend⟩ := exists_prettyChars_eq level v hv
  have hskip : ∃ more, skipBlanks (prettyItems level (v :: vs) ++ rest) = c :: more := by
    rw [prettyItems_cons, hc, List.append_assoc]
    exact ⟨_, skipBlanks_newline level hblank _⟩
  obtain ⟨more, hskip⟩ := hskip
  rw [value, skipBlanks_cons (by decide)]
  dsimp only
  rw [if_neg (by decide), if_pos rfl, hskip]
  split
  · next h => exact absurd (List.cons.inj h).1 hend
  · rfl

/-- A map with a member is read member by member. -/
theorem value_map (m : String × Value) (ms : List (String × Value)) (rest : List Char) :
    value (fuel + 1) ('\x7b' :: (prettyMembers level (m :: ms) ++ rest)) =
      members fuel [] (prettyMembers level (m :: ms) ++ rest) := by
  obtain ⟨n, v⟩ := m
  have hskip : ∃ more, skipBlanks (prettyMembers level ((n, v) :: ms) ++ rest) = '"' :: more := by
    rw [prettyMembers_cons, List.append_assoc, List.append_assoc, quote_append]
    exact ⟨_, skipBlanks_newline level (by decide) _⟩
  obtain ⟨more, hskip⟩ := hskip
  rw [value, skipBlanks_cons (by decide)]
  dsimp only
  rw [if_neg (by decide), if_neg (by decide), if_pos rfl, hskip]
  split
  · next h => cases (List.cons.inj h).1
  · rfl

theorem prettyChars_list (v : Value) (vs : List Value) :
    prettyChars level (.list (v :: vs)) ++ rest =
      '[' :: (prettyItems (level + 1) (v :: vs) ++ (newline level ++ ']' :: rest)) := by
  rw [prettyChars, List.append_assoc, List.append_assoc]
  rfl

theorem prettyChars_map (m : String × Value) (ms : List (String × Value)) :
    prettyChars level (.map (m :: ms)) ++ rest =
      '\x7b' :: (prettyMembers (level + 1) (m :: ms) ++ (newline level ++ '\x7d' :: rest)) := by
  rw [prettyChars, List.append_assoc, List.append_assoc]
  rfl

theorem endsNumber_moreItems (level outer : Nat) (vs : List Value) (rest : List Char) :
    endsNumber (moreItems level vs ++ (newline outer ++ ']' :: rest)) = true := by
  cases vs <;> rfl

theorem endsNumber_moreMembers (level outer : Nat) (ms : List (String × Value))
    (rest : List Char) :
    endsNumber (moreMembers level ms ++ (newline outer ++ '\x7d' :: rest)) = true := by
  cases ms <;> rfl

/-! Every call of the reader takes one of the fuel, and so does every step of
these proofs: the induction is on the fuel, which is no less than the text. -/

mutual

/-- **A value without other numbers than words is read back from its lines**,
and what follows them is left, if it does not go on with a number. -/
theorem value_prettyChars : ∀ (v : Value) (level fuel : Nat) (rest : List Char),
    isWordy v = true → endsNumber rest = true → (prettyChars level v).length ≤ fuel →
      value fuel (prettyChars level v ++ rest) = some (v, rest)
  | v, level, 0, rest, hv, _, hfuel => by
    have hpos := length_pos_prettyChars hv level
    omega
  | .null, level, fuel + 1, rest, _, _, _ => rfl
  | .bool true, level, fuel + 1, rest, _, _, _ => rfl
  | .bool false, level, fuel + 1, rest, _, _, _ => rfl
  | .int (.ofNat n), level, fuel + 1, rest, hn, hrest, _ =>
    value_digits (of_decide_eq_true hn) hrest
  | .text s, level, fuel + 1, rest, _, _, _ => value_quote s rest
  | .list [], level, fuel + 1, rest, _, _, _ => rfl
  | .map [], level, fuel + 1, rest, _, _, _ => rfl
  | .list (v :: vs), level, fuel + 1, rest, hvs, _, hfuel => by
    have hv : isWordy v = true := (Bool.and_eq_true _ _ ▸ hvs : _ ∧ _).1
    have hlength : (prettyItems (level + 1) (v :: vs)).length ≤ fuel := by
      rw [← List.append_nil (prettyChars _ _), prettyChars_list, List.length_cons,
        List.length_append] at hfuel
      omega
    rw [prettyChars_list, value_list hv,
      items_prettyItems v vs (level + 1) level fuel [] rest hvs hlength]
    rfl
  | .map ((n, v) :: ms), level, fuel + 1, rest, hms, _, hfuel => by
    have hlength : (prettyMembers (level + 1) ((n, v) :: ms)).length ≤ fuel := by
      rw [← List.append_nil (prettyChars _ _), prettyChars_map, List.length_cons,
        List.length_append] at hfuel
      omega
    rw [prettyChars_map, value_map,
      members_prettyMembers n v ms (level + 1) level fuel [] rest hms hlength]
    rfl
termination_by structural _ _ fuel => fuel

/-- The items of a list are read behind the earlier ones. -/
theorem items_prettyItems : ∀ (v : Value) (vs : List Value) (level outer fuel : Nat)
    (acc : List Value) (rest : List Char), wordyItems (v :: vs) = true →
      (prettyItems level (v :: vs)).length ≤ fuel →
        items fuel acc (prettyItems level (v :: vs) ++ (newline outer ++ ']' :: rest)) =
          some (.list (acc.reverse ++ v :: vs), rest)
  | v, vs, level, outer, 0, acc, rest, hvs, hfuel => by
    rw [prettyItems_cons] at hfuel
    exact absurd hfuel (Nat.not_succ_le_zero _)
  | v, vs, level, outer, fuel + 1, acc, rest, hvs, hfuel => by
    obtain ⟨hv, hvs⟩ : isWordy v = true ∧ wordyItems vs = true := Bool.and_eq_true _ _ ▸ hvs
    rw [prettyItems_cons, newline, List.cons_append, List.length_cons, List.length_append,
      List.length_append] at hfuel
    have hread := value_prettyChars v level fuel
      (moreItems level vs ++ (newline outer ++ ']' :: rest)) hv (endsNumber_moreItems ..) (by omega)
    rw [← value_newline hv fuel level level] at hread
    rw [prettyItems_cons, List.append_assoc, List.append_assoc, items_value hread]
    match vs with
    | [] =>
      rw [moreItems, List.nil_append, skipBlanks_newline outer (by decide), ← List.reverse_cons]
      rfl
    | w :: ws =>
      rw [moreItems, List.length_cons] at hfuel
      have hmore := items_prettyItems w ws level outer fuel (v :: acc) rest hvs (by omega)
      rw [List.reverse_cons, List.append_assoc, List.singleton_append] at hmore
      rw [moreItems, List.cons_append, skipBlanks_cons (by decide)]
      exact hmore
termination_by structural _ _ _ _ fuel => fuel

/-- The members of a map are read behind the earlier ones. -/
theorem members_prettyMembers : ∀ (n : String) (v : Value) (ms : List (String × Value))
    (level outer fuel : Nat) (acc : List (String × Value)) (rest : List Char),
      wordyMembers ((n, v) :: ms) = true →
        (prettyMembers level ((n, v) :: ms)).length ≤ fuel →
        members fuel acc
            (prettyMembers level ((n, v) :: ms) ++ (newline outer ++ '\x7d' :: rest)) =
          some (.map (acc.reverse ++ (n, v) :: ms), rest)
  | n, v, ms, level, outer, 0, acc, rest, hms, hfuel => by
    rw [prettyMembers_cons] at hfuel
    exact absurd hfuel (Nat.not_succ_le_zero _)
  | n, v, ms, level, outer, fuel + 1, acc, rest, hms, hfuel => by
    obtain ⟨hv, hms⟩ : isWordy v = true ∧ wordyMembers ms = true := Bool.and_eq_true _ _ ▸ hms
    rw [prettyMembers_cons, newline, List.cons_append, List.length_cons, List.length_append,
      List.length_append, List.length_cons, List.length_cons, List.length_append] at hfuel
    have hread := value_prettyChars v level fuel
      (moreMembers level ms ++ (newline outer ++ '\x7d' :: rest)) hv (endsNumber_moreMembers ..)
      (by omega)
    rw [← value_blank hv fuel level] at hread
    rw [prettyMembers_cons, List.append_assoc, List.append_assoc, List.cons_append,
      List.cons_append, List.append_assoc, members_value hread]
    match ms with
    | [] =>
      rw [moreMembers, List.nil_append, skipBlanks_newline outer (by decide), ← List.reverse_cons]
      rfl
    | (o, w) :: ms =>
      rw [moreMembers, List.length_cons] at hfuel
      have hmore :=
        members_prettyMembers o w ms level outer fuel ((n, v) :: acc) rest hms (by omega)
      rw [List.reverse_cons, List.append_assoc, List.singleton_append] at hmore
      rw [moreMembers, List.cons_append, skipBlanks_cons (by decide)]
      exact hmore
termination_by structural _ _ _ _ _ fuel => fuel

end

/-- **A value without other numbers than words is read back from its text.** -/
theorem parse?_pretty {v : Value} (hv : isWordy v = true) : parse? (pretty v) = some v := by
  have hread := value_prettyChars v 0 (2 * (prettyChars 0 v).length + 2) [] hv rfl (by omega)
  rw [List.append_nil] at hread
  rw [parse?, pretty, String.toList_ofList, hread]
  rfl

end Json
end CodeDesk
