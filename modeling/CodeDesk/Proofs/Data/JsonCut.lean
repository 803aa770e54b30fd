import CodeDesk.Proofs.Data.Json
/-!
# JSON that is cut short is not read

The reader looks at no more than one character behind what it reads: whatever
follows that one, it reads the same (`string?_append`, `number?_append`,
`value_append`), and only a number needs to see it. So if the beginning of a
text is read as a value with an end of its own, the whole text is read as this
value, and what is left of the text is left. The text of a map is read with
nothing left. What is there of it when it is cut short is therefore not read
(`parse?_cut`).
-/

namespace CodeDesk
namespace Json

variable {fuel : Nat} {cs rest more : List Char} {c : Char} {v : Value}

/-! ## Strings -/

theorem skipBlanks_append (h : skipBlanks cs = c :: rest) (more : List Char) :
    skipBlanks (cs ++ more) = c :: (rest ++ more) := by
  induction cs with
  | nil => cases h
  | cons b cs ih =>
    rw [List.cons_append, skipBlanks, List.dropWhile_cons]
    rw [skipBlanks, List.dropWhile_cons] at h
    split at h
    · next hb =>
      rw [if_pos hb]
      exact ih h
    · next hb =>
      rw [if_neg hb]
      obtain ⟨rfl, rfl⟩ := List.cons.inj h
      rfl

theorem hex4?_append {n : Nat} (h : hex4? cs = some (n, rest)) (more : List Char) :
    hex4? (cs ++ more) = some (n, rest ++ more) := by
  unfold hex4? at h
  split at h
  · next a b c d cs =>
    split at h
    · next ha hb hc hd =>
      cases h
      simp only [List.cons_append, hex4?, ha, hb, hc, hd]
    · cases h
  · cases h

/-- The second half of a surrogate pair is missing behind a text only if it is
missing in it. -/
theorem ne_escape_append {acc : Option (List Char)} {r : Option String × List Char}
    (hno : ∀ low, cs ≠ '\\' :: 'u' :: low) (h : stringBody fuel acc cs = some r)
    (more low : List Char) : cs ++ more ≠ '\\' :: 'u' :: low := by
  cases fuel with
  | zero => cases h
  | succ fuel =>
    match cs with
    | [] => cases h
    | [c] =>
      rintro heq
      rw [List.singleton_append] at heq
      rw [(List.cons.inj heq).1] at h
      cases h
    | c :: c' :: cs =>
      intro heq
      rw [List.cons_append, List.cons_append, List.cons.injEq, List.cons.injEq] at heq
      exact hno cs (by rw [heq.1, heq.2.1])

theorem stringBody_append {acc : Option (List Char)} {r : Option String} (k : Nat)
    (h : stringBody fuel acc cs = some (r, rest)) (more : List Char) :
    stringBody (fuel + k) acc (cs ++ more) = some (r, rest ++ more) := by
  fun_induction stringBody fuel acc cs with
  | case1 | case2 | case4 | case5 | case6 | case13 | case14 => cases h
  | case3 =>
    cases h
    rw [Nat.succ_add]
    rfl
  | case7 fuel acc digits n hhigh low m after hsecond hlow code hq hb hfirst ih =>
    rw [Nat.succ_add, List.cons_append, List.cons_append, stringBody.eq_def]
    simp only [hq, hb, if_false, if_true, hex4?_append hfirst more, hhigh, List.cons_append,
      hex4?_append hsecond more, hlow]
    exact ih h
  | case8 fuel acc digits n hhigh low m after hsecond hlow hq hb hfirst ih =>
    rw [Nat.succ_add, List.cons_append, List.cons_append, stringBody.eq_def]
    simp only [hq, hb, if_false, if_true, hex4?_append hfirst more, hhigh, List.cons_append,
      hex4?_append hsecond more, hlow]
    exact ih h
  | case9 fuel acc digits n after hhex hhigh hno hq hb ih =>
    rw [Nat.succ_add, List.cons_append, List.cons_append, stringBody.eq_def]
    simp only [hq, hb, if_false, if_true, hex4?_append hhex more, hhigh]
    split
    · next low heq => exact absurd heq (ne_escape_append hno h more low)
    · exact ih h
  | case10 fuel acc digits n after hhex hhigh hlow hq hb ih =>
    rw [Nat.succ_add, List.cons_append, List.cons_append, stringBody.eq_def]
    simp only [hq, hb, if_false, if_true, hex4?_append hhex more, hhigh, hlow]
    exact ih h
  | case11 fuel acc digits n after hhex hhigh hlow hq hb ih =>
    rw [Nat.succ_add, List.cons_append, List.cons_append, stringBody.eq_def]
    simp only [hq, hb, if_false, if_true, hex4?_append hhex more, hhigh, hlow]
    exact ih h
  | case12 fuel acc e tail he ch hsimple hq hb ih =>
    rw [Nat.succ_add, List.cons_append, List.cons_append, stringBody.eq_def]
    simp only [hq, hb, if_false, if_true, hsimple]
    exact ih h
  | case15 fuel acc c tail hquote hlow hbackslash ih =>
    rw [Nat.succ_add, List.cons_append, stringBody.eq_def]
    simp only [hquote, hlow, hbackslash, if_false]
    exact ih h

theorem string?_append {r : Option String} (h : string? cs = some (r, rest)) (more : List Char) :
    string? (cs ++ more) = some (r, rest ++ more) := by
  have hread := stringBody_append more.length h more
  rwa [Nat.add_right_comm, ← List.length_append] at hread

/-! ## Numbers -/

/-- Digits are the same digits if something else follows them. -/
theorem digits_of_behind (cs : List Char) (hne : cs.dropWhile isDigit ≠ []) (more : List Char) :
    (cs ++ more).takeWhile isDigit = cs.takeWhile isDigit ∧
      (cs ++ more).dropWhile isDigit = cs.dropWhile isDigit ++ more := by
  induction cs with
  | nil => exact absurd rfl hne
  | cons c cs ih =>
    rw [List.dropWhile_cons] at hne
    rw [List.cons_append, List.takeWhile_cons, List.dropWhile_cons, List.takeWhile_cons,
      List.dropWhile_cons]
    cases hc : isDigit c with
    | true =>
      rw [hc, if_pos rfl] at hne
      obtain ⟨htake, hdrop⟩ := ih hne
      exact ⟨by rw [if_pos rfl, if_pos rfl, htake], by rw [if_pos rfl, if_pos rfl, hdrop]⟩
    | false => exact ⟨rfl, rfl⟩

theorem wholePart?_append {ds : List Char} (h : wholePart? cs = some (ds, rest)) (hne : rest ≠ [])
    (more : List Char) : wholePart? (cs ++ more) = some (ds, rest ++ more) := by
  unfold wholePart? at h
  split at h
  · split at h
    · next d cs =>
      split at h
      · cases h
      · next hd =>
        cases h
        simp only [List.cons_append, wholePart?, hd, Bool.false_eq_true, if_false]
    · cases h
      exact absurd rfl hne
  · next hzero =>
    have hkept : ∀ tail, cs ++ more ≠ '0' :: tail := by
      cases cs with
      | nil => cases h
      | cons c cs =>
        rintro tail heq
        exact hzero cs (by rw [(List.cons.inj heq).1])
    extract_lets ds at h
    split at h
    · cases h
    · next hsome =>
      obtain ⟨rfl, rfl⟩ := Prod.mk.inj (Option.some.inj h)
      obtain ⟨htake, hdrop⟩ := digits_of_behind cs hne more
      unfold wholePart?
      split
      · next heq => exact absurd heq (hkept _)
      · rw [htake, hdrop, if_neg hsome]

theorem fraction?_append {ds : Option (List Char)} (h : fraction? cs = some (ds, rest))
    (hne : rest ≠ []) (more : List Char) : fraction? (cs ++ more) = some (ds, rest ++ more) := by
  unfold fraction? at h
  split at h
  · next cs =>
    extract_lets ds at h
    split at h
    · cases h
    · next hsome =>
      cases h
      obtain ⟨htake, hdrop⟩ := digits_of_behind cs hne more
      rw [List.cons_append, fraction?]
      rw [htake, hdrop, if_neg hsome]
  · next hpoint =>
    cases h
    unfold fraction?
    split
    · next heq =>
      cases cs with
      | nil => exact absurd rfl hne
      | cons c cs => exact absurd (by rw [(List.cons.inj heq).1]) (hpoint cs)
    · rfl

theorem exponent?_append {power : Option Int} (h : exponent? cs = some (power, rest))
    (hne : rest ≠ []) (more : List Char) : exponent? (cs ++ more) = some (power, rest ++ more) := by
  fun_cases exponent? cs with
  | case1 e tail hmark negative body hsign ds hnone =>
    simp only [exponent?, hmark, if_true, hsign] at h
    rw [if_pos hnone] at h
    cases h
  | case2 e tail hmark negative body hsign ds hsome n =>
    simp only [exponent?, hmark, if_true, hsign] at h
    rw [if_neg hsome] at h
    cases h
    obtain ⟨htake, hdrop⟩ := digits_of_behind body hne more
    split at hsign
    · cases hsign
      simp only [List.cons_append, exponent?, hmark, if_true, htake, hdrop]
      rw [if_neg hsome]
    · cases hsign
      simp only [List.cons_append, exponent?, hmark, if_true, htake, hdrop]
      rw [if_neg hsome]
    · next hminus hplus =>
      cases hsign
      cases tail with
      | nil => exact absurd rfl hsome
      | cons c tail =>
        rw [List.cons_append] at htake hdrop
        rw [List.cons_append, List.cons_append, exponent?.eq_def]
        dsimp only
        rw [if_pos hmark]
        split
        · next heq => exact absurd (by rw [(List.cons.inj heq).1]) (hminus tail)
        · next heq => exact absurd (by rw [(List.cons.inj heq).1]) (hplus tail)
        · dsimp only
          rw [htake, hdrop, if_neg hsome]
  | case3 e tail hmark =>
    rw [exponent?.eq_def] at h
    dsimp only at h
    rw [if_neg hmark] at h
    cases h
    rw [List.cons_append, exponent?.eq_def]
    dsimp only
    rw [if_neg hmark]
  | case4 =>
    cases h
    exact absurd rfl hne

/-- The sign of a number, if it has one, and what follows it. -/
inductive Signed : List Char → Bool → List Char → Prop where
  /-- A number with a minus. -/
  | minus (body : List Char) : Signed ('-' :: body) true body
  /-- A number without one. -/
  | none {c : Char} (h : c ≠ '-') (cs : List Char) : Signed (c :: cs) false (c :: cs)

theorem Signed.append {negative : Bool} {body : List Char} (h : Signed cs negative body)
    (more : List Char) : Signed (cs ++ more) negative (body ++ more) := by
  cases h with
  | minus body => exact .minus (body ++ more)
  | none h cs => exact .none h (cs ++ more)

/-- A number has a sign or none, a whole part, and then perhaps a fraction and a
power of ten. -/
theorem number?_eq_some_iff : number? cs = some (v, rest) ↔
    ∃ negative body whole fraction power cs₁ cs₂, Signed cs negative body ∧
      wholePart? body = some (whole, cs₁) ∧ fraction? cs₁ = some (fraction, cs₂) ∧
      exponent? cs₂ = some (power, rest) ∧ v = numberValue negative whole fraction power := by
  constructor
  · intro h
    fun_cases number? cs with
    | case1 negative body hsign hwhole =>
      simp only [number?, hsign, hwhole] at h
      cases h
    | case2 negative body hsign whole cs₁ hwhole hfraction =>
      simp only [number?, hsign, hwhole, hfraction] at h
      cases h
    | case3 negative body hsign whole cs₁ hwhole fraction cs₂ hfraction hpower =>
      simp only [number?, hsign, hwhole, hfraction, hpower] at h
      cases h
    | case4 negative body hsign whole cs₁ hwhole fraction cs₂ hfraction power cs₃ hpower =>
      simp only [number?, hsign, hwhole, hfraction, hpower] at h
      cases h
      refine ⟨negative, body, whole, fraction, power, cs₁, cs₂, ?_, hwhole, hfraction, hpower, rfl⟩
      split at hsign
      · cases hsign
        exact .minus body
      · next hminus =>
        cases hsign
        cases cs with
        | nil => cases hwhole
        | cons c cs => exact .none (fun hc => hminus cs (by rw [hc])) cs
  · rintro ⟨negative, body, whole, fraction, power, cs₁, cs₂, hsign, hwhole, hfraction, hpower, rfl⟩
    cases hsign with
    | minus => simp only [number?, hwhole, hfraction, hpower]
    | none h cs =>
      simp only [number?, List.cons.injEq, h, false_and, imp_false, not_false_eq_true,
        implies_true, hwhole, hfraction, hpower]

/-- **A number is the same number** whatever follows the character behind
it. -/
theorem number?_append (h : number? cs = some (v, rest)) (hne : rest ≠ []) (more : List Char) :
    number? (cs ++ more) = some (v, rest ++ more) := by
  obtain ⟨negative, body, whole, fraction, power, cs₁, cs₂, hsign, hwhole, hfraction, hpower, hv⟩ :=
    number?_eq_some_iff.1 h
  have hcs₂ : cs₂ ≠ [] := by
    rintro rfl
    cases hpower
    exact hne rfl
  have hcs₁ : cs₁ ≠ [] := by
    rintro rfl
    cases hfraction
    exact hcs₂ rfl
  exact number?_eq_some_iff.2 ⟨negative, body ++ more, whole, fraction, power, cs₁ ++ more,
    cs₂ ++ more, hsign.append more, wholePart?_append hwhole hcs₁ more,
    fraction?_append hfraction hcs₂ more, exponent?_append hpower hne more, hv⟩

theorem ne_map_of_number? (h : number? cs = some (v, rest)) (ms : List (String × Value)) :
    v ≠ .map ms := by
  obtain ⟨negative, -, whole, fraction, power, -, -, -, -, -, -, rfl⟩ := number?_eq_some_iff.1 h
  have hfloat : ∀ x : Float, (if x.isFinite then Value.float x else .unreadable) ≠ .map ms := by
    intro x
    split <;> nofun
  unfold numberValue
  extract_lets asFloat
  split
  · repeat' split
    all_goals first | exact hfloat _ | nofun
  · exact hfloat _

/-! ## Values -/

theorem ne_nil_of_skipBlanks (h : skipBlanks cs = c :: rest) : cs ≠ [] := by
  rintro rfl
  cases h

/-- What does not close a list or a map does not do so with something behind
it. -/
theorem skipBlanks_append_ne (hne : skipBlanks cs ≠ []) (hopen : ∀ after, skipBlanks cs ≠ c :: after)
    (more after : List Char) : skipBlanks (cs ++ more) ≠ c :: after := by
  obtain ⟨b, behind, hb⟩ := List.exists_cons_of_ne_nil hne
  rw [skipBlanks_append hb more]
  intro heq
  exact hopen behind (by rw [hb, (List.cons.inj heq).1])

theorem value_eq_none_of_blank (h : skipBlanks cs = []) : value fuel cs = none := by
  cases fuel with
  | zero => rfl
  | succ fuel => rw [value, h]

theorem items_eq_none_of_blank {acc : List Value} (h : skipBlanks cs = []) :
    items fuel acc cs = none := by
  cases fuel with
  | zero => rfl
  | succ fuel => rw [items, value_eq_none_of_blank h]

theorem members_eq_none_of_blank {acc : List (String × Value)} (h : skipBlanks cs = []) :
    members fuel acc cs = none := by
  cases fuel with
  | zero => rfl
  | succ fuel => rw [members, h]

theorem word_append {lead : List Char} {w : Value}
    (h : (dropLead? lead cs).map (fun after => (w, after)) = some (v, rest)) (more : List Char) :
    (dropLead? lead (cs ++ more)).map (fun after => (w, after)) = some (v, rest ++ more) := by
  obtain ⟨_, hlead, heq⟩ := Option.map_eq_some_iff.1 h
  cases heq
  have hmore : dropLead? lead (cs ++ more) = some (rest ++ more) := by
    rw [dropLead?_eq_some_iff, dropLead?_eq_some_iff.1 hlead, List.append_assoc]
  rw [hmore]
  rfl

mutual

/-- **A value is the same value** whatever follows the character behind it. A
map has its own end. -/
theorem value_append : ∀ (fuel k : Nat) (cs : List Char) (v : Value) (rest more : List Char),
    value fuel cs = some (v, rest) → (rest ≠ [] ∨ ∃ ms, v = .map ms) →
      value (fuel + k) (cs ++ more) = some (v, rest ++ more)
  | 0, _, _, _, _, _, h, _ => by cases h
  | fuel + 1, k, cs, v, rest, more, h, hend => by
    cases hskip : skipBlanks cs with
    | nil =>
      rw [value_eq_none_of_blank hskip] at h
      cases h
    | cons c tail =>
      rw [value, hskip] at h
      rw [Nat.succ_add, value, skipBlanks_append hskip more]
      dsimp only at h ⊢
      split at h
      · next hquote =>
        rw [if_pos hquote]
        split at h
        · cases h
        · next hread =>
          cases h
          rw [string?_append hread more]
        · next hread =>
          cases h
          rw [string?_append hread more]
      next hquote =>
      rw [if_neg hquote]
      split at h
      · next hlist =>
        rw [if_pos hlist]
        split at h
        · next hclose =>
          cases h
          rw [skipBlanks_append hclose more]
          rfl
        · next hopen =>
          have htail : skipBlanks tail ≠ [] := fun hblank => by
            rw [items_eq_none_of_blank hblank] at h
            cases h
          split
          · next heq => exact absurd heq (skipBlanks_append_ne htail hopen more _)
          · exact items_append fuel k [] tail v rest more h
      next hlist =>
      rw [if_neg hlist]
      split at h
      · next hmap =>
        rw [if_pos hmap]
        split at h
        · next hclose =>
          cases h
          rw [skipBlanks_append hclose more]
          rfl
        · next hopen =>
          have htail : skipBlanks tail ≠ [] := fun hblank => by
            rw [members_eq_none_of_blank hblank] at h
            cases h
          split
          · next heq => exact absurd heq (skipBlanks_append_ne htail hopen more _)
          · exact members_append fuel k [] tail v rest more h
      next hmap =>
      rw [if_neg hmap]
      split at h
      · next hword => rw [if_pos hword, word_append h more]
      next hnull =>
      rw [if_neg hnull]
      split at h
      · next hword => rw [if_pos hword, word_append h more]
      next htrue =>
      rw [if_neg htrue]
      split at h
      · next hword => rw [if_pos hword, word_append h more]
      next hfalse =>
      rw [if_neg hfalse]
      refine number?_append h ?_ more
      rcases hend with hne | ⟨ms, rfl⟩
      · exact hne
      · exact absurd rfl (ne_map_of_number? h ms)
termination_by structural fuel => fuel

theorem items_append : ∀ (fuel k : Nat) (acc : List Value) (cs : List Char) (v : Value)
    (rest more : List Char), items fuel acc cs = some (v, rest) →
      items (fuel + k) acc (cs ++ more) = some (v, rest ++ more)
  | 0, _, _, _, _, _, _, h => by cases h
  | fuel + 1, k, acc, cs, v, rest, more, h => by
    rw [items] at h
    split at h
    · cases h
    · next w after hread =>
      have hmore : ∀ {b tail}, skipBlanks after = b :: tail →
          value (fuel + k) (cs ++ more) = some (w, after ++ more) := fun hskip =>
        value_append fuel k cs w after more hread (.inl (ne_nil_of_skipBlanks hskip))
      split at h
      · next tail hskip =>
        rw [Nat.succ_add, items_value (hmore hskip), skipBlanks_append hskip more]
        exact items_append fuel k (w :: acc) tail v rest more h
      · next tail hskip =>
        cases h
        rw [Nat.succ_add, items_value (hmore hskip), skipBlanks_append hskip more]
        rfl
      · cases h
termination_by structural fuel => fuel

theorem members_append : ∀ (fuel k : Nat) (acc : List (String × Value)) (cs : List Char)
    (v : Value) (rest more : List Char), members fuel acc cs = some (v, rest) →
      members (fuel + k) acc (cs ++ more) = some (v, rest ++ more)
  | 0, _, _, _, _, _, _, h => by cases h
  | fuel + 1, k, acc, cs, v, rest, more, h => by
    rw [members] at h
    split at h
    · next tail hskip =>
      split at h
      · next name behind hname =>
        split at h
        · next body hcolon =>
          split at h
          · cases h
          · next w after hread =>
            have hmore : ∀ {b tail}, skipBlanks after = b :: tail →
                value (fuel + k) (body ++ more) = some (w, after ++ more) := fun hskip =>
              value_append fuel k body w after more hread (.inl (ne_nil_of_skipBlanks hskip))
            rw [Nat.succ_add, members]
            split at h
            · next next' hcomma =>
              simp only [skipBlanks_append hskip more, string?_append hname more,
                skipBlanks_append hcolon more, hmore hcomma, skipBlanks_append hcomma more]
              exact members_append fuel k ((name, w) :: acc) next' v rest more h
            · next next' hclose =>
              cases h
              simp only [skipBlanks_append hskip more, string?_append hname more,
                skipBlanks_append hcolon more, hmore hclose, skipBlanks_append hclose more]
            · cases h
        · cases h
      · cases h
    · cases h
termination_by structural fuel => fuel

end

/-! ## Documents -/

theorem exists_map_of_members {acc : List (String × Value)}
    (h : members fuel acc cs = some (v, rest)) : ∃ ms, v = .map ms := by
  induction fuel generalizing acc cs with
  | zero => cases h
  | succ fuel ih =>
    rw [members] at h
    repeat' split at h
    all_goals first
      | exact ih h
      | exact ⟨_, (Prod.mk.inj (Option.some.inj h)).1.symm⟩
      | cases h

/-- What starts like a map is read as one. -/
theorem exists_map_of_value (hcs : skipBlanks cs = '\x7b' :: more)
    (h : value fuel cs = some (v, rest)) : ∃ ms, v = .map ms := by
  cases fuel with
  | zero => cases h
  | succ fuel =>
    rw [value, hcs] at h
    dsimp only at h
    rw [if_neg (by decide), if_neg (by decide), if_pos rfl] at h
    split at h
    · exact ⟨[], (Prod.mk.inj (Option.some.inj h)).1.symm⟩
    · exact exists_map_of_members h

/-- **A map whose text is cut short is not read**, wherever it is cut. -/
theorem parse?_cut {ms : List (String × Value)} (hms : isWordy (.map ms) = true)
    (htext : (pretty (.map ms)).toList = cs ++ more) (hmore : more ≠ []) :
    parse? (String.ofList cs) = none := by
  rw [pretty, String.toList_ofList] at htext
  obtain ⟨body, hbody⟩ : ∃ body, prettyChars 0 (.map ms) = '\x7b' :: body := by
    cases ms with
    | nil => exact ⟨_, rfl⟩
    | cons m ms => exact ⟨_, rfl⟩
  rw [parse?, String.toList_ofList]
  split
  · rfl
  · next w rest hread =>
    have hmap : ∃ ns, w = .map ns := by
      cases cs with
      | nil => cases hread
      | cons c cs =>
        rw [hbody, List.cons_append] at htext
        rw [← (List.cons.inj htext).1] at hread
        exact exists_map_of_value (skipBlanks_cons (by decide) cs) hread
    -- The whole text would be read as this map, and something would be left.
    have hwhole := value_append _ (2 * more.length) cs w rest more hread (.inr hmap)
    have hfull := value_prettyChars (.map ms) 0 (2 * cs.length + 2 + 2 * more.length) [] hms rfl
      (by rw [htext, List.length_append]; omega)
    rw [List.append_nil, htext, hwhole] at hfull
    have hnil := (Prod.mk.inj (Option.some.inj hfull)).2
    exact absurd (List.append_eq_nil_iff.1 hnil).2 hmore

end Json
end CodeDesk
