import CodeDesk.Regex.Search
import Mathlib.Order.Nat
/-!
# Frame — how the parts of a program hang together

An expression is placed between its entry and the instruction that follows
it, and leads nowhere else (`Expr.places`). The frame around the
whole expression therefore shows from outside (`framed_compile?`): a match
is complete only behind the instruction that remembers its end, and its
start is remembered at the entry, to which no thread ever returns.
-/

namespace CodeDesk
namespace Regex

/-! ## Placing an expression -/

/-- The instructions that an instruction leads to. -/
def Instruction.targets : Instruction → List Nat
  | .char _ next => [next]
  | .look _ next => [next]
  | .fork first second => [first, second]
  | .save _ next => [next]
  | .done => []

/-- An instruction of a part of an expression, which leaves the whole match
to the frame. Conditions on the place are there if `looks`. -/
def Instruction.Inner (looks : Bool) : Instruction → Prop
  | .done => False
  | .save slot _ => 2 ≤ slot
  | .look _ _ => looks = true
  | _ => True

/-- An instruction that is `next` or was placed between the two codes. -/
def Between (next : Nat) (code code' : Code) (q : Nat) : Prop :=
  q = next ∨ (code.size ≤ q ∧ q < code'.size)

/-- Instructions were added to a code. They lead to each other and to
`next`. -/
structure Extends (looks : Bool) (next : Nat) (code code' : Code) : Prop where
  /-- No instruction is taken away. -/
  le : code.size ≤ code'.size
  /-- The instructions that were there stay as they are. -/
  kept : ∀ q < code.size, code'[q]? = code[q]?
  /-- The others belong to the expression. -/
  inner : ∀ q, code.size ≤ q → ∀ c, code'[q]? = some c → c.Inner looks
  /-- They lead nowhere else. -/
  closed : ∀ q, code.size ≤ q → ∀ c, code'[q]? = some c →
    ∀ t ∈ c.targets, Between next code code' t

section Placing

variable {looks : Bool} {next next' q : Nat} {code code' code'' : Code} {c : Instruction}
  {body : Nat → Code → Nat × Code} {out out' : Nat × Code}

/-- An instruction of a code is numbered below its size. -/
theorem lt_of_getElem? (h : code[q]? = some c) : q < code.size :=
  (Array.getElem?_eq_some_iff.1 h).1

theorem Between.mono (h : Between next code code' q) (hle : code'.size ≤ code''.size) :
    Between next code code'' q :=
  h.imp_right fun hin => ⟨hin.1, hin.2.trans_le hle⟩

/-- What is between two codes stays so where more room is given to it. -/
theorem Between.widen (h : Between next' code' code'' q) (hnext : Between next code code'' next')
    (hle : code.size ≤ code'.size) : Between next code code'' q := by
  rcases h with rfl | ⟨hlow, hhigh⟩
  · exact hnext
  · exact .inr ⟨hle.trans hlow, hhigh⟩

theorem Extends.refl (looks : Bool) (next : Nat) (code : Code) :
    Extends looks next code code where
  le := Nat.le_refl _
  kept := fun _ _ => rfl
  inner := fun _ hq _ hc => absurd (lt_of_getElem? hc) (Nat.not_lt_of_le hq)
  closed := fun _ hq _ hc => absurd (lt_of_getElem? hc) (Nat.not_lt_of_le hq)

/-- **One expression in front of another one.** -/
theorem Extends.trans (h : Extends looks next code code') (h' : Extends looks next' code' code'')
    (hnext : Between next code code' next') : Extends looks next code code'' where
  le := h.le.trans h'.le
  kept := fun q hq => (h'.kept q (hq.trans_le h.le)).trans (h.kept q hq)
  inner := by
    intro q hq c hc
    rcases Nat.lt_or_ge q code'.size with hlt | hge
    · exact h.inner q hq c ((h'.kept q hlt).symm.trans hc)
    · exact h'.inner q hge c hc
  closed := by
    intro q hq c hc t ht
    rcases Nat.lt_or_ge q code'.size with hlt | hge
    · exact (h.closed q hq c ((h'.kept q hlt).symm.trans hc) t ht).mono h'.le
    · exact (h'.closed q hge c hc t ht).widen (hnext.mono h'.le) h.le

theorem Extends.push (h : Extends looks next code code') (hinner : c.Inner looks)
    (htargets : ∀ t ∈ c.targets, Between next code code' t) :
    Extends looks next code (code'.push c) := by
  have hsize : (code'.push c).size = code'.size + 1 := Array.size_push _
  have hle := h.le
  -- the new instruction is the last one, and the others are where they were
  have hlookup : ∀ q d, (code'.push c)[q]? = some d →
      (q = code'.size ∧ d = c) ∨ code'[q]? = some d := by
    intro q d hd
    rw [Array.getElem?_push] at hd
    split at hd
    · next hq =>
      cases hd
      exact .inl ⟨hq, rfl⟩
    · exact .inr hd
  refine ⟨by omega, fun q hq => ?_, fun q hq d hd => ?_, fun q hq d hd t ht => ?_⟩
  · have hne : q ≠ code'.size := by omega
    rw [Array.getElem?_push, if_neg hne]
    exact h.kept q hq
  · rcases hlookup q d hd with ⟨-, rfl⟩ | hd
    · exact hinner
    · exact h.inner q hq d hd
  · rcases hlookup q d hd with ⟨-, rfl⟩ | hd
    · exact (htargets t ht).mono (by omega)
    · exact (h.closed q hq d hd t ht).mono (by omega)

/-- **A loop**: an instruction whose place was kept free leads into what was
placed behind it. -/
theorem Extends.loop (h : Extends looks code.size (code.push .done) code') (hinner : c.Inner looks)
    (htargets : ∀ t ∈ c.targets, Between next code code' t) :
    Extends looks next code (code'.setIfInBounds code.size c) := by
  have hsize : (code.push .done).size = code.size + 1 := Array.size_push _
  have hset : (code'.setIfInBounds code.size c).size = code'.size := Array.size_setIfInBounds
  have hle := h.le
  have hlt : code.size < code'.size := by omega
  -- the loop is where it was kept free, and its body is behind it
  have hlookup : ∀ q d, code.size ≤ q → (code'.setIfInBounds code.size c)[q]? = some d →
      d = c ∨ ((code.push .done).size ≤ q ∧ code'[q]? = some d) := by
    intro q d hq hd
    rcases Nat.eq_or_lt_of_le hq with rfl | hbehind
    · rw [Array.getElem?_setIfInBounds_self_of_lt hlt] at hd
      exact .inl (Option.some.inj hd).symm
    · rw [Array.getElem?_setIfInBounds_ne hbehind.ne] at hd
      exact .inr ⟨by omega, hd⟩
  refine ⟨by omega, fun q hq => ?_, fun q hq d hd => ?_, fun q hq d hd t ht => ?_⟩
  · have hne : q ≠ code.size := by omega
    rw [Array.getElem?_setIfInBounds_ne hne.symm, h.kept q (by omega), Array.getElem?_push,
      if_neg hne]
  · rcases hlookup q d hq hd with rfl | ⟨hbody, hd⟩
    · exact hinner
    · exact h.inner q hbody d hd
  · rcases hlookup q d hq hd with rfl | ⟨hbody, hd⟩
    · exact (htargets t ht).mono (by omega)
    · -- the body leads back to the loop, which is in the range
      have hback : Between next code (code'.setIfInBounds code.size c) code.size :=
        .inr ⟨Nat.le_refl _, by omega⟩
      exact ((h.closed q hbody d hd t ht).mono (by omega)).widen hback (by omega)

/-- An entry and a code that an expression in front of `next` leads to. -/
structure Placed (looks : Bool) (next : Nat) (code : Code) (out : Nat × Code) : Prop where
  /-- Instructions were added. -/
  added : Extends looks next code out.2
  /-- The entry is among them, unless the expression has none. -/
  entry : Between next code out.2 out.1

/-- What is placed in front of `next` is an expression. -/
def Places (looks : Bool) (body : Nat → Code → Nat × Code) : Prop :=
  ∀ next code, Placed looks next code (body next code)

/-- Nothing in front of `next`. -/
theorem Placed.refl (looks : Bool) (next : Nat) (code : Code) :
    Placed looks next code (next, code) :=
  ⟨.refl looks next code, .inl rfl⟩

/-- **One expression in front of another one.** -/
theorem Placed.trans (h : Placed looks next code out) (h' : Placed looks out.1 out.2 out') :
    Placed looks next code out' :=
  ⟨h.added.trans h'.added h.entry, h'.entry.widen (h.entry.mono h'.added.le) h.added.le⟩

/-- An instruction in front of what was added, which is the entry then. -/
theorem Extends.placed_push (h : Extends looks next code code') (hinner : c.Inner looks)
    (htargets : ∀ t ∈ c.targets, Between next code code' t) :
    Placed looks next code (code'.size, code'.push c) := by
  refine ⟨h.push hinner htargets, .inr ⟨h.le, ?_⟩⟩
  show code'.size < (code'.push c).size
  rw [Array.size_push]
  omega

theorem inner_branch (looks greedy : Bool) (a b : Nat) : (branch greedy a b).Inner looks := by
  cases greedy <;> trivial

theorem targets_branch {greedy : Bool} {a b : Nat} {P : Nat → Prop} (ha : P a) (hb : P b) :
    ∀ t ∈ (branch greedy a b).targets, P t := by
  cases greedy <;> simp [branch, Instruction.targets, ha, hb]

theorem Places.copies (h : Places looks body) (n : Nat) : Places looks (Regex.copies body n) := by
  intro next code
  induction n with
  | zero => exact .refl looks next code
  | succ n ih => exact ih.trans (h _ _)

theorem Places.optionalCopies (h : Places looks body) (greedy : Bool) (n next : Nat)
    (code : Code) : Placed looks next code (Regex.optionalCopies body greedy next n code) := by
  induction n with
  | zero => exact .refl looks next code
  | succ n ih =>
    have hboth := ih.trans (h _ _)
    exact hboth.added.placed_push (inner_branch _ _ _ _) (targets_branch hboth.entry (.inl rfl))

/-- The entry of the body of a loop is between. -/
theorem Places.entry (h : Places looks body) (next : Nat) (code : Code) :
    Between next code (body code.size (code.push .done)).2
      (body code.size (code.push .done)).1 := by
  obtain ⟨hbody, hentry⟩ := h code.size (code.push .done)
  have hsize : (code.push .done).size = code.size + 1 := Array.size_push _
  have hle := hbody.le
  exact hentry.widen (.inr ⟨Nat.le_refl _, by omega⟩) (by omega)

theorem Places.onceOrMore (h : Places looks body) (greedy : Bool) :
    Places looks (Regex.onceOrMore body greedy) := by
  intro next code
  have hentry := h.entry next code
  refine ⟨(h code.size (code.push .done)).added.loop (inner_branch _ _ _ _)
    (targets_branch hentry (.inl rfl)), ?_⟩
  exact hentry.mono (Array.size_setIfInBounds).ge

theorem Places.anyTimes (h : Places looks body) (greedy advances : Bool) :
    Places looks (Regex.anyTimes body greedy advances) := by
  intro next code
  cases advances with
  | true =>
    have hbody := (h code.size (code.push .done)).added
    have hsize : (code.push .done).size = code.size + 1 := Array.size_push _
    have hle := hbody.le
    refine ⟨hbody.loop (inner_branch _ _ _ _) (targets_branch (h.entry next code) (.inl rfl)),
      .inr ⟨Nat.le_refl _, ?_⟩⟩
    show code.size < (Array.setIfInBounds _ _ _).size
    rw [Array.size_setIfInBounds]
    omega
  | false =>
    obtain ⟨honce, hentry⟩ := h.onceOrMore greedy next code
    exact honce.placed_push (inner_branch _ _ _ _) (targets_branch hentry (.inl rfl))

end Placing

/-- The groups of an expression, none of which is the whole match. -/
def Expr.Numbered : Expr → Prop
  | .cat a b => a.Numbered ∧ b.Numbered
  | .alt a b => a.Numbered ∧ b.Numbered
  | .rep _ _ _ e => e.Numbered
  | .group index e => 0 < index ∧ e.Numbered
  | _ => True

/-- Whether an expression has a condition on the place. -/
def Expr.looks : Expr → Bool
  | .look _ => true
  | .cat a b => a.looks || b.looks
  | .alt a b => a.looks || b.looks
  | .rep _ _ _ e => e.looks
  | .group _ e => e.looks
  | _ => false

/-- **An expression leads nowhere but to what follows it.** -/
theorem Expr.places {looks : Bool} {e : Expr} (h : e.Numbered)
    (hlooks : e.looks = true → looks = true) : Places looks e.place := by
  induction e with
  | empty => exact .refl looks
  | chars s =>
    intro next code
    refine (Extends.refl looks next code).placed_push trivial fun t ht => ?_
    exact .inl (List.mem_singleton.1 ht)
  | look l =>
    intro next code
    refine (Extends.refl looks next code).placed_push (hlooks rfl) fun t ht => ?_
    exact .inl (List.mem_singleton.1 ht)
  | cat a b iha ihb =>
    obtain ⟨ha, hb⟩ := h
    have hplacesA := iha ha fun hl => hlooks (Bool.or_eq_true_iff.2 (.inl hl))
    have hplacesB := ihb hb fun hl => hlooks (Bool.or_eq_true_iff.2 (.inr hl))
    intro next code
    exact (hplacesB next code).trans (hplacesA _ _)
  | alt a b iha ihb =>
    obtain ⟨ha, hb⟩ := h
    have hplacesA := iha ha fun hl => hlooks (Bool.or_eq_true_iff.2 (.inl hl))
    have hplacesB := ihb hb fun hl => hlooks (Bool.or_eq_true_iff.2 (.inr hl))
    intro next code
    obtain ⟨haddA, hentryA⟩ := hplacesA next code
    obtain ⟨haddB, hentryB⟩ := hplacesB next (a.place next code).2
    -- both branches lead to what follows the choice
    have hboth := haddA.trans haddB (.inl rfl)
    refine hboth.placed_push trivial fun t ht => ?_
    rcases List.mem_cons.1 ht with rfl | ht
    · exact hentryA.mono haddB.le
    · rw [List.mem_singleton.1 ht]
      exact hentryB.widen (.inl rfl) haddA.le
  | rep min max greedy e ih =>
    have hbody := ih h hlooks
    intro next code
    cases max with
    | some max =>
      exact (hbody.optionalCopies greedy (max - min) next code).trans (hbody.copies min _ _)
    | none =>
      cases min with
      | zero => exact hbody.anyTimes greedy e.advances next code
      | succ min => exact (hbody.onceOrMore greedy next code).trans (hbody.copies min _ _)
  | group index e ih =>
    intro next code
    obtain ⟨hindex, he⟩ := h
    have hclose : (Instruction.save (2 * index + 1) next).Inner looks := by
      show 2 ≤ 2 * index + 1
      omega
    have hstop : Placed looks next code (code.size, code.push (.save (2 * index + 1) next)) :=
      (Extends.refl looks next code).placed_push hclose fun t ht =>
        .inl (List.mem_singleton.1 ht)
    have hall := hstop.trans (ih he hlooks _ _)
    have hopen : 2 ≤ 2 * index := by omega
    refine hall.added.placed_push hopen fun t ht => ?_
    rw [List.mem_singleton.1 ht]
    exact hall.entry

/-! ## Groups of a pattern -/

theorem Expr.numbered_seq {es : List Expr} (h : ∀ e ∈ es, e.Numbered) :
    (Expr.seq es).Numbered := by
  induction es with
  | nil => trivial
  | cons e es ih =>
    obtain ⟨hfirst, hrest⟩ := List.forall_mem_cons.1 h
    cases es with
    | nil => exact hfirst
    | cons e' es => exact ⟨hfirst, ih hrest⟩

theorem Expr.numbered_choice {es : List Expr} (h : ∀ e ∈ es, e.Numbered) :
    (Expr.choice es).Numbered := by
  induction es with
  | nil => trivial
  | cons e es ih =>
    obtain ⟨hfirst, hrest⟩ := List.forall_mem_cons.1 h
    cases es with
    | nil => exact hfirst
    | cons e' es => exact ⟨hfirst, ih hrest⟩

section Parts

variable {parts branches : List Part}

theorem numbered_sequenceOf (h : ∀ x ∈ parts, x.expr.Numbered) :
    (sequenceOf parts).expr.Numbered := by
  unfold sequenceOf
  split
  · exact h _ List.mem_cons_self
  · refine Expr.numbered_seq fun e he => ?_
    obtain ⟨x, hx, rfl⟩ := List.mem_map.1 he
    exact h x (List.mem_reverse.1 hx)

theorem numbered_choiceOf (h : ∀ x ∈ branches, x.expr.Numbered) :
    (choiceOf branches).expr.Numbered := by
  unfold choiceOf
  split
  · exact h _ List.mem_cons_self
  · refine Expr.numbered_choice fun e he => ?_
    obtain ⟨x, hx, rfl⟩ := List.mem_map.1 he
    exact h x (List.mem_reverse.1 hx)

theorem numbered_literal? {f : Flags} {byte : Bool} {c : Char} {e : Expr}
    (h : literal? f byte c = some e) : e.Numbered := by
  rw [literal?] at h
  split at h
  · cases h
    trivial
  · split at h
    · cases h
    · split at h
      · cases h
        trivial
      · cases h
        trivial

theorem numbered_escapeExpr? {f : Flags} {x : Escape} {e : Expr}
    (h : escapeExpr? f x = some e) : e.Numbered := by
  cases x with
  | char c byte => exact numbered_literal? h
  | set s =>
    obtain ⟨t, -, rfl⟩ := Option.map_eq_some_iff.1 h
    trivial
  | look l =>
    cases h
    trivial

theorem numbered_dot? {f : Flags} {e : Expr} (h : dot? f = some e) : e.Numbered := by
  rw [dot?] at h
  split at h
  · cases h
  · split at h
    · cases h
      trivial
    · split at h
      · cases h
        trivial
      · cases h
        trivial

theorem numbered_repeatLast? {f : Flags} {r : Repeat} {parts' : List Part} {rest : List Char}
    (h : repeatLast? f r parts = some (parts', rest)) (hparts : ∀ x ∈ parts, x.expr.Numbered) :
    ∀ x ∈ parts', x.expr.Numbered := by
  unfold repeatLast? at h
  split at h
  · cases h
  · split at h
    · cases h
    · obtain ⟨hfirst, hrest⟩ := List.forall_mem_cons.1 hparts
      cases h
      exact List.forall_mem_cons.2 ⟨hfirst, hrest⟩

/-- **The groups that are read are numbered from one**, as long as the next
number is not zero. -/
theorem numbered_group {fuel : Nat} {f : Flags} {gs gs' : Groups} {cs rest : List Char} {x : Part}
    (h : group fuel f gs branches parts cs = some (x, gs', rest)) (hcount : 0 < gs.count)
    (hbranches : ∀ x ∈ branches, x.expr.Numbered) (hparts : ∀ x ∈ parts, x.expr.Numbered) :
    x.expr.Numbered ∧ 0 < gs'.count := by
  induction fuel generalizing f gs gs' branches parts cs rest x with
  | zero => cases h
  | succ fuel ih =>
    have hdone : (choiceOf (sequenceOf parts :: branches)).expr.Numbered :=
      numbered_choiceOf (List.forall_mem_cons.2 ⟨numbered_sequenceOf hparts, hbranches⟩)
    have hnone : ∀ x ∈ ([] : List Part), x.expr.Numbered := fun _ hx =>
      absurd hx List.not_mem_nil
    -- one part more, after any number of groups
    have hmore : ∀ {f : Flags} {gs : Groups} {e : Expr} {depth : Nat} {repeatable : Bool}
        {cs : List Char}, group fuel f gs branches (⟨e, depth, repeatable⟩ :: parts) cs =
          some (x, gs', rest) → 0 < gs.count → e.Numbered → x.expr.Numbered ∧ 0 < gs'.count :=
      fun h hcount he => ih h hcount hbranches (List.forall_mem_cons.2 ⟨he, hparts⟩)
    -- the last part repeated
    have hrepeated : ∀ {r : Option Repeat} {parts' : List Part} {cs : List Char},
        (r.bind fun r => repeatLast? f r parts) = some (parts', cs) →
        group fuel f gs branches parts' cs = some (x, gs', rest) →
        x.expr.Numbered ∧ 0 < gs'.count := by
      intro r parts' cs hlast h
      obtain ⟨r', -, hr'⟩ := Option.bind_eq_some_iff.1 hlast
      exact ih h hcount hbranches (numbered_repeatLast? hr' hparts)
    rw [group] at h
    simp only at h
    -- character by character of those that mean something
    split at h
    · cases h
      exact ⟨hdone, hcount⟩
    · next c cs' _ =>
      by_cases hclose : c = ')'
      · rw [if_pos hclose] at h
        cases h
        exact ⟨hdone, hcount⟩
      rw [if_neg hclose] at h
      by_cases hbar : c = '|'
      · rw [if_pos hbar] at h
        exact ih h hcount (List.forall_mem_cons.2 ⟨numbered_sequenceOf hparts, hbranches⟩) hnone
      rw [if_neg hbar] at h
      by_cases hopen : c = '('
      · rw [if_pos hopen] at h
        split at h
        · cases h
        · exact hmore h hcount trivial
        · split at h
          · next hinner =>
            obtain ⟨hp, hgs⟩ := ih hinner hcount hnone hnone
            exact hmore h hgs hp
          · cases h
        · split at h
          · cases h
          · split at h
            · next hinner =>
              obtain ⟨hp, hgs⟩ := ih hinner (Nat.succ_pos _) hnone hnone
              exact hmore h hgs ⟨hcount, hp⟩
            · cases h
      rw [if_neg hopen] at h
      by_cases hclass : c = '['
      · rw [if_pos hclass] at h
        split at h
        · exact hmore h hcount trivial
        · cases h
      rw [if_neg hclass] at h
      by_cases hoption : c = '?'
      · rw [if_pos hoption] at h
        split at h
        · next hlast => exact hrepeated hlast h
        · cases h
      rw [if_neg hoption] at h
      by_cases hstar : c = '*'
      · rw [if_pos hstar] at h
        split at h
        · next hlast => exact hrepeated hlast h
        · cases h
      rw [if_neg hstar] at h
      by_cases hplus : c = '+'
      · rw [if_pos hplus] at h
        split at h
        · next hlast => exact hrepeated hlast h
        · cases h
      rw [if_neg hplus] at h
      by_cases hbrace : c = '\x7b'
      · rw [if_pos hbrace] at h
        split at h
        · next hlast => exact hrepeated hlast h
        · cases h
      rw [if_neg hbrace] at h
      by_cases hescape : c = '\\'
      · rw [if_pos hescape] at h
        split at h
        · split at h
          · next he => exact hmore h hcount (numbered_escapeExpr? he)
          · cases h
        · cases h
      rw [if_neg hescape] at h
      by_cases hdot : c = '.'
      · rw [if_pos hdot] at h
        split at h
        · next he => exact hmore h hcount (numbered_dot? he)
        · cases h
      rw [if_neg hdot] at h
      by_cases hstart : c = '^'
      · rw [if_pos hstart] at h
        exact hmore h hcount trivial
      rw [if_neg hstart] at h
      by_cases hend : c = '$'
      · rw [if_pos hend] at h
        exact hmore h hcount trivial
      rw [if_neg hend] at h
      split at h
      · next he => exact hmore h hcount (numbered_literal? he)
      · cases h

end Parts

/-- The groups of a pattern are numbered from one, and the whole match has
a number too. -/
theorem numbered_parse? {ignoreCase : Bool} {pattern : String} {e : Expr} {gs : Groups}
    (h : parse? ignoreCase pattern = some (e, gs)) : e.Numbered ∧ 0 < gs.count := by
  rw [parse?] at h
  split at h
  · next hgroup =>
    split at h
    · cases h
      exact numbered_group hgroup Nat.one_pos (fun _ hx => absurd hx List.not_mem_nil)
        fun _ hx => absurd hx List.not_mem_nil
    · cases h
  · cases h

/-! ## The frame of a program -/

/-- The whole match is remembered by the frame of a program and by nothing
else. -/
structure Framed (p : Program) : Prop where
  /-- There is one instruction for a match. -/
  done : ∀ q : Nat, p.code[q]? = some .done → q = 0
  /-- It comes after the end of the match was remembered. -/
  stop : ∀ (q : Nat) (c : Instruction), p.code[q]? = some c → 0 ∈ c.targets → c = .save 1 0
  /-- The entry remembers the start of the match. -/
  start : ∃ next, p.code[p.entry]? = some (.save 0 next)
  /-- Nothing leads to the entry. -/
  outset : ∀ (q : Nat) (c : Instruction), p.code[q]? = some c → p.entry ∉ c.targets
  /-- Nothing else changes the start of the match. -/
  once : ∀ q next : Nat, p.code[q]? = some (.save 0 next) → q = p.entry
  /-- The whole match has its slots. -/
  groups : 0 < p.groups

/-- The instructions of a program: two of the frame before the expression,
and one behind it. -/
theorem ofExpr_cases (looks : Bool) {e : Expr} (h : e.Numbered)
    (hlooks : e.looks = true → looks = true) (groups : Nat) (names : List (String × Nat)) :
    ∃ first last, 1 ≤ first ∧ first < last ∧ 2 ≤ last ∧
      (Program.ofExpr e groups names).entry = last ∧
      (Program.ofExpr e groups names).code[last]? = some (.save 0 first) ∧
      ∀ q (c : Instruction), (Program.ofExpr e groups names).code[q]? = some c →
        (q = 0 ∧ c = .done) ∨ (q = 1 ∧ c = .save 1 0) ∨
          (c.Inner looks ∧ ∀ t ∈ c.targets, 1 ≤ t ∧ t < last) ∨
          (q = last ∧ c = .save 0 first) := by
  let frame : Code := #[.done, .save 1 0]
  let body := e.place 1 frame
  have hcode : (Program.ofExpr e groups names).code = body.2.push (.save 0 body.1) := rfl
  obtain ⟨hplaced, hentry⟩ := Expr.places h hlooks 1 frame
  have hle : 2 ≤ body.2.size := hplaced.le
  have hinside : ∀ q, Between 1 frame body.2 q → 1 ≤ q ∧ q < body.2.size := by
    rintro q (rfl | ⟨hlow, hhigh⟩)
    · exact ⟨Nat.le_refl _, hle⟩
    · exact ⟨(by decide : 1 ≤ 2).trans hlow, hhigh⟩
  refine ⟨body.1, body.2.size, (hinside _ hentry).1, (hinside _ hentry).2, hle, rfl, ?_, ?_⟩
  · rw [hcode, Array.getElem?_push_size]
  · intro q c hc
    rw [hcode, Array.getElem?_push] at hc
    split at hc
    · next hq =>
      cases hc
      exact .inr (.inr (.inr ⟨hq, rfl⟩))
    · rcases Nat.lt_or_ge q 2 with hlt | hge
      · have hkept := (hplaced.kept q hlt).symm.trans hc
        obtain rfl | rfl : q = 0 ∨ q = 1 := by omega
        · cases hkept
          exact .inl ⟨rfl, rfl⟩
        · cases hkept
          exact .inr (.inl ⟨rfl, rfl⟩)
      · exact .inr (.inr (.inl ⟨hplaced.inner q hge c hc, fun t ht =>
          hinside t (hplaced.closed q hge c hc t ht)⟩))

/-- **The program of an expression is framed.** -/
theorem framed_ofExpr {e : Expr} (h : e.Numbered) {groups : Nat} (hgroups : 0 < groups)
    (names : List (String × Nat)) : Framed (Program.ofExpr e groups names) := by
  obtain ⟨first, last, hfirst, hlt, hlast, hentry, hstart, hcases⟩ :=
    ofExpr_cases true h (fun _ => rfl) groups names
  refine ⟨fun q hq => ?_, fun q c hc hmem => ?_, ⟨first, hentry ▸ hstart⟩, fun q c hc hmem => ?_,
    fun q next hq => ?_, hgroups⟩
  · rcases hcases q _ hq with ⟨rfl, -⟩ | ⟨-, hc⟩ | ⟨hinner, -⟩ | ⟨-, hc⟩
    · rfl
    · cases hc
    · exact hinner.elim
    · cases hc
  · rcases hcases q c hc with ⟨-, rfl⟩ | ⟨-, rfl⟩ | ⟨-, htargets⟩ | ⟨-, rfl⟩
    · exact absurd hmem List.not_mem_nil
    · rfl
    · exact absurd (htargets 0 hmem).1 (by omega)
    · have := List.mem_singleton.1 hmem
      omega
  · rw [hentry] at hmem
    rcases hcases q c hc with ⟨-, rfl⟩ | ⟨-, rfl⟩ | ⟨-, htargets⟩ | ⟨-, rfl⟩
    · exact absurd hmem List.not_mem_nil
    · have := List.mem_singleton.1 hmem
      omega
    · exact absurd (htargets _ hmem).2 (Nat.lt_irrefl _)
    · have := List.mem_singleton.1 hmem
      omega
  · rcases hcases q _ hq with ⟨-, hc⟩ | ⟨-, hc⟩ | ⟨hinner, -⟩ | ⟨hq, -⟩
    · cases hc
    · cases hc
    · exact absurd hinner (by show ¬2 ≤ 0; omega)
    · rw [hq, hentry]

/-- **The program of a pattern is framed.** -/
theorem framed_compile? {ignoreCase : Bool} {pattern : String} {p : Program}
    (h : compile? ignoreCase pattern = some p) : Framed p := by
  obtain ⟨⟨e, gs⟩, hparse, rfl⟩ := Option.map_eq_some_iff.1 h
  obtain ⟨he, hcount⟩ := numbered_parse? hparse
  exact framed_ofExpr he hcount gs.names

/-- **The program of a text is framed.** -/
theorem framed_literal (ignoreCase : Bool) (s : String) : Framed (literal ignoreCase s) := by
  have hnumbered : (literalExpr ignoreCase s).Numbered := by
    refine Expr.numbered_seq fun e he => ?_
    obtain ⟨c, -, rfl⟩ := List.mem_map.1 he
    trivial
  exact framed_ofExpr hnumbered Nat.one_pos []

/-- No instruction of a program is a condition on the place. -/
def Program.Lookless (p : Program) : Prop :=
  ∀ (q : Nat) (l : Look) (next : Nat), p.code[q]? ≠ some (.look l next)

/-- **A pattern without conditions on the place** has a program without
them. -/
theorem lookless_compile? {ignoreCase : Bool} {pattern : String} {e : Expr} {gs : Groups}
    {p : Program} (hparse : parse? ignoreCase pattern = some (e, gs)) (hlooks : e.looks = false)
    (h : compile? ignoreCase pattern = some p) : p.Lookless := by
  rw [compile?, hparse] at h
  cases h
  intro q l next hq
  obtain ⟨first, last, -, -, -, -, -, hcases⟩ := ofExpr_cases false
    (numbered_parse? hparse).1 (fun htrue => absurd (hlooks.symm.trans htrue) Bool.false_ne_true)
    gs.count gs.names
  rcases hcases q _ hq with ⟨-, hc⟩ | ⟨-, hc⟩ | ⟨hinner, -⟩ | ⟨-, hc⟩
  · cases hc
  · cases hc
  · exact absurd hinner Bool.false_ne_true
  · cases hc

end Regex
end CodeDesk
