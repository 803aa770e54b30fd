import CodeDesk.Proofs.Regex.Walk
import CodeDesk.Regex.Replace
/-!
# Groups — what the text of a group is made of

A group remembers where a thread enters its expression and where it leaves
it, and between the two the thread moves over characters of the sets of the
expression and no others. So the text of a group is made of characters that
these sets have in common some property (`Program.groupText_forall`),
wherever the group stands and however often it is repeated.

The places of a program are told apart by whether they are inside of the
group (`Instruction.Respects`): only the instructions of the group lead in and out, and
what is inside moves over characters that have the property. Placing an
expression keeps this up (`Expr.grows`).
-/

namespace CodeDesk
namespace Regex

variable {k : Nat} {P : Char → Prop}

/-- The sets in group `k` of an expression have only characters with the
property; `inside` says that the whole expression is in it. The group does
not stand in itself. -/
def Expr.GroupIn (k : Nat) (P : Char → Prop) : (inside : Bool) → Expr → Prop
  | _, .empty => True
  | inside, .chars s => inside = true → ∀ c, s.contains c = true → P c
  | _, .look _ => True
  | inside, .cat a b => a.GroupIn k P inside ∧ b.GroupIn k P inside
  | inside, .alt a b => a.GroupIn k P inside ∧ b.GroupIn k P inside
  | inside, .rep _ _ _ e => e.GroupIn k P inside
  | inside, .group i e =>
    if i = k then inside = false ∧ e.GroupIn k P true else e.GroupIn k P inside

/-! ## Places inside of a group -/

/-- What an instruction may be at a place that is inside of the group or
not. Which places are inside is given. -/
def Instruction.Respects (k : Nat) (P : Char → Prop) (inside : Nat → Bool) (here : Bool) :
    Instruction → Prop
  | .char s next => (here = true → ∀ c, s.contains c = true → P c) ∧ inside next = here
  | .look _ next => inside next = here
  | .fork first second => inside first = here ∧ inside second = here
  | .save slot next =>
    if slot = 2 * k then here = false ∧ inside next = true
    else if slot = 2 * k + 1 then here = true ∧ inside next = false
    else inside next = here
  | .done => here = false

/-- Instructions were added to a code, and it is known of each whether it is
inside of the group. -/
structure Marked (k : Nat) (P : Char → Prop) (inside inside' : Nat → Bool) (code code' : Code) :
    Prop where
  /-- No instruction is taken away. -/
  le : code.size ≤ code'.size
  /-- The instructions that were there stay as they are. -/
  kept : ∀ q < code.size, code'[q]? = code[q]?
  /-- They stay where they are. -/
  same : ∀ q < code.size, inside' q = inside q
  /-- The others lead in and out as the group does. -/
  respects : ∀ q, code.size ≤ q → ∀ c, code'[q]? = some c →
    c.Respects k P inside' (inside' q) ∧ ∀ t ∈ c.targets, t < code'.size

/-- A body is placed in front of an instruction that is inside of the group,
or of one that is not: then its entry is there too. -/
structure Grown (k : Nat) (P : Char → Prop) (here : Bool) (inside inside' : Nat → Bool)
    (code : Code) (out : Nat × Code) : Prop where
  /-- Instructions were added. -/
  added : Marked k P inside inside' code out.2
  /-- The entry is one of them. -/
  entry_lt : out.1 < out.2.size
  /-- It is where the body is. -/
  entry : inside' out.1 = here

/-- What is placed in front of an instruction goes on from where that one
is. -/
def Grows (k : Nat) (P : Char → Prop) (here : Bool) (body : Nat → Code → Nat × Code) : Prop :=
  ∀ (next : Nat) (code : Code) (inside : Nat → Bool), next < code.size → inside next = here →
    ∃ inside', Grown k P here inside inside' code (body next code)

section Placing

variable {here : Bool} {inside inside' inside'' : Nat → Bool} {next : Nat}
  {code code' code'' : Code} {c : Instruction} {body : Nat → Code → Nat × Code}
  {out out' : Nat × Code}

theorem Instruction.Respects.congr (h : c.Respects k P inside here)
    (hsame : ∀ t ∈ c.targets, inside' t = inside t) : c.Respects k P inside' here := by
  cases c with
  | char s next => exact ⟨h.1, (hsame next List.mem_cons_self).trans h.2⟩
  | look l next => exact (hsame next List.mem_cons_self).trans h
  | fork first second =>
    exact ⟨(hsame first List.mem_cons_self).trans h.1,
      (hsame second (List.mem_cons_of_mem _ List.mem_cons_self)).trans h.2⟩
  | save slot next =>
    have hnext := hsame next List.mem_cons_self
    simp only [Respects] at h ⊢
    rw [hnext]
    exact h
  | done => exact h

theorem Marked.refl (inside : Nat → Bool) (code : Code) : Marked k P inside inside code code where
  le := Nat.le_refl _
  kept := fun _ _ => rfl
  same := fun _ _ => rfl
  respects := fun _ hq _ hc => absurd (lt_of_getElem? hc) (Nat.not_lt_of_le hq)

theorem Marked.trans (h : Marked k P inside inside' code code')
    (h' : Marked k P inside' inside'' code' code'') : Marked k P inside inside'' code code'' where
  le := h.le.trans h'.le
  kept := fun q hq => (h'.kept q (hq.trans_le h.le)).trans (h.kept q hq)
  same := fun q hq => (h'.same q (hq.trans_le h.le)).trans (h.same q hq)
  respects := by
    intro q hq c hc
    rcases Nat.lt_or_ge q code'.size with hlt | hge
    · obtain ⟨hrespects, htargets⟩ := h.respects q hq c ((h'.kept q hlt).symm.trans hc)
      rw [h'.same q hlt]
      exact ⟨hrespects.congr fun t ht => h'.same t (htargets t ht),
        fun t ht => (htargets t ht).trans_le h'.le⟩
    · exact h'.respects q hge c hc

/-- Where the places are inside, with one more place. -/
def extended (inside : Nat → Bool) (q : Nat) (here : Bool) : Nat → Bool :=
  fun t => if t = q then here else inside t

theorem extended_self (inside : Nat → Bool) (q : Nat) (here : Bool) :
    extended inside q here q = here := if_pos rfl

theorem extended_of_lt {q t : Nat} (h : t < q) : extended inside q here t = inside t :=
  if_neg h.ne

/-- One more instruction. -/
theorem Marked.push (h : Marked k P inside inside' code code') (hc : c.Respects k P inside' here)
    (htargets : ∀ t ∈ c.targets, t < code'.size) :
    Marked k P inside (extended inside' code'.size here) code (code'.push c) := by
  have hsize : (code'.push c).size = code'.size + 1 := Array.size_push _
  have hold : ∀ t < code'.size, extended inside' code'.size here t = inside' t :=
    fun t ht => extended_of_lt ht
  refine h.trans ⟨by omega, fun q hq => ?_, hold, fun q hq d hd => ?_⟩
  · rw [Array.getElem?_push, if_neg hq.ne]
  · obtain rfl : q = code'.size := by
      have := lt_of_getElem? hd
      omega
    rw [Array.getElem?_push_size, Option.some.injEq] at hd
    subst hd
    rw [extended_self]
    exact ⟨hc.congr fun t ht => hold t (htargets t ht), fun t ht => by
      have := htargets t ht
      omega⟩

/-- A new instruction in front of what was added, which is the entry then. -/
theorem Marked.grown_push (h : Marked k P inside inside' code code')
    (hc : c.Respects k P inside' here) (htargets : ∀ t ∈ c.targets, t < code'.size) :
    Grown k P here inside (extended inside' code'.size here) code (code'.size, code'.push c) := by
  refine ⟨h.push hc htargets, ?_, extended_self _ _ _⟩
  show code'.size < (code'.push c).size
  rw [Array.size_push]
  omega

theorem Grown.refl (hnext : next < code.size) (hhere : inside next = here) :
    Grown k P here inside inside code (next, code) :=
  ⟨.refl inside code, hnext, hhere⟩

/-- One body in front of another one. -/
theorem Grown.trans (h : Grown k P here inside inside' code out)
    (h' : Grown k P here inside' inside'' out.2 out') : Grown k P here inside inside'' code out' :=
  ⟨h.added.trans h'.added, h'.entry_lt, h'.entry⟩

/-- The place that is kept free for a loop around a body. -/
theorem marked_kept (code : Code) (inside : Nat → Bool) (hnext : next < code.size)
    (hhere : inside next = here) :
    (extended inside code.size here) next = here ∧
      (extended inside code.size here) code.size = here ∧ code.size < (code.push .done).size := by
  refine ⟨(extended_of_lt hnext).trans hhere, extended_self _ _ _, ?_⟩
  rw [Array.size_push]
  omega

/-- **A loop**: an instruction whose place was kept free leads into what was
placed behind it. -/
theorem Grown.loop
    (h : Grown k P here (extended inside code.size here) inside' (code.push .done) out)
    (hc : c.Respects k P inside' here) (htargets : ∀ t ∈ c.targets, t < out.2.size) :
    Marked k P inside inside' code (out.2.setIfInBounds code.size c) ∧
      inside' code.size = here := by
  have hsize : (code.push .done).size = code.size + 1 := Array.size_push _
  have hset : (out.2.setIfInBounds code.size c).size = out.2.size := Array.size_setIfInBounds
  have hle := h.added.le
  have hlt : code.size < out.2.size := by omega
  have hloop : inside' code.size = here :=
    (h.added.same code.size (by omega)).trans (extended_self _ _ _)
  refine ⟨⟨by omega, fun q hq => ?_, fun q hq => ?_, fun q hq d hd => ?_⟩, hloop⟩
  · rw [Array.getElem?_setIfInBounds_ne hq.ne', h.added.kept q (by omega), Array.getElem?_push,
      if_neg hq.ne]
  · exact (h.added.same q (by omega)).trans (extended_of_lt hq)
  · rw [hset]
    rcases Nat.eq_or_lt_of_le hq with rfl | hbehind
    · rw [Array.getElem?_setIfInBounds_self_of_lt hlt, Option.some.injEq] at hd
      subst hd
      rw [hloop]
      exact ⟨hc, htargets⟩
    · rw [Array.getElem?_setIfInBounds_ne hbehind.ne] at hd
      exact h.added.respects q (by omega) d hd

/-! ## Placing an expression -/

theorem respects_branch (greedy : Bool) {first second : Nat} (hfirst : inside first = here)
    (hsecond : inside second = here) : (branch greedy first second).Respects k P inside here := by
  cases greedy
  · exact ⟨hsecond, hfirst⟩
  · exact ⟨hfirst, hsecond⟩

theorem Grows.copies (h : Grows k P here body) (n : Nat) :
    Grows k P here (Regex.copies body n) := by
  intro next code inside hnext hhere
  induction n with
  | zero => exact ⟨inside, .refl hnext hhere⟩
  | succ n ih =>
    obtain ⟨inside₁, h₁⟩ := ih
    obtain ⟨inside₂, h₂⟩ := h _ _ inside₁ h₁.entry_lt h₁.entry
    exact ⟨inside₂, h₁.trans h₂⟩

theorem Grows.optionalCopies (h : Grows k P here body) (greedy : Bool) (n : Nat)
    (hnext : next < code.size) (hhere : inside next = here) :
    ∃ inside', Grown k P here inside inside' code
      (Regex.optionalCopies body greedy next n code) := by
  induction n with
  | zero => exact ⟨inside, .refl hnext hhere⟩
  | succ n ih =>
    obtain ⟨inside₁, h₁⟩ := ih
    obtain ⟨inside₂, h₂⟩ := h _ _ inside₁ h₁.entry_lt h₁.entry
    have hall := h₁.added.trans h₂.added
    have hout : inside₂ next = here := (hall.same next hnext).trans hhere
    exact ⟨_, hall.grown_push (respects_branch greedy h₂.entry hout)
      (targets_branch h₂.entry_lt (hnext.trans_le hall.le))⟩

theorem Grows.onceOrMore (h : Grows k P here body) (greedy : Bool) :
    Grows k P here (Regex.onceOrMore body greedy) := by
  intro next code inside hnext hhere
  obtain ⟨hout, hloop, hlt⟩ := marked_kept code inside hnext hhere
  obtain ⟨inside', hbody⟩ := h code.size (code.push .done) _ hlt hloop
  have hnext' : next < (code.push .done).size := hnext.trans hlt
  have hout' : inside' next = here := (hbody.added.same next hnext').trans hout
  obtain ⟨hmarked, -⟩ := hbody.loop (respects_branch greedy hbody.entry hout')
    (targets_branch hbody.entry_lt (hnext'.trans_le hbody.added.le))
  exact ⟨inside', hmarked, hbody.entry_lt.trans_le Array.size_setIfInBounds.ge, hbody.entry⟩

theorem Grows.anyTimes (h : Grows k P here body) (greedy advances : Bool) :
    Grows k P here (Regex.anyTimes body greedy advances) := by
  intro next code inside hnext hhere
  cases advances with
  | true =>
    obtain ⟨hout, hloop, hlt⟩ := marked_kept code inside hnext hhere
    obtain ⟨inside', hbody⟩ := h code.size (code.push .done) _ hlt hloop
    have hnext' : next < (code.push .done).size := hnext.trans hlt
    have hout' : inside' next = here := (hbody.added.same next hnext').trans hout
    obtain ⟨hmarked, hentry⟩ := hbody.loop (respects_branch greedy hbody.entry hout')
      (targets_branch hbody.entry_lt (hnext'.trans_le hbody.added.le))
    exact ⟨inside', hmarked,
      (hlt.trans_le hbody.added.le).trans_le Array.size_setIfInBounds.ge, hentry⟩
  | false =>
    obtain ⟨inside', honce⟩ := h.onceOrMore greedy next code inside hnext hhere
    have hout : inside' next = here := (honce.added.same next hnext).trans hhere
    exact ⟨_, honce.added.grown_push (respects_branch greedy honce.entry hout)
      (targets_branch honce.entry_lt (hnext.trans_le honce.added.le))⟩

/-- **An expression is inside of the group where what follows it is**, but
for the group itself. -/
theorem Expr.grows {e : Expr} (h : e.GroupIn k P here) : Grows k P here e.place := by
  induction e generalizing here with
  | empty => exact fun _ _ inside hnext hhere => ⟨inside, .refl hnext hhere⟩
  | chars s =>
    intro next code inside hnext hhere
    exact ⟨_, (Marked.refl inside code).grown_push ⟨h, hhere⟩ fun t ht =>
      List.mem_singleton.1 ht ▸ hnext⟩
  | look l =>
    intro next code inside hnext hhere
    exact ⟨_, (Marked.refl inside code).grown_push hhere fun t ht =>
      List.mem_singleton.1 ht ▸ hnext⟩
  | cat a b iha ihb =>
    intro next code inside hnext hhere
    obtain ⟨inside₁, h₁⟩ := ihb h.2 next code inside hnext hhere
    obtain ⟨inside₂, h₂⟩ := iha h.1 _ _ inside₁ h₁.entry_lt h₁.entry
    exact ⟨inside₂, h₁.trans h₂⟩
  | alt a b iha ihb =>
    intro next code inside hnext hhere
    obtain ⟨inside₁, h₁⟩ := iha h.1 next code inside hnext hhere
    have hnext₁ := hnext.trans_le h₁.added.le
    obtain ⟨inside₂, h₂⟩ := ihb h.2 next _ inside₁ hnext₁ ((h₁.added.same next hnext).trans hhere)
    have hfirst : inside₂ (a.place next code).1 = here :=
      (h₂.added.same _ h₁.entry_lt).trans h₁.entry
    refine ⟨_, (h₁.added.trans h₂.added).grown_push ⟨hfirst, h₂.entry⟩ fun t ht => ?_⟩
    rcases List.mem_cons.1 ht with rfl | ht
    · exact h₁.entry_lt.trans_le h₂.added.le
    · exact List.mem_singleton.1 ht ▸ h₂.entry_lt
  | rep min max greedy e ih =>
    have hbody := ih h
    intro next code inside hnext hhere
    cases max with
    | some max =>
      obtain ⟨inside₁, h₁⟩ := hbody.optionalCopies greedy (max - min) hnext hhere
      obtain ⟨inside₂, h₂⟩ := hbody.copies min _ _ inside₁ h₁.entry_lt h₁.entry
      exact ⟨inside₂, h₁.trans h₂⟩
    | none =>
      cases min with
      | zero => exact hbody.anyTimes greedy e.advances next code inside hnext hhere
      | succ min =>
        obtain ⟨inside₁, h₁⟩ := hbody.onceOrMore greedy next code inside hnext hhere
        obtain ⟨inside₂, h₂⟩ := hbody.copies min _ _ inside₁ h₁.entry_lt h₁.entry
        exact ⟨inside₂, h₁.trans h₂⟩
  | group i e ih =>
    intro next code inside hnext hhere
    rw [GroupIn] at h
    -- The body of the group is inside of it, and that of another one is where
    -- the other one is.
    obtain ⟨inner, he, hclose, hopen⟩ : ∃ inner, e.GroupIn k P inner ∧
        (Instruction.save (2 * i + 1) next).Respects k P inside inner ∧
        ∀ (inside' : Nat → Bool) entry, inside' entry = inner →
          (Instruction.save (2 * i) entry).Respects k P inside' here := by
      split at h
      · next hk =>
        subst hk
        refine ⟨true, h.2, ?_, fun inside' entry hentry => ?_⟩
        · rw [Instruction.Respects, if_neg (by omega), if_pos rfl]
          exact ⟨rfl, hhere.trans h.1⟩
        · rw [Instruction.Respects, if_pos rfl]
          exact ⟨h.1, hentry⟩
      · next hk =>
        refine ⟨here, h, ?_, fun inside' entry hentry => ?_⟩
        · rw [Instruction.Respects, if_neg (by omega), if_neg (by omega)]
          exact hhere
        · rw [Instruction.Respects, if_neg (by omega), if_neg (by omega)]
          exact hentry
    have hstop := (Marked.refl inside code).grown_push hclose fun t ht =>
      List.mem_singleton.1 ht ▸ hnext
    obtain ⟨inside', hbody⟩ := ih he _ _ _ hstop.entry_lt hstop.entry
    exact ⟨_, (hstop.added.trans hbody.added).grown_push (hopen inside' _ hbody.entry) fun t ht =>
      List.mem_singleton.1 ht ▸ hbody.entry_lt⟩

end Placing

/-! ## Programs -/

/-- It is known of each place of a program whether it is inside of the group,
and the entry is not. -/
structure Program.MarkedBy (p : Program) (k : Nat) (P : Char → Prop) (inside : Nat → Bool) :
    Prop where
  /-- Every instruction may be where it is. -/
  respects : ∀ (q : Nat) (c : Instruction), p.code[q]? = some c → c.Respects k P inside (inside q)
  /-- A match starts outside. -/
  entry : inside p.entry = false

/-- The group of an expression is a part of its program. -/
theorem exists_markedBy_ofExpr {e : Expr} (h : e.GroupIn k P false) (hk : 0 < k) (groups : Nat)
    (names : List (String × Nat)) :
    ∃ inside, (Program.ofExpr e groups names).MarkedBy k P inside := by
  have hwhole : (Expr.group 0 e).GroupIn k P false := by
    rw [Expr.GroupIn, if_neg hk.ne]
    exact h
  obtain ⟨inside, hgrown⟩ :=
    Expr.grows hwhole 0 #[.done] (fun _ => false) Nat.one_pos rfl
  refine ⟨inside, fun q c hc => ?_, hgrown.entry⟩
  rcases Nat.eq_zero_or_pos q with rfl | hpos
  · have hdone := (hgrown.added.kept 0 Nat.one_pos).symm.trans hc
    cases hdone
    exact hgrown.added.same 0 Nat.one_pos
  · exact (hgrown.added.respects q hpos c hc).1

/-- The characters of a text from one place to another have the property. -/
def Throughout (P : Char → Prop) (text : Nat → Option Char) (a b : Nat) : Prop :=
  ∀ i, a ≤ i → i < b → ∀ c, text i = some c → P c

/-- What a thread at place `i` of the text has moved over in the group. -/
structure Tracks (k : Nat) (P : Char → Prop) (inside : Nat → Bool) (text : Nat → Option Char)
    (i : Nat) (t : Thread) : Prop where
  /-- In the group, it is what lies behind the start that is remembered. -/
  within : inside t.place = true → ∀ a, t.slots[2 * k]? = some (some a) → Throughout P text a i
  /-- Outside, it is what the group has matched. -/
  outside : inside t.place = false →
    ∀ a b, groupRange t.slots k = some (a, b) → Throughout P text a b

section Threads

variable {p : Program} {inside : Nat → Bool} {text : Nat → Option Char} {i : Nat}
  {before after : Option Char} {t u : Thread} {slots slots' : Slots}

/-- The range of a group depends on its own two slots. -/
theorem groupRange_congr (hstart : slots'[2 * k]? = slots[2 * k]?)
    (hstop : slots'[2 * k + 1]? = slots[2 * k + 1]?) :
    groupRange slots' k = groupRange slots k := by
  rw [groupRange, groupRange, hstart, hstop]

/-- A thread that goes on without remembering a place of the group. -/
theorem Tracks.pass (h : Tracks k P inside text i t) (hplace : inside u.place = inside t.place)
    (hstart : u.slots[2 * k]? = t.slots[2 * k]?)
    (hstop : u.slots[2 * k + 1]? = t.slots[2 * k + 1]?) : Tracks k P inside text i u where
  within hin a ha := h.within (hplace ▸ hin) a (hstart ▸ ha)
  outside hout a b hab := h.outside (hplace ▸ hout) a b (groupRange_congr hstart hstop ▸ hab)

theorem eq_of_getElem?_setIfInBounds {j a b : Nat}
    (h : (slots.setIfInBounds j (some a))[j]? = some (some b)) : b = a := by
  rw [Array.getElem?_setIfInBounds_self] at h
  split at h
  · exact (Option.some.inj (Option.some.inj h)).symm
  · cases h

theorem Tracks.onward (hp : p.MarkedBy k P inside) (h : Tracks k P inside text i t)
    (hu : u ∈ onward p i before after t) : Tracks k P inside text i u := by
  rw [Regex.onward] at hu
  split at hu
  · next l next hcode =>
    split at hu
    · rw [List.mem_singleton.1 hu]
      exact h.pass (hp.respects _ _ hcode) rfl rfl
    · cases hu
  · next first second hcode =>
    obtain ⟨hfirst, hsecond⟩ := hp.respects _ _ hcode
    rcases List.mem_cons.1 hu with rfl | hu
    · exact h.pass hfirst rfl rfl
    · rw [List.mem_singleton.1 hu]
      exact h.pass hsecond rfl rfl
  · next slot next hcode =>
    have hrespects := hp.respects _ _ hcode
    rw [Instruction.Respects] at hrespects
    rw [List.mem_singleton.1 hu]
    split at hrespects
    · -- The group is entered, and nothing was moved over in it yet.
      next hslot =>
      subst hslot
      refine ⟨fun _ a ha j haj hji => ?_, fun hout => ?_⟩
      · have := eq_of_getElem?_setIfInBounds ha
        omega
      · exact absurd (hrespects.2.symm.trans hout) Bool.noConfusion
    · split at hrespects
      · -- The group is left, and its text ends here.
        next hslot =>
        subst hslot
        refine ⟨fun hin => absurd (hrespects.2.symm.trans hin) Bool.noConfusion,
          fun _ a b hab => ?_⟩
        obtain ⟨ha, hb⟩ := groupRange_eq_some hab
        rw [Array.getElem?_setIfInBounds_ne (by omega)] at ha
        rw [eq_of_getElem?_setIfInBounds hb]
        exact h.within hrespects.1 a ha
      · next hstart hstop =>
        exact h.pass hrespects (Array.getElem?_setIfInBounds_ne hstart)
          (Array.getElem?_setIfInBounds_ne hstop)
  · cases hu

theorem Tracks.move (hp : p.MarkedBy k P inside) (h : Tracks k P inside text i t)
    (hu : p.move (text i) t = some u) : Tracks k P inside text (i + 1) u := by
  obtain ⟨s, c, hcode, htext, hin, hslots⟩ := Program.move_eq_some hu
  obtain ⟨hset, hplace⟩ := hp.respects _ _ hcode
  refine ⟨fun hwithin a ha j haj hji d hd => ?_, fun hout a b hab => ?_⟩
  · have hhere : inside t.place = true := hplace ▸ hwithin
    rcases Nat.lt_succ_iff_lt_or_eq.1 hji with hlt | rfl
    · exact h.within hhere a (hslots ▸ ha) j haj hlt d hd
    · rw [htext, Option.some.injEq] at hd
      exact hd ▸ hset hhere c hin
  · exact h.outside (hplace ▸ hout) a b (hslots ▸ hab)

theorem tracks_outset (hp : p.MarkedBy k P inside) (text : Nat → Option Char) (i : Nat) :
    Tracks k P inside text i p.outset := by
  refine ⟨fun hin => absurd (hp.entry.symm.trans hin) Bool.noConfusion, fun _ a b hab => ?_⟩
  have hstart := (groupRange_eq_some hab).1
  rw [Program.outset, Array.getElem?_replicate] at hstart
  split at hstart <;> cases hstart

theorem carriesAlong_tracks (hp : p.MarkedBy k P inside) (text : Nat → Option Char)
    (low high : Nat) :
    CarriesAlong p text (Tracks k P inside text)
      (fun slots => ∀ a b, groupRange slots k = some (a, b) → Throughout P text a b) low high where
  onward := fun _ _ h _ hu => h.onward hp hu
  move := fun _ _ h hu => h.move hp hu
  done := fun _ _ h hdone =>
    h.outside (hp.respects _ _ (Program.doneAt_iff.1 hdone))

/-- **The text of a group is made of the characters of its sets.** -/
theorem Program.groupText_forall (hframed : Framed p) (hp : p.MarkedBy k P inside)
    {cs : List Char} (hslots : slots ∈ p.searchAll cs) : ∀ c ∈ groupText cs slots k, P c := by
  obtain ⟨-, hmem⟩ := searchAllFrom_sound hframed (2 * cs.length + 3) false (Cursor.start cs)
  obtain ⟨cursor, hsearch, -, hrest⟩ := hmem slots hslots
  have htext : ∀ j, cs[cursor.index + j]? = cursor.rest[j]? := fun j => by
    rw [hrest, List.getElem?_drop]
    rfl
  have hgroup : ∀ a b, groupRange slots k = some (a, b) → Throughout P (fun i => cs[i]?) a b :=
    walk_forall_along (carriesAlong_tracks hp (fun i => cs[i]?) _ _) htext (Nat.le_refl _)
      (Nat.le_refl _) (fun t ht => absurd ht List.not_mem_nil)
      (fun _ i _ => tracks_outset hp _ i) (fun _ hnone => absurd hnone (by simp)) hsearch
  intro c hc
  rw [groupText] at hc
  split at hc
  · next a b hrange =>
    obtain ⟨j, hj⟩ := List.mem_iff_getElem?.1 hc
    rw [List.getElem?_take] at hj
    split at hj
    · next hlt =>
      rw [List.getElem?_drop] at hj
      exact hgroup a b hrange (a + j) (by omega) (by omega) c hj
    · cases hj
  · cases hc

end Threads

end Regex
end CodeDesk
