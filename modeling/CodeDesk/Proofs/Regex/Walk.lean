import CodeDesk.Proofs.Regex.Frame
import CodeDesk.Proofs.Regex.Threads
import CodeDesk.Proofs.Text.Pieces
/-!
# Walks — what holds of every match

One step takes the threads that wait before the first complete one over the
next character (`step_eq`). What a thread keeps while it is followed and
moved therefore holds of every match a walk ends with (`walk_forall`). With
it the places that a match remembers are put in order: none of them lies
before the search or behind the end of the match, and the end does not lie
behind the text (`Program.searchFrom_sound`).
-/

namespace CodeDesk
namespace Regex

/-! ## One step -/

/-- Whether a match is complete at a place of the program. -/
def Program.doneAt (p : Program) (q : Nat) : Bool :=
  match p.code[q]? with
  | some .done => true
  | _ => false

/-- Take a thread over the next character, if it waits for that. -/
def Program.move (p : Program) (next : Option Char) (t : Thread) : Option Thread :=
  match p.code[t.place]?, next with
  | some (.char s target), some c => if s.contains c then some ⟨target, t.slots⟩ else none
  | _, _ => none

section Step

variable {p : Program} {next next' : Option Char} {t u : Thread} {ts us : List Thread}
  {slots : Slots} {keep keep' : Nat → Bool}

theorem Program.doneAt_iff {q : Nat} : p.doneAt q = true ↔ p.code[q]? = some .done := by
  rw [doneAt]
  split
  · next h => exact ⟨fun _ => h, fun _ => rfl⟩
  · next h => exact ⟨fun hfalse => absurd hfalse Bool.false_ne_true, fun hdone => absurd hdone h⟩

/-- A complete match waits. -/
theorem Program.waitsAt_of_doneAt {q : Nat} (h : p.doneAt q = true) : p.waitsAt q = true := by
  rw [waitsAt, doneAt_iff.1 h]
  rfl

/-- A thread that moves waits for the character at hand. -/
theorem Program.move_eq_some (h : p.move next t = some u) :
    ∃ s c, p.code[t.place]? = some (.char s u.place) ∧ next = some c ∧ s.contains c = true ∧
      u.slots = t.slots := by
  unfold move at h
  split at h
  · next s target c hcode =>
    split at h
    · next hin =>
      cases h
      exact ⟨s, c, hcode, rfl, hin, rfl⟩
    · cases h
  · cases h

/-- A step, thread by thread. -/
theorem step_cons (p : Program) (next : Option Char) (t : Thread) (ts : List Thread) :
    step p next (t :: ts) =
      if p.doneAt t.place then ([], some t.slots)
      else ((p.move next t).toList ++ (step p next ts).1, (step p next ts).2) := by
  rw [step]
  unfold Program.doneAt Program.move
  cases p.code[t.place]? with
  | none => rfl
  | some i =>
    cases i with
    | char s target =>
      cases next with
      | none => rfl
      | some c =>
        dsimp only
        split <;> rfl
    | _ => rfl

/-- Which match is complete does not depend on the next character. -/
theorem step_found (p : Program) (next next' : Option Char) (ts : List Thread) :
    (step p next ts).2 = (step p next' ts).2 := by
  induction ts with
  | nil => rfl
  | cons t ts ih =>
    rw [step_cons, step_cons]
    split
    · rfl
    · exact ih

/-- **A match cuts what is behind it**, and nothing else does. -/
theorem step_append (p : Program) (next : Option Char) (ts us : List Thread) :
    step p next (ts ++ us) =
      if (step p next ts).2.isSome then step p next ts
      else ((step p next ts).1 ++ (step p next us).1, (step p next us).2) := by
  induction ts with
  | nil => rfl
  | cons t ts ih =>
    rw [List.cons_append, step_cons, step_cons, ih]
    by_cases hdone : p.doneAt t.place = true
    · rw [if_pos hdone, if_pos hdone]
      rfl
    · rw [if_neg hdone, if_neg hdone]
      by_cases hsome : (step p next ts).2.isSome = true
      · rw [if_pos hsome, if_pos hsome]
      · rw [if_neg hsome, if_neg hsome, List.append_assoc]

/-- What is complete after a step was complete before it. -/
theorem exists_of_step_found (h : (step p next ts).2 = some slots) :
    ∃ t ∈ ts, p.doneAt t.place = true ∧ t.slots = slots := by
  induction ts with
  | nil => cases h
  | cons t ts ih =>
    rw [step_cons] at h
    split at h
    · next hdone =>
      cases h
      exact ⟨t, List.mem_cons_self, hdone, rfl⟩
    · obtain ⟨t', ht', hfound⟩ := ih h
      exact ⟨t', List.mem_cons_of_mem t ht', hfound⟩

/-- What is there after a step was moved. -/
theorem exists_of_mem_step (h : u ∈ (step p next ts).1) : ∃ t ∈ ts, p.move next t = some u := by
  induction ts with
  | nil => cases h
  | cons t ts ih =>
    rw [step_cons] at h
    split at h
    · cases h
    · rcases List.mem_append.1 h with h | h
      · exact ⟨t, List.mem_cons_self, Option.mem_toList.1 h⟩
      · obtain ⟨t', ht', hmove⟩ := ih h
        exact ⟨t', List.mem_cons_of_mem t ht', hmove⟩

/-- A complete thread makes a match. -/
theorem isSome_step_found (ht : t ∈ ts) (hdone : p.doneAt t.place = true) :
    (step p next ts).2.isSome = true := by
  induction ts with
  | nil => cases ht
  | cons t' ts ih =>
    rw [step_cons]
    split
    · rfl
    · next hnot =>
      rcases List.mem_cons.1 ht with rfl | ht
      · exact absurd hdone hnot
      · exact ih ht

/-- Where there is no match, nothing is cut. -/
theorem mem_step (hnone : (step p next ts).2 = none) (ht : t ∈ ts)
    (hmove : p.move next t = some u) : u ∈ (step p next ts).1 := by
  induction ts with
  | nil => cases ht
  | cons t' ts ih =>
    rw [step_cons] at hnone ⊢
    split at hnone
    · cases hnone
    · next hnot =>
      rw [if_neg hnot]
      rcases List.mem_cons.1 ht with rfl | ht
      · rw [hmove]
        exact List.mem_append_left _ List.mem_cons_self
      · exact List.mem_append_right _ (ih hnone ht)

/-- **A step of the kept threads**, where no match is left out and what is
kept before the step is kept behind it and nothing else. -/
theorem step_filter (hdone : ∀ q, p.doneAt q = true → keep q = true)
    (hmove : ∀ t u, p.move next t = some u → keep t.place = keep' u.place) :
    step p next (ts.filter fun t => keep t.place) =
      ((step p next ts).1.filter fun t => keep' t.place, (step p next ts).2) := by
  induction ts with
  | nil => rfl
  | cons t ts ih =>
    rw [step_cons]
    by_cases hkeep : keep t.place = true
    · have htake : (t :: ts).filter (fun t => keep t.place) =
          t :: ts.filter fun t => keep t.place := List.filter_cons_of_pos hkeep
      rw [htake, step_cons, ih]
      split
      · rfl
      · rw [List.filter_append]
        cases hu : p.move next t with
        | none => rfl
        | some u =>
          have hkept : [u].filter (fun t => keep' t.place) = [u] :=
            List.filter_cons_of_pos ((hmove t u hu).symm.trans hkeep)
          rw [Option.toList_some, hkept]
    · have hskip : (t :: ts).filter (fun t => keep t.place) =
          ts.filter fun t => keep t.place := List.filter_cons_of_neg hkeep
      rw [hskip, ih, if_neg fun h => hkeep (hdone _ h), List.filter_append]
      cases hu : p.move next t with
      | none => rfl
      | some u =>
        have hgone : [u].filter (fun t => keep' t.place) = [] :=
          List.filter_cons_of_neg fun h => hkeep ((hmove t u hu).trans h)
        rw [Option.toList_some, hgone]
        rfl

end Step

/-! ## What every match has -/

/-- What threads keep from one place of a text to the next, and what it says
of a match, between two places of the text. -/
structure Carries (p : Program) (I : Nat → Thread → Prop) (R : Slots → Prop) (low high : Nat) :
    Prop where
  /-- A thread keeps it when it goes on. -/
  onward : ∀ {i before after t}, low ≤ i → i ≤ high → I i t →
    ∀ u ∈ onward p i before after t, I i u
  /-- A thread keeps it when it moves over a character. -/
  move : ∀ {i next t u}, low ≤ i → i ≤ high → I i t → p.move next t = some u → I (i + 1) u
  /-- It is said of a complete thread. -/
  done : ∀ {i t}, low ≤ i → i ≤ high → I i t → p.doneAt t.place = true → R t.slots

/-- What threads keep where the character at each place is that of a given
text. -/
structure CarriesAlong (p : Program) (text : Nat → Option Char) (I : Nat → Thread → Prop)
    (R : Slots → Prop) (low high : Nat) : Prop where
  /-- A thread keeps it when it goes on. -/
  onward : ∀ {i before after t}, low ≤ i → i ≤ high → I i t →
    ∀ u ∈ onward p i before after t, I i u
  /-- A thread keeps it when it moves over the character of its place. -/
  move : ∀ {i t u}, low ≤ i → i ≤ high → I i t → p.move (text i) t = some u → I (i + 1) u
  /-- It is said of a complete thread. -/
  done : ∀ {i t}, low ≤ i → i ≤ high → I i t → p.doneAt t.place = true → R t.slots

/-- What threads keep whatever the characters are they keep along every
text. -/
theorem Carries.along {p : Program} {I : Nat → Thread → Prop} {R : Slots → Prop}
    {low high : Nat} (h : Carries p I R low high) (text : Nat → Option Char) :
    CarriesAlong p text I R low high :=
  ⟨h.onward, h.move, h.done⟩

theorem mem_starting {p : Program} {best : Option Slots} {t : Thread} (h : t ∈ starting p best) :
    best = none ∧ t = p.outset := by
  rw [starting] at h
  split at h
  · cases h
  · next hnone => exact ⟨Option.not_isSome_iff_eq_none.1 hnone, List.mem_singleton.1 h⟩

section Forall

variable {p : Program} {I : Nat → Thread → Prop} {R : Slots → Prop} {low high index : Nat}
  {before after : Option Char} {threads ts out : List Thread} {best : Option Slots}
  {slots : Slots} {cs : List Char}

theorem Carries.imp (h : Carries p I R low high) {R' : Slots → Prop}
    (himp : ∀ slots, R slots → R' slots) : Carries p I R' low high :=
  ⟨h.onward, h.move, fun hlow hhigh hI hdone => himp _ (h.done hlow hhigh hI hdone)⟩

theorem CarriesAlong.settled {text : Nat → Option Char} (h : CarriesAlong p text I R low high)
    (hlow : low ≤ index) (hhigh : index ≤ high)
    (hsettled : Settled p index before after ts out) (hts : ∀ t ∈ ts, I index t) :
    ∀ t ∈ out, I index t := by
  obtain ⟨seen, hsettles⟩ := hsettled
  exact hsettles.forall hts fun t ht => h.onward hlow hhigh ht

theorem CarriesAlong.step {text : Nat → Option Char} (h : CarriesAlong p text I R low high)
    (hlow : low ≤ index) (hhigh : index ≤ high) (hout : ∀ t ∈ out, I index t) :
    (∀ u ∈ (step p (text index) out).1, I (index + 1) u) ∧
      ∀ slots, (step p (text index) out).2 = some slots → R slots := by
  refine ⟨fun u hu => ?_, fun slots hslots => ?_⟩
  · obtain ⟨t, ht, hmove⟩ := exists_of_mem_step hu
    exact h.move hlow hhigh (hout t ht) hmove
  · obtain ⟨t, ht, hdone, rfl⟩ := exists_of_step_found hslots
    exact h.done hlow hhigh (hout t ht) hdone

theorem Carries.settled (h : Carries p I R low high) (hlow : low ≤ index) (hhigh : index ≤ high)
    (hsettled : Settled p index before after ts out) (hts : ∀ t ∈ ts, I index t) :
    ∀ t ∈ out, I index t :=
  (h.along fun _ => none).settled hlow hhigh hsettled hts

theorem Carries.step (h : Carries p I R low high) (hlow : low ≤ index) (hhigh : index ≤ high)
    (hout : ∀ t ∈ out, I index t) (next : Option Char) :
    (∀ u ∈ (step p next out).1, I (index + 1) u) ∧
      ∀ slots, (step p next out).2 = some slots → R slots :=
  (h.along fun _ => next).step hlow hhigh hout

/-- **What the threads keep holds of the match a walk along a text ends
with.** A thread that starts on the way has it too, unless a match is known
before. -/
theorem walk_forall_along {text : Nat → Option Char} (h : CarriesAlong p text I R low high)
    (htext : ∀ j, text (index + j) = cs[j]?) (hlow : low ≤ index)
    (hhigh : index + cs.length ≤ high) (hthreads : ∀ t ∈ threads, I index t)
    (hstart : best = none → ∀ i, low ≤ i → I i p.outset)
    (hbest : ∀ slots, best = some slots → R slots)
    (hwalk : walk p index before threads best cs = some slots) : R slots := by
  have hpending : ∀ t ∈ threads ++ starting p best, I index t := by
    intro t ht
    rcases List.mem_append.1 ht with ht | ht
    · exact hthreads t ht
    · obtain ⟨hnone, rfl⟩ := mem_starting ht
      exact hstart hnone index hlow
  -- by induction on the text ahead; a thread of the next place was moved there
  -- or starts there
  induction cs generalizing index before threads best with
  | nil =>
    obtain ⟨out, hsettled, heq⟩ := walk_nil_eq p index before threads best
    have hout := h.settled hlow hhigh hsettled hpending
    have hend : text index = none := htext 0
    rw [heq, ← hend] at hwalk
    rcases Option.or_eq_some_iff.1 hwalk with hfound | ⟨-, hbest'⟩
    · exact (h.step hlow hhigh hout).2 slots hfound
    · exact hbest slots hbest'
  | cons c cs ih =>
    rw [List.length_cons] at hhigh
    have hc : text index = some c := htext 0
    have htext' : ∀ j, text (index + 1 + j) = cs[j]? := fun j => by
      rw [Nat.add_assoc, Nat.add_comm 1 j, htext, List.getElem?_cons_succ]
    obtain ⟨out, hsettled, heq⟩ := walk_cons_eq p index before threads best c cs
    have hout := h.settled hlow (by omega) hsettled hpending
    obtain ⟨hmoved, hfound⟩ := h.step hlow (by omega) hout
    rw [hc] at hmoved hfound
    have hbest' : ∀ slots, (step p (some c) out).2.or best = some slots → R slots := by
      intro slots hslots
      rcases Option.or_eq_some_iff.1 hslots with hslots | ⟨-, hslots⟩
      · exact hfound slots hslots
      · exact hbest slots hslots
    have hstart' : (step p (some c) out).2.or best = none → ∀ i, low ≤ i → I i p.outset :=
      fun hnone => hstart (Option.or_eq_none_iff.1 hnone).2
    rw [heq] at hwalk
    refine ih htext' (by omega) (by omega) hmoved hstart' hbest' hwalk fun t ht => ?_
    rcases List.mem_append.1 ht with ht | ht
    · exact hmoved t ht
    · obtain ⟨hnone, rfl⟩ := mem_starting ht
      exact hstart' hnone (index + 1) (by omega)

/-- **What the threads keep holds of the match a walk ends with.** -/
theorem walk_forall (h : Carries p I R low high) (hlow : low ≤ index)
    (hhigh : index + cs.length ≤ high) (hthreads : ∀ t ∈ threads, I index t)
    (hstart : best = none → ∀ i, low ≤ i → I i p.outset)
    (hbest : ∀ slots, best = some slots → R slots)
    (hwalk : walk p index before threads best cs = some slots) : R slots := by
  have htext : ∀ j, cs[index + j - index]? = cs[j]? := fun j => by rw [Nat.add_sub_cancel_left]
  exact walk_forall_along (h.along fun i => cs[i - index]?) htext hlow hhigh hthreads hstart hbest
    hwalk

/-- A match that is known is not lost. -/
theorem exists_walk_some (p : Program) (index : Nat) (before : Option Char)
    (threads : List Thread) (slots : Slots) (cs : List Char) :
    ∃ slots', walk p index before threads (some slots) cs = some slots' := by
  induction cs generalizing index before threads slots with
  | nil =>
    obtain ⟨out, -, heq⟩ := walk_nil_eq p index before threads (some slots)
    rw [heq]
    cases (step p none out).2 with
    | none => exact ⟨slots, rfl⟩
    | some found => exact ⟨found, rfl⟩
  | cons c cs ih =>
    obtain ⟨out, -, heq⟩ := walk_cons_eq p index before threads (some slots) c cs
    rw [heq]
    cases (step p (some c) out).2 with
    | none => exact ih _ _ _ _
    | some found => exact ih _ _ _ _

end Forall

/-! ## The places that are remembered -/

/-- The slots of a program hold places from `low` to `high`. -/
def Remembers (p : Program) (low high : Nat) (slots : Slots) : Prop :=
  slots.size = 2 * p.groups ∧ ∀ k x : Nat, slots[k]? = some (some x) → low ≤ x ∧ x ≤ high

/-- A thread at place `i` of the text. Where its match is complete, it ends
there. -/
def OnTime (p : Program) (low i : Nat) (t : Thread) : Prop :=
  Remembers p low i t.slots ∧ (p.doneAt t.place = true → t.slots[1]? = some (some i))

/-- A match that ends from `low` to `high` and remembers nothing before
`first` or behind its end. -/
def Sound (p : Program) (first low high : Nat) (slots : Slots) : Prop :=
  ∃ stop, slots[1]? = some (some stop) ∧ low ≤ stop ∧ stop ≤ high ∧ Remembers p first stop slots

section Places

variable {p : Program} {low high index i : Nat} {before after next : Option Char}
  {t u : Thread} {slots : Slots}

theorem remembers_outset (p : Program) (low high : Nat) : Remembers p low high p.outset.slots := by
  refine ⟨Array.size_replicate, fun k x hx => ?_⟩
  rw [Program.outset, Array.getElem?_replicate] at hx
  split at hx <;> cases hx

/-- Remembering a place that is not out of order. -/
theorem Remembers.set (h : Remembers p low index slots) (hlow : low ≤ index) (slot : Nat) :
    Remembers p low index (slots.setIfInBounds slot (some index)) := by
  obtain ⟨hsize, hplaces⟩ := h
  refine ⟨by rw [Array.size_setIfInBounds, hsize], fun k x hx => ?_⟩
  by_cases hk : slot = k
  · rw [hk, Array.getElem?_setIfInBounds_self] at hx
    split at hx
    · cases hx
      exact ⟨hlow, Nat.le_refl _⟩
    · cases hx
  · rw [Array.getElem?_setIfInBounds_ne hk] at hx
    exact hplaces k x hx

theorem Remembers.mono (h : Remembers p low index slots) (hle : index ≤ high) :
    Remembers p low high slots :=
  ⟨h.1, fun k x hx => ⟨(h.2 k x hx).1, (h.2 k x hx).2.trans hle⟩⟩

/-- What a thread goes on to is the target of its instruction. -/
theorem mem_onward (h : u ∈ onward p index before after t) :
    ∃ c, p.code[t.place]? = some c ∧ c.waits = false ∧ u.place ∈ c.targets ∧
      (u.slots = t.slots ∨
        ∃ slot, c = .save slot u.place ∧ u.slots = t.slots.setIfInBounds slot (some index)) := by
  rw [onward] at h
  split at h
  · next l next hcode =>
    split at h
    · rw [List.mem_singleton.1 h]
      exact ⟨_, hcode, rfl, List.mem_cons_self, .inl rfl⟩
    · cases h
  · next first second hcode =>
    rcases List.mem_cons.1 h with rfl | h
    · exact ⟨_, hcode, rfl, List.mem_cons_self, .inl rfl⟩
    · rw [List.mem_singleton.1 h]
      exact ⟨_, hcode, rfl, List.mem_cons_of_mem _ List.mem_cons_self, .inl rfl⟩
  · next slot next hcode =>
    rw [List.mem_singleton.1 h]
    exact ⟨_, hcode, rfl, List.mem_cons_self, .inr ⟨slot, rfl, rfl⟩⟩
  · cases h

/-- A thread waits nowhere with a match before its end is remembered. -/
theorem OnTime.onward (hp : Framed p) (hlow : low ≤ i) (h : OnTime p low i t)
    (hu : u ∈ onward p i before after t) : OnTime p low i u := by
  obtain ⟨c, hcode, -, htarget, hslots⟩ := mem_onward hu
  refine ⟨?_, fun hdone => ?_⟩
  · rcases hslots with heq | ⟨slot, -, heq⟩
    · rw [heq]
      exact h.1
    · rw [heq]
      exact h.1.set hlow slot
  · -- the only way to the match is the instruction that remembers its end
    have hzero := hp.done u.place (Program.doneAt_iff.1 hdone)
    have hc := hp.stop t.place c hcode (hzero ▸ htarget)
    have hin : 1 < t.slots.size := by
      have := hp.groups
      rw [h.1.1]
      omega
    rw [hc] at hcode
    rw [Regex.onward, hcode] at hu
    rw [List.mem_singleton.1 hu]
    exact Array.getElem?_setIfInBounds_self_of_lt hin

theorem OnTime.move (hp : Framed p) (h : OnTime p low i t) (hu : p.move next t = some u) :
    OnTime p low (i + 1) u := by
  obtain ⟨s, c, hcode, -, -, hslots⟩ := Program.move_eq_some hu
  refine ⟨by rw [hslots]; exact h.1.mono (Nat.le_succ i), fun hdone => ?_⟩
  have hzero := hp.done u.place (Program.doneAt_iff.1 hdone)
  have hsave := hp.stop t.place _ hcode (hzero ▸ List.mem_cons_self)
  cases hsave

theorem onTime_outset (hp : Framed p) (low i : Nat) : OnTime p low i p.outset := by
  refine ⟨remembers_outset p low i, fun hdone => ?_⟩
  obtain ⟨next, hstart⟩ := hp.start
  have hnot := Program.doneAt_iff.1 hdone
  rw [Program.outset, hstart] at hnot
  cases hnot

theorem carries_onTime (hp : Framed p) {first : Nat} (hfirst : first ≤ low) (high : Nat) :
    Carries p (OnTime p first) (Sound p first low high) low high where
  onward := fun hlow _ h _ hu => h.onward hp (hfirst.trans hlow) hu
  move := fun _ _ h hu => h.move hp hu
  done := fun {i _} hlow hhigh h hdone => ⟨i, h.2 hdone, hlow, hhigh, h.1⟩

/-- **A match lies where it was searched for**, and remembers nothing from
outside of it. -/
theorem Program.searchFrom_sound (hp : Framed p) {k : Cursor} (h : p.searchFrom k = some slots) :
    Sound p k.index k.index (k.index + k.rest.length) slots :=
  walk_forall (carries_onTime hp (Nat.le_refl _) _) (Nat.le_refl _) (Nat.le_refl _)
    (fun t ht => absurd ht List.not_mem_nil) (fun _ i _ => onTime_outset hp _ i)
    (fun _ hnone => absurd hnone (by simp)) h

end Places

/-! ## One match after the other -/

section All

variable {p : Program} {i a b : Nat} {slots : Slots}

theorem groupRange_eq_some (h : groupRange slots i = some (a, b)) :
    slots[2 * i]? = some (some a) ∧ slots[2 * i + 1]? = some (some b) := by
  rw [groupRange] at h
  split at h
  · next ha hb =>
    cases h
    exact ⟨ha, hb⟩
  · cases h

/-- The range of a match is in order and lies where it was searched for. -/
theorem Sound.range {first low high : Nat} (h : Sound p first low high slots)
    (hrange : groupRange slots 0 = some (a, b)) : first ≤ a ∧ a ≤ b ∧ b ≤ high := by
  obtain ⟨ha, hb⟩ := groupRange_eq_some hrange
  obtain ⟨stop, hstop, -, hhigh, -, hplaces⟩ := h
  rw [hb] at hstop
  cases hstop
  exact ⟨(hplaces 0 a ha).1, (hplaces 0 a ha).2, hhigh⟩

/-- **Matches follow each other**, and each is the first one from some place
on. -/
theorem searchAllFrom_sound (hp : Framed p) (fuel : Nat) (resumed : Bool) (k : Cursor) :
    Ascending k.index ((searchAllFrom p fuel resumed k).filterMap (groupRange · 0)) ∧
      ∀ slots ∈ searchAllFrom p fuel resumed k, ∃ k', p.searchFrom k' = some slots ∧
        k.index ≤ k'.index ∧ k'.rest = k.rest.drop (k'.index - k.index) := by
  induction fuel generalizing resumed k with
  | zero => exact ⟨trivial, fun slots hslots => absurd hslots List.not_mem_nil⟩
  | succ fuel ih =>
    -- the search goes on from a place further on
    have hon : ∀ n resumed', n ≤ k.rest.length →
        Ascending (k.index + n)
          ((searchAllFrom p fuel resumed' (k.advance n)).filterMap (groupRange · 0)) ∧
        ∀ slots ∈ searchAllFrom p fuel resumed' (k.advance n), ∃ k',
          p.searchFrom k' = some slots ∧ k.index ≤ k'.index ∧
            k'.rest = k.rest.drop (k'.index - k.index) := by
      intro n resumed' hn
      obtain ⟨hindex, hrest⟩ := advance_eq k hn
      obtain ⟨hascending, hmem⟩ := ih resumed' (k.advance n)
      rw [hindex] at hascending hmem
      refine ⟨hascending, fun slots hslots => ?_⟩
      obtain ⟨k', hsearch, hle, hrest'⟩ := hmem slots hslots
      refine ⟨k', hsearch, by omega, ?_⟩
      rw [hrest', hrest, List.drop_drop, show n + (k'.index - (k.index + n)) =
        k'.index - k.index by omega]
    rw [searchAllFrom]
    cases hsearch : p.searchFrom k with
    | none => exact ⟨trivial, fun slots hslots => absurd hslots List.not_mem_nil⟩
    | some found =>
      simp only
      cases hrange : groupRange found 0 with
      | none => exact ⟨trivial, fun slots hslots => absurd hslots List.not_mem_nil⟩
      | some m =>
        obtain ⟨i, j⟩ := m
        obtain ⟨hfirst, hle, hlast⟩ := (p.searchFrom_sound hp hsearch).range hrange
        simp only
        split
        · split
          · exact ⟨trivial, fun slots hslots => absurd hslots List.not_mem_nil⟩
          · next hmore =>
            have hpos : 1 ≤ k.rest.length := by
              rw [List.isEmpty_iff] at hmore
              exact List.length_pos_iff.2 hmore
            obtain ⟨hascending, hmem⟩ := hon 1 false hpos
            exact ⟨hascending.mono (Nat.le_succ _), hmem⟩
        · obtain ⟨hascending, hmem⟩ := hon (j - k.index) true (by omega)
          rw [List.filterMap_cons, hrange]
          refine ⟨⟨hfirst, hle, ?_⟩, fun slots hslots => ?_⟩
          · rwa [show k.index + (j - k.index) = j by omega] at hascending
          · rcases List.mem_cons.1 hslots with rfl | hslots
            · exact ⟨k, hsearch, Nat.le_refl _, by rw [Nat.sub_self]; rfl⟩
            · exact hmem slots hslots

end All

end Regex
end CodeDesk
