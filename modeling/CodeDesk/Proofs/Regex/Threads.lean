import CodeDesk.Proofs.Regex.Literal
import Mathlib.Data.Finset.Card
/-!
# Threads — what one place of a text does to them

At each place of a text the threads are followed to instructions that wait.
`follow` does this on a stack, with a set of bits and with fuel; here it is a
relation without either (`Settles`), and that the fuel is enough is shown
once (`exists_settles`), by counting the instructions that were not yet
entered. A walk is then one settling and one step for each character
(`walk_cons_eq`), and everything said of walks is read off these two.

The relation takes a set of instructions that are kept, since which threads
matter depends on what is asked. With all of them kept it is what `follow`
computes; that it says the same of the kept threads whatever the others are
is `Settles.filter`.
-/

namespace CodeDesk
namespace Regex

/-- Whether a thread waits at an instruction. -/
def Instruction.waits : Instruction → Bool
  | .char _ _ => true
  | .done => true
  | _ => false

/-- Whether a thread waits at a place of the program: for a character, or
with a match. -/
def Program.waitsAt (p : Program) (q : Nat) : Bool := p.code[q]?.any (·.waits)

/-- The threads that a thread goes on to at once, preferred one first. -/
def onward (p : Program) (index : Nat) (before after : Option Char) (t : Thread) : List Thread :=
  match p.code[t.place]? with
  | some (.look l next) => if l.holds before after then [⟨next, t.slots⟩] else []
  | some (.fork first second) => [⟨first, t.slots⟩, ⟨second, t.slots⟩]
  | some (.save slot next) => [⟨next, t.slots.setIfInBounds slot (some index)⟩]
  | _ => []

/-- Threads of a stack settle at the instructions they wait at. Instructions
that were `seen` are not entered again, and of the threads that another one
goes on to only those at `keep` instructions are looked at. -/
inductive Settles (p : Program) (index : Nat) (before after : Option Char) (keep : Nat → Bool) :
    (seen : List Nat) → (stack : List Thread) → (seen' : List Nat) → (out : List Thread) → Prop
  /-- No thread is left. -/
  | nil {seen : List Nat} : Settles p index before after keep seen [] seen []
  /-- The instruction was entered before. -/
  | again {seen seen' : List Nat} {t : Thread} {stack out : List Thread} :
      t.place ∈ seen → Settles p index before after keep seen stack seen' out →
      Settles p index before after keep seen (t :: stack) seen' out
  /-- The thread waits. -/
  | wait {seen seen' : List Nat} {t : Thread} {stack out : List Thread} :
      t.place ∉ seen → p.waitsAt t.place = true →
      Settles p index before after keep (t.place :: seen) stack seen' out →
      Settles p index before after keep seen (t :: stack) seen' (t :: out)
  /-- The thread goes on. -/
  | pass {seen seen' : List Nat} {t : Thread} {stack out : List Thread} :
      t.place ∉ seen → p.waitsAt t.place = false →
      Settles p index before after keep (t.place :: seen)
        ((onward p index before after t).filter (fun u => keep u.place) ++ stack) seen' out →
      Settles p index before after keep seen (t :: stack) seen' out

/-- Every instruction is kept. -/
def all : Nat → Bool := fun _ => true

/-- Threads settle, where no instruction was entered before. -/
def Settled (p : Program) (index : Nat) (before after : Option Char) (ts out : List Thread) :
    Prop :=
  ∃ seen, Settles p index before after all [] ts seen out

section Settling

variable {p : Program} {index : Nat} {before after : Option Char} {keep : Nat → Bool}
  {seen seen' seen'' : List Nat} {t : Thread} {stack out out' ts ys : List Thread}

/-- What settles waits. -/
theorem Settles.waits (h : Settles p index before after keep seen stack seen' out) :
    ∀ t ∈ out, p.waitsAt t.place = true := by
  induction h with
  | nil => exact fun t ht => absurd ht List.not_mem_nil
  | again _ _ ih => exact ih
  | wait _ hwaits _ ih => exact List.forall_mem_cons.2 ⟨hwaits, ih⟩
  | pass _ _ _ ih => exact ih

/-- **Threads settle in one way.** -/
theorem Settles.unique (h : Settles p index before after keep seen stack seen' out)
    (h' : Settles p index before after keep seen stack seen'' out') :
    seen' = seen'' ∧ out = out' := by
  induction h generalizing seen'' out' with
  | nil =>
    cases h'
    exact ⟨rfl, rfl⟩
  | again hin _ ih =>
    cases h' with
    | again _ h' => exact ih h'
    | wait hnot => exact absurd hin hnot
    | pass hnot => exact absurd hin hnot
  | wait hnot hwaits _ ih =>
    cases h' with
    | again hin => exact absurd hin hnot
    | wait _ _ h' =>
      obtain ⟨hseen, hout⟩ := ih h'
      exact ⟨hseen, by rw [hout]⟩
    | pass _ hno => exact absurd (hwaits.symm.trans hno) Bool.noConfusion
  | pass hnot hno _ ih =>
    cases h' with
    | again hin => exact absurd hin hnot
    | wait _ hwaits => exact absurd (hwaits.symm.trans hno) Bool.noConfusion
    | pass _ _ h' => exact ih h'

/-- **What holds of all threads on the way** holds of those that settle. -/
theorem Settles.forall {I : Thread → Prop}
    (h : Settles p index before after keep seen stack seen' out) (hstack : ∀ t ∈ stack, I t)
    (honward : ∀ t, I t → ∀ u ∈ onward p index before after t, I u) : ∀ t ∈ out, I t := by
  induction h with
  | nil => exact fun t ht => absurd ht List.not_mem_nil
  | again _ _ ih => exact ih fun t ht => hstack t (List.mem_cons_of_mem _ ht)
  | wait _ _ _ ih =>
    obtain ⟨hfirst, hrest⟩ := List.forall_mem_cons.1 hstack
    exact List.forall_mem_cons.2 ⟨hfirst, ih hrest⟩
  | pass _ _ _ ih =>
    obtain ⟨hfirst, hrest⟩ := List.forall_mem_cons.1 hstack
    refine ih fun u hu => ?_
    rcases List.mem_append.1 hu with hu | hu
    · exact honward _ hfirst u (List.mem_filter.1 hu).1
    · exact hrest u hu

/-- **Threads in front settle first**, and those behind them find their
instructions entered. -/
theorem Settles.split (h : Settles p index before after keep seen (ts ++ ys) seen'' out) :
    ∃ seen' front back, Settles p index before after keep seen ts seen' front ∧
      Settles p index before after keep seen' ys seen'' back ∧ out = front ++ back := by
  generalize hstack : ts ++ ys = stack at h
  -- by induction on how the whole stack settles; what the first thread goes on
  -- to is in front again
  induction h generalizing ts with
  | @nil seen =>
    obtain ⟨rfl, rfl⟩ := List.append_eq_nil_iff.1 hstack
    exact ⟨seen, [], [], .nil, .nil, rfl⟩
  | @again seen seen' t stack out hin hrest ih =>
    cases ts with
    | nil =>
      rw [List.nil_append] at hstack
      subst hstack
      exact ⟨seen, [], out, .nil, .again hin hrest, rfl⟩
    | cons u ts =>
      obtain ⟨rfl, htail⟩ := List.cons.inj hstack
      obtain ⟨mid, front, back, hfront, hback, hout⟩ := ih htail
      exact ⟨mid, front, back, .again hin hfront, hback, hout⟩
  | @wait seen seen' t stack out hnot hwaits hrest ih =>
    cases ts with
    | nil =>
      rw [List.nil_append] at hstack
      subst hstack
      exact ⟨seen, [], t :: out, .nil, .wait hnot hwaits hrest, rfl⟩
    | cons u ts =>
      obtain ⟨rfl, htail⟩ := List.cons.inj hstack
      obtain ⟨mid, front, back, hfront, hback, hout⟩ := ih htail
      exact ⟨mid, u :: front, back, .wait hnot hwaits hfront, hback, by rw [hout]; rfl⟩
  | @pass seen seen' t stack out hnot hno hrest ih =>
    cases ts with
    | nil =>
      rw [List.nil_append] at hstack
      subst hstack
      exact ⟨seen, [], out, .nil, .pass hnot hno hrest, rfl⟩
    | cons u ts =>
      obtain ⟨rfl, htail⟩ := List.cons.inj hstack
      obtain ⟨mid, front, back, hfront, hback, hout⟩ :=
        ih ((List.append_assoc _ _ _).trans (congrArg _ htail))
      exact ⟨mid, front, back, .pass hnot hno hfront, hback, hout⟩

/-- **The kept threads do not depend on the others**, as long as a thread
that is not kept goes on to none that is. -/
theorem Settles.filter (h : Settles p index before after all seen stack seen' out)
    (keep : Nat → Bool) (hclosed : ∀ t : Thread, keep t.place = false →
      ∀ u ∈ onward p index before after t, keep u.place = false) :
    Settles p index before after keep (seen.filter keep) (stack.filter fun t => keep t.place)
      (seen'.filter keep) (out.filter fun t => keep t.place) := by
  have htake : ∀ {t : Thread} (ts : List Thread), keep t.place = true →
      (t :: ts).filter (fun t => keep t.place) = t :: ts.filter fun t => keep t.place :=
    fun ts hkeep => List.filter_cons_of_pos hkeep
  have hskip : ∀ {t : Thread} (ts : List Thread), ¬keep t.place = true →
      (t :: ts).filter (fun t => keep t.place) = ts.filter fun t => keep t.place :=
    fun ts hkeep => List.filter_cons_of_neg hkeep
  induction h with
  | nil => exact .nil
  | @again seen seen' t stack out hin _ ih =>
    by_cases hkeep : keep t.place = true
    · rw [htake stack hkeep]
      exact .again (List.mem_filter.2 ⟨hin, hkeep⟩) ih
    · rw [hskip stack hkeep]
      exact ih
  | @wait seen seen' t stack out hnot hwaits _ ih =>
    by_cases hkeep : keep t.place = true
    · rw [List.filter_cons_of_pos hkeep] at ih
      rw [htake stack hkeep, htake out hkeep]
      exact .wait (fun hin => hnot (List.mem_filter.1 hin).1) hwaits ih
    · rw [List.filter_cons_of_neg hkeep] at ih
      rw [hskip stack hkeep, hskip out hkeep]
      exact ih
  | @pass seen seen' t stack out hnot hno _ ih =>
    have hall : (onward p index before after t).filter (fun u => all u.place) =
        onward p index before after t := List.filter_eq_self.2 fun _ _ => rfl
    rw [hall, List.filter_append] at ih
    by_cases hkeep : keep t.place = true
    · rw [List.filter_cons_of_pos hkeep] at ih
      rw [htake stack hkeep]
      exact .pass (fun hin => hnot (List.mem_filter.1 hin).1) hno ih
    · -- neither the thread nor anything it goes on to is kept
      have hnone : (onward p index before after t).filter (fun u => keep u.place) = [] := by
        refine List.filter_eq_nil_iff.2 fun u hu => ?_
        rw [hclosed t (Bool.eq_false_iff.2 hkeep) u hu]
        exact Bool.false_ne_true
      rw [List.filter_cons_of_neg hkeep, hnone, List.nil_append] at ih
      rw [hskip stack hkeep]
      exact ih

/-- **Nothing that can be entered is left out**: of an instruction that was
entered, a thread settled, or else all it leads to was entered. -/
theorem Settles.entered (h : Settles p index before after all seen stack seen' out) :
    (∀ q ∈ seen, q ∈ seen') ∧ (∀ t ∈ stack, t.place ∈ seen') ∧
      ∀ q ∈ seen', q ∈ seen ∨ (p.waitsAt q = true ∧ ∃ t ∈ out, t.place = q) ∨
        (p.waitsAt q = false ∧ ∃ t : Thread, t.place = q ∧
          ∀ u ∈ onward p index before after t, u.place ∈ seen') := by
  induction h with
  | nil => exact ⟨fun _ hq => hq, fun t ht => absurd ht List.not_mem_nil, fun _ hq => .inl hq⟩
  | again hin _ ih =>
    obtain ⟨hseen, hstack, hclosed⟩ := ih
    exact ⟨hseen, List.forall_mem_cons.2 ⟨hseen _ hin, hstack⟩, hclosed⟩
  | @wait seen seen' t stack out hnot hwaits _ ih =>
    obtain ⟨hseen, hstack, hclosed⟩ := ih
    obtain ⟨hfirst, hseen⟩ := List.forall_mem_cons.1 hseen
    refine ⟨hseen, List.forall_mem_cons.2 ⟨hfirst, hstack⟩, fun q hq => ?_⟩
    rcases hclosed q hq with hin | ⟨hw, u, hu, hplace⟩ | hon
    · rcases List.mem_cons.1 hin with rfl | hin
      · exact .inr (.inl ⟨hwaits, t, List.mem_cons_self, rfl⟩)
      · exact .inl hin
    · exact .inr (.inl ⟨hw, u, List.mem_cons_of_mem t hu, hplace⟩)
    · exact .inr (.inr hon)
  | @pass seen seen' t stack out hnot hno _ ih =>
    obtain ⟨hseen, hstack, hclosed⟩ := ih
    obtain ⟨hfirst, hseen⟩ := List.forall_mem_cons.1 hseen
    refine ⟨hseen, List.forall_mem_cons.2 ⟨hfirst, fun u hu =>
      hstack u (List.mem_append_right _ hu)⟩, fun q hq => ?_⟩
    rcases hclosed q hq with hin | hw | hon
    · rcases List.mem_cons.1 hin with rfl | hin
      · refine .inr (.inr ⟨hno, t, rfl, fun u hu => ?_⟩)
        exact hstack u (List.mem_append_left _ (List.mem_filter.2 ⟨hu, rfl⟩))
      · exact .inl hin
    · exact .inr (.inl hw)
    · exact .inr (.inr hon)

theorem Settled.unique (h : Settled p index before after ts out)
    (h' : Settled p index before after ts out') : out = out' := by
  obtain ⟨seen, hsettles⟩ := h
  obtain ⟨seen', hsettles'⟩ := h'
  exact (hsettles.unique hsettles').2

end Settling

/-! ## The fuel is enough -/

/-- The instructions that were not entered. -/
def unseen (p : Program) (seen : List Nat) : Finset Nat :=
  (Finset.range p.code.size).filter (· ∉ seen)

/-- Entering one leaves fewer. -/
theorem card_unseen_cons {p : Program} {seen : List Nat} {q : Nat} (hnot : q ∉ seen)
    (hq : q < p.code.size) : (unseen p (q :: seen)).card < (unseen p seen).card := by
  refine Finset.card_lt_card ⟨fun x hx => ?_, fun hsub => ?_⟩
  · obtain ⟨hrange, hout⟩ := Finset.mem_filter.1 hx
    exact Finset.mem_filter.2 ⟨hrange, fun hin => hout (List.mem_cons_of_mem q hin)⟩
  · have hin : q ∈ unseen p (q :: seen) :=
      hsub (Finset.mem_filter.2 ⟨Finset.mem_range.2 hq, hnot⟩)
    exact (Finset.mem_filter.1 hin).2 List.mem_cons_self

theorem card_unseen_le (p : Program) (seen : List Nat) (q : Nat) :
    (unseen p (q :: seen)).card ≤ (unseen p seen).card := by
  refine Finset.card_le_card fun x hx => ?_
  obtain ⟨hrange, hout⟩ := Finset.mem_filter.1 hx
  exact Finset.mem_filter.2 ⟨hrange, fun hin => hout (List.mem_cons_of_mem q hin)⟩

/-- A thread goes on to two threads at most, and to none from outside of the
program. -/
theorem length_onward (p : Program) (index : Nat) (before after : Option Char) (t : Thread) :
    (onward p index before after t).length ≤ if t.place < p.code.size then 2 else 0 := by
  by_cases hlt : t.place < p.code.size
  · rw [if_pos hlt, onward]
    split
    · split <;> simp
    · simp
    · simp
    · simp
  · have hnone : p.code[t.place]? = none := Array.getElem?_eq_none (Nat.le_of_not_lt hlt)
    rw [onward, hnone]
    exact Nat.zero_le _

/-- Following a thread is going on from it. -/
theorem follow_cons (p : Program) (index : Nat) (before after : Option Char) (fuel mask : Nat)
    (waiting stack : List Thread) (t : Thread) :
    follow p index before after (fuel + 1) mask waiting (t :: stack) =
      if mask.testBit t.place then follow p index before after fuel mask waiting stack
      else follow p index before after fuel (mask ||| 1 <<< t.place)
        (if p.waitsAt t.place then t :: waiting else waiting)
        (onward p index before after t ++ stack) := by
  rw [follow]
  split
  · rfl
  · rw [onward, Program.waitsAt]
    cases p.code[t.place]? with
    | none => rfl
    | some i =>
      cases i with
      | look l next =>
        dsimp only
        split <;> rfl
      | _ => rfl

/-- **Following threads is letting them settle**, with fuel for each thread
on the stack and two more for each instruction that was not entered. -/
theorem exists_settles (p : Program) (index : Nat) (before after : Option Char) {fuel mask : Nat}
    {seen : List Nat} {stack : List Thread} (waiting : List Thread)
    (hmask : ∀ q, mask.testBit q = decide (q ∈ seen))
    (hfuel : stack.length + 2 * (unseen p seen).card ≤ fuel) :
    ∃ seen' out, Settles p index before after all seen stack seen' out ∧
      (follow p index before after fuel mask waiting stack).2 = out.reverse ++ waiting := by
  induction fuel generalizing mask seen stack waiting with
  | zero =>
    have hnil : stack = [] := List.length_eq_zero_iff.1 (by omega)
    subst hnil
    exact ⟨seen, [], .nil, rfl⟩
  | succ fuel ih =>
    cases stack with
    | nil => exact ⟨seen, [], .nil, rfl⟩
    | cons t stack =>
      rw [List.length_cons] at hfuel
      rw [follow_cons, hmask]
      by_cases hin : t.place ∈ seen
      · rw [if_pos (decide_eq_true hin)]
        have hless : stack.length + 2 * (unseen p seen).card ≤ fuel := by omega
        obtain ⟨seen', out, hsettles, hfollow⟩ := ih waiting hmask hless
        exact ⟨seen', out, .again hin hsettles, hfollow⟩
      · rw [if_neg (by simp [hin])]
        have hmask' : ∀ q, (mask ||| 1 <<< t.place).testBit q = decide (q ∈ t.place :: seen) := by
          intro q
          rw [Nat.testBit_or, hmask, Nat.one_shiftLeft, Nat.testBit_two_pow, Bool.eq_iff_iff]
          simp only [Bool.or_eq_true, decide_eq_true_eq, List.mem_cons]
          exact ⟨fun h => h.elim .inr fun heq => .inl heq.symm,
            fun h => h.elim (fun heq => .inr heq.symm) .inl⟩
        -- one thread becomes two at most, and one instruction less is left
        have hless : (onward p index before after t ++ stack).length +
            2 * (unseen p (t.place :: seen)).card ≤ fuel := by
          have hlength := length_onward p index before after t
          have hle := card_unseen_le p seen t.place
          rw [List.length_append]
          split at hlength
          · next hlt =>
            have hcard := card_unseen_cons hin hlt
            omega
          · omega
        obtain ⟨seen', out, hsettles, hfollow⟩ :=
          ih (if p.waitsAt t.place then t :: waiting else waiting) hmask' hless
        by_cases hwaits : p.waitsAt t.place = true
        · have hnone : onward p index before after t = [] := by
            rw [onward]
            rw [Program.waitsAt] at hwaits
            cases hcode : p.code[t.place]? with
            | none => rfl
            | some i =>
              rw [hcode] at hwaits
              cases i with
              | char s next => rfl
              | done => rfl
              | _ => cases hwaits
          rw [hnone, List.nil_append] at hsettles
          refine ⟨seen', t :: out, .wait hin hwaits hsettles, ?_⟩
          rw [hfollow, if_pos hwaits, List.reverse_cons, List.append_assoc]
          rfl
        · rw [Bool.not_eq_true] at hwaits
          have hall : (onward p index before after t).filter (fun u => all u.place) =
              onward p index before after t := List.filter_eq_self.2 fun _ _ => rfl
          refine ⟨seen', out, .pass hin hwaits (by rwa [hall]), ?_⟩
          rw [hfollow, if_neg (by rw [hwaits]; exact Bool.false_ne_true)]

theorem exists_settled (p : Program) (index : Nat) (before after : Option Char)
    (ts : List Thread) :
    ∃ out, Settled p index before after ts out ∧
      (follow p index before after (2 * p.code.size + ts.length + 1) 0 [] ts).2.reverse = out := by
  have hcard : (unseen p []).card ≤ p.code.size := by
    refine (Finset.card_filter_le _ _).trans ?_
    rw [Finset.card_range]
  have hmask : ∀ q, Nat.testBit 0 q = decide (q ∈ ([] : List Nat)) := fun q => by simp
  have hfuel : ts.length + 2 * (unseen p []).card ≤ 2 * p.code.size + ts.length + 1 := by omega
  obtain ⟨seen, out, hsettles, hfollow⟩ := exists_settles p index before after [] hmask hfuel
  exact ⟨out, ⟨seen, hsettles⟩, by rw [hfollow, List.append_nil, List.reverse_reverse]⟩

/-! ## Walks -/

/-- The thread that starts at a place of the text. -/
def Program.outset (p : Program) : Thread := ⟨p.entry, Array.replicate (2 * p.groups) none⟩

/-- The threads that start at a place of the text: one, as long as no match
is known. -/
def starting (p : Program) (best : Option Slots) : List Thread :=
  if best.isSome then [] else [p.outset]

section Walk

variable (p : Program) (index : Nat) (before : Option Char) (threads : List Thread)
  (best : Option Slots)

/-- **At the end of the text** the first thread with a match wins. -/
theorem walk_nil_eq : ∃ out, Settled p index before none (threads ++ starting p best) out ∧
    walk p index before threads best [] = (step p none out).2.or best := by
  obtain ⟨out, hsettled, hfollow⟩ :=
    exists_settled p index before none (threads ++ starting p best)
  refine ⟨out, hsettled, ?_⟩
  have hstarting : (if best.isSome then [] else
      [(⟨p.entry, Array.replicate (2 * p.groups) none⟩ : Thread)]) = starting p best := rfl
  rw [walk]
  simp only [hstarting, hfollow]
  cases (step p none out).2 <;> rfl

/-- **Over a character** the threads settle and make one step. -/
theorem walk_cons_eq (c : Char) (cs : List Char) :
    ∃ out, Settled p index before (some c) (threads ++ starting p best) out ∧
      walk p index before threads best (c :: cs) =
        walk p (index + 1) (some c) (step p (some c) out).1
          ((step p (some c) out).2.or best) cs := by
  obtain ⟨out, hsettled, hfollow⟩ :=
    exists_settled p index before (some c) (threads ++ starting p best)
  refine ⟨out, hsettled, ?_⟩
  by_cases hempty : threads ++ starting p best = []
  · -- the shortcut of a walk without threads
    obtain ⟨rfl, hstart⟩ := List.append_eq_nil_iff.1 hempty
    obtain ⟨slots, rfl⟩ : ∃ slots, best = some slots := by
      rw [starting] at hstart
      split at hstart
      · next hsome => exact Option.isSome_iff_exists.1 hsome
      · cases hstart
    have hout : out = [] := by
      rw [hempty] at hsettled
      obtain ⟨seen, hsettles⟩ := hsettled
      cases hsettles
      rfl
    rw [hout, walk_settled]
    exact (walk_settled p _ _ _ _).symm
  · have hstarting : (if best.isSome then [] else
        [(⟨p.entry, Array.replicate (2 * p.groups) none⟩ : Thread)]) = starting p best := rfl
    have hpending : ¬(threads ++ starting p best).isEmpty = true := by rwa [List.isEmpty_iff]
    rw [walk]
    simp only [hstarting, hfollow, if_neg hpending]
    rcases step p (some c) out with ⟨moved, _ | slots⟩ <;> rfl

end Walk

end Regex
end CodeDesk
