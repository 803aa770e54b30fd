import CodeDesk.Proofs.Regex.Walk
import CodeDesk.Regex.Replace
/-!
# Alone — the text of a match by itself

Without conditions on the place a program knows nothing of what surrounds a
match. The first match of a text is then found again, with all that it
remembers, in the text it matched (`Program.searchFrom_alone`), and a
replacement is filled in from there with the same parts (`expand_alone`).

Three things are in the way. Threads that started before the match are
still there where it starts: none of them can accept the rest of the text,
since it would win (`walk_front`), and those that cannot accept do not count
(`walk_congr`). What comes behind the match is not read before the match is
known (`walk_take`). And places are counted from elsewhere (`walk_shift`).
-/

namespace CodeDesk
namespace Regex

section Onward

variable {p : Program} {index : Nat} {before after before' after' : Option Char}
  {keep : Nat → Bool} {seen seen' : List Nat} {t : Thread} {stack out : List Thread}

/-- Without conditions, where a thread goes on to does not depend on the
characters around. -/
theorem onward_congr (hp : p.Lookless) :
    onward p index before after t = onward p index before' after' t := by
  rw [onward, onward]
  split
  · next l next hcode => exact absurd hcode (hp t.place l next)
  all_goals rfl

theorem Settles.congr (hp : p.Lookless)
    (h : Settles p index before after keep seen stack seen' out) :
    Settles p index before' after' keep seen stack seen' out := by
  induction h with
  | nil => exact .nil
  | again hin _ ih => exact .again hin ih
  | wait hnot hwaits _ ih => exact .wait hnot hwaits ih
  | @pass seen seen' t stack out hnot hno _ ih =>
    have hsame : onward p index before after t = onward p index before' after' t :=
      onward_congr hp
    rw [hsame] at ih
    exact .pass hnot hno ih

end Onward

/-! ## Threads that can still accept -/

/-- From a place of the program some way leads to a match, over the first of
the characters ahead. -/
inductive Accepts (p : Program) : (q : Nat) → (rest : List Char) → Prop
  /-- There is the match. -/
  | done {q : Nat} {rest : List Char} : p.doneAt q = true → Accepts p q rest
  /-- Over a character. -/
  | char {q target : Nat} {s : Unicode.CharSet} {c : Char} {rest : List Char} :
      p.code[q]? = some (.char s target) → s.contains c = true → Accepts p target rest →
      Accepts p q (c :: rest)
  /-- Over an instruction that does not wait. -/
  | on {q target : Nat} {c : Instruction} {rest : List Char} :
      p.code[q]? = some c → c.waits = false → target ∈ c.targets → Accepts p target rest →
      Accepts p q rest

open Classical in
/-- The places of the program that accept the characters ahead. -/
noncomputable def accepting (p : Program) (rest : List Char) (q : Nat) : Bool :=
  decide (Accepts p q rest)

section Accepting

variable {p : Program} {index q : Nat} {before after before' after' : Option Char}
  {t u : Thread} {ts ts' threads threads' out out' front behind : List Thread}
  {best : Option Slots} {slots : Slots} {c : Char} {cs rest : List Char}
  {I : Nat → Thread → Prop} {R : Slots → Prop} {low high : Nat}

open Classical in
theorem accepting_iff : accepting p rest q = true ↔ Accepts p q rest := decide_eq_true_iff

theorem accepting_eq_false_iff : accepting p rest q = false ↔ ¬Accepts p q rest := by
  rw [← accepting_iff, Bool.not_eq_true]

/-- A thread goes on to every target of its instruction. -/
theorem exists_mem_onward (hp : p.Lookless) {i : Instruction} (hcode : p.code[t.place]? = some i)
    (hwaits : i.waits = false) (hq : q ∈ i.targets) (index : Nat) (before after : Option Char) :
    ∃ u ∈ onward p index before after t, u.place = q := by
  rw [onward, hcode]
  cases i with
  | char s next => cases hwaits
  | done => cases hwaits
  | look l next => exact absurd hcode (hp t.place l next)
  | fork first second =>
    rcases List.mem_cons.1 hq with rfl | hq
    · exact ⟨_, List.mem_cons_self, rfl⟩
    · rw [List.mem_singleton.1 hq]
      exact ⟨_, List.mem_cons_of_mem _ List.mem_cons_self, rfl⟩
  | save slot next =>
    rw [List.mem_singleton.1 hq]
    exact ⟨_, List.mem_cons_self, rfl⟩

/-- A thread that cannot accept goes on to none that can. -/
theorem accepting_onward (h : accepting p rest t.place = false)
    (hu : u ∈ onward p index before after t) : accepting p rest u.place = false := by
  obtain ⟨i, hcode, hwaits, htarget, -⟩ := mem_onward hu
  exact accepting_eq_false_iff.2 fun hacc =>
    accepting_eq_false_iff.1 h (.on hcode hwaits htarget hacc)

/-- A thread that moves accepts before it what it accepts behind it. -/
theorem accepting_move (h : p.move (some c) t = some u) :
    accepting p (c :: cs) t.place = accepting p cs u.place := by
  obtain ⟨s, d, hcode, hd, hin, -⟩ := Program.move_eq_some h
  cases hd
  rw [Bool.eq_iff_iff, accepting_iff, accepting_iff]
  refine ⟨fun hacc => ?_, fun hacc => .char hcode hin hacc⟩
  cases hacc with
  | done hdone =>
    rw [Program.doneAt_iff, hcode] at hdone
    cases hdone
  | char hcode' _ hacc =>
    rw [hcode] at hcode'
    cases hcode'
    exact hacc
  | on hcode' hwaits =>
    rw [hcode] at hcode'
    cases hcode'
    cases hwaits

theorem accepting_done (h : p.doneAt q = true) : accepting p rest q = true :=
  accepting_iff.2 (.done h)

/-- **What can accept and is entered settles somewhere** as a thread that
can accept. -/
theorem Settled.exists_accepting (hp : p.Lookless) (h : Settled p index before after ts out)
    (ht : t ∈ ts) (hacc : Accepts p t.place rest) : ∃ u ∈ out, Accepts p u.place rest := by
  obtain ⟨seen, hsettles⟩ := h
  obtain ⟨-, hstack, hclosed⟩ := hsettles.entered
  have hentered : ∀ q ∈ seen, (p.waitsAt q = true ∧ ∃ u ∈ out, u.place = q) ∨
      (p.waitsAt q = false ∧ ∃ t : Thread, t.place = q ∧
        ∀ u ∈ onward p index before after t, u.place ∈ seen) := fun q hq =>
    (hclosed q hq).resolve_left List.not_mem_nil
  -- along the way to the match, up to the first instruction that waits
  have hall : ∀ {q rest}, Accepts p q rest → q ∈ seen → ∃ u ∈ out, Accepts p u.place rest := by
    intro q rest hacc
    induction hacc with
    | @done q rest hdone =>
      intro hq
      rcases hentered q hq with ⟨-, u, hu, rfl⟩ | ⟨hno, -⟩
      · exact ⟨u, hu, .done hdone⟩
      · exact absurd (Program.waitsAt_of_doneAt hdone) (by rw [hno]; exact Bool.false_ne_true)
    | @char q target s c rest hcode hin hacc =>
      intro hq
      rcases hentered q hq with ⟨-, u, hu, rfl⟩ | ⟨hno, -⟩
      · exact ⟨u, hu, .char hcode hin hacc⟩
      · rw [Program.waitsAt, hcode] at hno
        cases hno
    | @on q target i rest hcode hwaits htarget hacc ih =>
      intro hq
      rcases hentered q hq with ⟨hw, -⟩ | ⟨-, t, rfl, hon⟩
      · rw [Program.waitsAt, hcode, Option.any_some, hwaits] at hw
        cases hw
      · obtain ⟨u, hu, rfl⟩ := exists_mem_onward hp hcode hwaits htarget index before after
        exact ih (hon u hu)
  exact hall hacc (hstack t ht)

/-- The threads that can accept settle without the others. -/
theorem Settled.accepting_eq (hp : p.Lookless) (h : Settled p index before after ts out)
    (h' : Settled p index before' after' ts' out')
    (heq : ts.filter (fun t => accepting p rest t.place) =
      ts'.filter fun t => accepting p rest t.place) :
    out.filter (fun t => accepting p rest t.place) =
      out'.filter fun t => accepting p rest t.place := by
  obtain ⟨seen, hsettles⟩ := h
  obtain ⟨seen', hsettles'⟩ := h'
  have hkept := hsettles.filter (accepting p rest) fun t ht u hu => accepting_onward ht hu
  have hsame : Settles p index before after all [] ts' seen' out' := hsettles'.congr hp
  have hkept' := hsame.filter (accepting p rest)
    fun t ht u hu => accepting_onward ht hu
  rw [heq] at hkept
  exact (hkept.unique hkept').2

/-- **Only the threads that can accept count.** -/
theorem walk_congr (hp : p.Lookless)
    (heq : (threads ++ starting p best).filter (fun t => accepting p cs t.place) =
      (threads' ++ starting p best).filter fun t => accepting p cs t.place) :
    walk p index before threads best cs = walk p index before' threads' best cs := by
  induction cs generalizing index before before' threads threads' best with
  | nil =>
    obtain ⟨out, hsettled, hwalk⟩ := walk_nil_eq p index before threads best
    obtain ⟨out', hsettled', hwalk'⟩ := walk_nil_eq p index before' threads' best
    have hout := hsettled.accepting_eq hp hsettled' heq
    -- at the end of the text no thread moves
    have hmove : ∀ t u, p.move none t = some u → accepting p [] t.place = all u.place := by
      intro t u hu
      obtain ⟨s, c, -, hnone, -⟩ := Program.move_eq_some hu
      cases hnone
    have hkept : ∀ ts, (step p none (ts.filter fun t => accepting p [] t.place)).2 =
        (step p none ts).2 := by
      intro ts
      rw [step_filter (fun _ => accepting_done) hmove]
    have hfound : (step p none out).2 = (step p none out').2 := by
      rw [← hkept out, hout, hkept out']
    rw [hwalk, hwalk', hfound]
  | cons c cs ih =>
    obtain ⟨out, hsettled, hwalk⟩ := walk_cons_eq p index before threads best c cs
    obtain ⟨out', hsettled', hwalk'⟩ := walk_cons_eq p index before' threads' best c cs
    have hout := hsettled.accepting_eq hp hsettled' heq
    have hkept : ∀ ts, step p (some c) (ts.filter fun t => accepting p (c :: cs) t.place) =
        ((step p (some c) ts).1.filter fun t => accepting p cs t.place, (step p (some c) ts).2) :=
      fun ts => step_filter (fun _ => accepting_done) fun t u hu => accepting_move hu
    have hboth := (hkept out).symm.trans ((congrArg (step p (some c)) hout).trans (hkept out'))
    obtain ⟨hmoved, hfound⟩ := Prod.mk.inj hboth
    rw [hwalk, hwalk', hfound]
    refine ih ?_
    rw [List.filter_append, List.filter_append, hmoved]

/-- A thread that waits and can accept is complete or moves on. -/
theorem Accepts.done_or_move (h : Accepts p t.place rest) (hwaits : p.waitsAt t.place = true) :
    p.doneAt t.place = true ∨ ∃ c cs u, rest = c :: cs ∧ p.move (some c) t = some u ∧
      Accepts p u.place cs := by
  cases h with
  | done hdone => exact .inl hdone
  | @char _ target s c cs hcode hin hacc =>
    refine .inr ⟨c, cs, ⟨target, t.slots⟩, rfl, ?_, hacc⟩
    simp only [Program.move, hcode, hin, if_true]
  | on hcode hno =>
    rw [Program.waitsAt, hcode, Option.any_some, hno] at hwaits
    cases hwaits

/-- **A thread in front that can accept wins**: the match is one of those in
front. -/
theorem walk_front (hp : p.Lookless) (h : Carries p I R low high) (hlow : low ≤ index)
    (hhigh : index + cs.length ≤ high) (hfront : ∀ t ∈ front, I index t) (ht : t ∈ front)
    (hacc : Accepts p t.place cs) (before : Option Char) (behind : List Thread)
    (best : Option Slots) :
    ∃ slots, walk p index before (front ++ behind) best cs = some slots ∧ R slots := by
  induction cs generalizing index before front behind best t with
  | nil =>
    obtain ⟨out, ⟨seen, hsettles⟩, hwalk⟩ := walk_nil_eq p index before (front ++ behind) best
    rw [List.append_assoc] at hsettles
    obtain ⟨mid, ahead, back, hahead, -, rfl⟩ := hsettles.split
    obtain ⟨u, hu, haccu⟩ := Settled.exists_accepting hp ⟨mid, hahead⟩ ht hacc
    have hdone : p.doneAt u.place = true := by
      rcases haccu.done_or_move (hahead.waits u hu) with hdone | ⟨c, cs, v, hcs, -⟩
      · exact hdone
      · cases hcs
    have hsome : (step p none ahead).2.isSome = true := isSome_step_found hu hdone
    obtain ⟨slots, hslots⟩ := Option.isSome_iff_exists.1 hsome
    refine ⟨slots, ?_, ?_⟩
    · rw [hwalk, step_append, if_pos hsome, hslots]
      rfl
    · exact (h.step hlow hhigh (h.settled hlow hhigh ⟨mid, hahead⟩ hfront) none).2 slots hslots
  | cons c cs ih =>
    rw [List.length_cons] at hhigh
    obtain ⟨out, ⟨seen, hsettles⟩, hwalk⟩ :=
      walk_cons_eq p index before (front ++ behind) best c cs
    rw [List.append_assoc] at hsettles
    obtain ⟨mid, ahead, back, hahead, -, rfl⟩ := hsettles.split
    obtain ⟨u, hu, haccu⟩ := Settled.exists_accepting hp ⟨mid, hahead⟩ ht hacc
    obtain ⟨hmoved, hfound⟩ := h.step hlow (by omega)
      (h.settled hlow (by omega) ⟨mid, hahead⟩ hfront) (some c)
    rw [hwalk, step_append]
    cases hslots : (step p (some c) ahead).2 with
    | some slots =>
      -- a match in front cuts everything behind it
      obtain ⟨slots', hwalk'⟩ := exists_walk_some p (index + 1) (some c) (step p (some c) ahead).1
        slots cs
      rw [Option.isSome_some, if_pos rfl, hslots, Option.some_or]
      refine ⟨slots', hwalk', ?_⟩
      refine walk_forall h (by omega) (by omega) hmoved (fun hnone => by cases hnone) ?_ hwalk'
      rintro _ ⟨rfl⟩
      exact hfound slots hslots
    | none =>
      rw [Option.isSome_none, if_neg Bool.false_ne_true]
      -- without one the thread that can accept moves on, and is in front again
      rcases haccu.done_or_move (hahead.waits u hu) with hdone | ⟨d, ds, v, hds, hmove, haccv⟩
      · have hsome : (step p (some c) ahead).2.isSome = true := isSome_step_found hu hdone
        rw [hslots] at hsome
        cases hsome
      · cases hds
        exact ih (by omega) (by omega) hmoved (mem_step hslots hu hmove) haccv _ _ _

end Accepting

/-! ## Where the match starts -/

/-- A thread that started before a place of the text, and left the entry. -/
def Began (p : Program) (bound : Nat) (t : Thread) : Prop :=
  t.place ≠ p.entry ∧ ∃ a, a < bound ∧ t.slots[0]? = some (some a)

section Skip

variable {p : Program} {index bound i a : Nat} {before after : Option Char}
  {t u : Thread} {ts threads out : List Thread} {best : Option Slots} {slots : Slots}
  {cs : List Char}

theorem Began.mono (h : Began p bound t) {bound' : Nat} (hle : bound ≤ bound') :
    Began p bound' t := by
  obtain ⟨hplace, a, hlt, hslot⟩ := h
  exact ⟨hplace, a, hlt.trans_le hle, hslot⟩

/-- A thread never starts again. -/
theorem Began.onward (hp : Framed p) (h : Began p bound t)
    (hu : u ∈ onward p i before after t) : Began p bound u := by
  obtain ⟨hplace, a, hlt, hslot⟩ := h
  obtain ⟨c, hcode, -, htarget, hslots⟩ := mem_onward hu
  refine ⟨fun heq => hp.outset t.place c hcode (heq ▸ htarget), a, hlt, ?_⟩
  rcases hslots with heq | ⟨slot, rfl, heq⟩
  · rw [heq, hslot]
  · have hne : slot ≠ 0 := by
      rintro rfl
      exact hplace (hp.once t.place u.place hcode)
    rw [heq, Array.getElem?_setIfInBounds_ne hne, hslot]

theorem Began.move (hp : Framed p) (h : Began p bound t) {next : Option Char}
    (hu : p.move next t = some u) : Began p bound u := by
  obtain ⟨-, a, hlt, hslot⟩ := h
  obtain ⟨s, c, hcode, -, -, hslots⟩ := Program.move_eq_some hu
  refine ⟨fun heq => hp.outset t.place _ hcode (heq ▸ List.mem_cons_self), a, hlt, ?_⟩
  rw [hslots, hslot]

theorem carries_began (hp : Framed p) (bound low high : Nat) :
    Carries p (fun _ => Began p bound) (fun slots => ∃ a, a < bound ∧ slots[0]? = some (some a))
      low high where
  onward := fun _ _ h _ hu => h.onward hp hu
  move := fun _ _ h hu => h.move hp hu
  done := fun _ _ h _ => h.2

/-- Every thread that settles has started by then. -/
theorem Settled.began (hp : Framed p)
    (h : Settled p index before after (threads ++ starting p best) out)
    (hthreads : ∀ t ∈ threads, Began p index t) : ∀ t ∈ out, Began p (index + 1) t := by
  obtain ⟨next, hentry⟩ := hp.start
  obtain ⟨seen, hsettles⟩ := h
  have hall := hsettles.forall (I := fun t => t = p.outset ∨ Began p (index + 1) t)
    (fun t ht => ?_) (fun t ht u hu => ?_)
  · intro t ht
    refine (hall t ht).resolve_left ?_
    -- the entry does not wait
    rintro rfl
    have hwaits := hsettles.waits _ ht
    rw [Program.waitsAt, Program.outset, hentry] at hwaits
    cases hwaits
  · rcases List.mem_append.1 ht with ht | ht
    · exact .inr ((hthreads t ht).mono (Nat.le_succ index))
    · exact .inl (mem_starting ht).2
  · rcases ht with rfl | ht
    · have hcode : p.code[p.outset.place]? = some (.save 0 next) := hentry
      rw [Regex.onward, hcode] at hu
      rw [List.mem_singleton.1 hu]
      refine .inr ⟨fun heq => hp.outset _ _ hentry (heq ▸ List.mem_cons_self), index,
        Nat.lt_succ_self index, ?_⟩
      have hin : 0 < p.outset.slots.size := by
        have := hp.groups
        rw [(remembers_outset p 0 0).1]
        omega
      exact Array.getElem?_setIfInBounds_self_of_lt hin
    · exact .inr (ht.onward hp hu)

/-- Where the match starts, the threads from before cannot accept. -/
theorem walk_fresh (hp : Framed p) (hlook : p.Lookless)
    (hthreads : ∀ t ∈ threads, Began p index t)
    (h : walk p index before threads none cs = some slots)
    (hstart : slots[0]? = some (some index)) (before' : Option Char) :
    walk p index before' [] none cs = some slots := by
  have hnone : threads.filter (fun t => accepting p cs t.place) = [] := by
    refine List.filter_eq_nil_iff.2 fun t ht hacc => ?_
    -- a thread that could accept would have won
    obtain ⟨slots', hwalk, a, hlt, ha⟩ := walk_front hlook
      (carries_began hp index index (index + cs.length)) (Nat.le_refl _) (Nat.le_refl _)
      hthreads ht (accepting_iff.1 hacc) before [] none
    rw [List.append_nil, h] at hwalk
    cases hwalk
    rw [hstart] at ha
    cases ha
    exact Nat.lt_irrefl _ hlt
  rw [← h]
  refine walk_congr hlook ?_
  rw [List.filter_append, List.filter_append, hnone]
  rfl

/-- **The match is the one that a search from its start finds.** -/
theorem walk_skip (hp : Framed p) (hlook : p.Lookless)
    (hthreads : ∀ t ∈ threads, Began p index t)
    (h : walk p index before threads none cs = some slots) (ha : slots[0]? = some (some a))
    (hle : index ≤ a) (before' : Option Char) :
    walk p a before' [] none (cs.drop (a - index)) = some slots := by
  have hlate : ∀ {bound}, bound ≤ a → ¬∃ a', a' < bound ∧ slots[0]? = some (some a') := by
    rintro bound hbound ⟨a', hlt, ha'⟩
    rw [ha] at ha'
    cases ha'
    omega
  induction cs generalizing index before threads with
  | nil =>
    rcases Nat.eq_or_lt_of_le hle with rfl | hlt
    · rw [Nat.sub_self]
      exact walk_fresh hp hlook hthreads h ha before'
    · obtain ⟨out, hsettled, hwalk⟩ := walk_nil_eq p index before threads none
      rw [hwalk, Option.or_none] at h
      have hbegan := hsettled.began hp hthreads
      exact absurd (((carries_began hp _ index index).step (Nat.le_refl _) (Nat.le_refl _) hbegan
        none).2 slots h) (hlate hlt)
  | cons c cs ih =>
    rcases Nat.eq_or_lt_of_le hle with rfl | hlt
    · rw [Nat.sub_self]
      exact walk_fresh hp hlook hthreads h ha before'
    · obtain ⟨out, hsettled, hwalk⟩ := walk_cons_eq p index before threads none c cs
      have hcarries := carries_began hp (index + 1) index (index + 1 + cs.length)
      obtain ⟨hmoved, hfound⟩ := hcarries.step (Nat.le_refl _) (by omega)
        (hsettled.began hp hthreads) (some c)
      rw [hwalk, Option.or_none] at h
      cases hslots : (step p (some c) out).2 with
      | some found =>
        -- a match that is known here starts before
        rw [hslots] at h
        refine absurd (walk_forall hcarries (by omega) (by omega) hmoved
          (fun hnone => by cases hnone) ?_ h) (hlate hlt)
        rintro _ ⟨rfl⟩
        exact hfound found hslots
      | none =>
        rw [hslots] at h
        have hdrop : (c :: cs).drop (a - index) = cs.drop (a - (index + 1)) := by
          rw [show a - index = (a - (index + 1)) + 1 by omega, List.drop_succ_cons]
        rw [hdrop]
        exact ih hmoved h hlt

end Skip

/-! ## Where the match ends -/

section Take

variable {p : Program} {index low b : Nat} {before : Option Char} {threads : List Thread}
  {best : Option Slots} {slots : Slots} {cs : List Char}

/-- **What comes behind a match does not count.** -/
theorem walk_take (hp : Framed p) (hlook : p.Lookless)
    (hthreads : ∀ t ∈ threads, OnTime p low index t)
    (h : walk p index before threads best cs = some slots) (hb : slots[1]? = some (some b))
    (hlow : low ≤ index) (hle : index ≤ b) :
    walk p index before threads best (cs.take (b - index)) = some slots := by
  induction cs generalizing index before threads best with
  | nil =>
    rw [List.take_nil]
    exact h
  | cons c cs ih =>
    obtain ⟨out, hsettled, hwalk⟩ := walk_cons_eq p index before threads best c cs
    rw [hwalk] at h
    have hpending : ∀ t ∈ threads ++ starting p best, OnTime p low index t := by
      intro t ht
      rcases List.mem_append.1 ht with ht | ht
      · exact hthreads t ht
      · rw [(mem_starting ht).2]
        exact onTime_outset hp low index
    obtain ⟨hmoved, -⟩ := (carries_onTime hp hlow index).step (Nat.le_refl _) (Nat.le_refl _)
      ((carries_onTime hp hlow index).settled (Nat.le_refl _) (Nat.le_refl _) hsettled hpending)
      (some c)
    rcases Nat.eq_or_lt_of_le hle with rfl | hlt
    · -- the match is known now, since any other one ends later
      have hcarries := (carries_onTime hp (hlow.trans (Nat.le_succ index))
        (index + 1 + cs.length)).imp fun slots hslots =>
          (Or.inr hslots : (step p (some c) out).2.or best = some slots ∨ _)
      have hlast := walk_forall hcarries (Nat.le_refl _) (Nat.le_refl _) hmoved
        (fun _ i _ => onTime_outset hp low i) (fun _ => .inl) h
      have hknown : (step p (some c) out).2.or best = some slots := by
        refine hlast.resolve_right ?_
        rintro ⟨stop, hstop, hlate, -⟩
        rw [hb] at hstop
        cases hstop
        omega
      obtain ⟨out', ⟨seen', hsettles'⟩, hwalk'⟩ := walk_nil_eq p index before threads best
      have hout := hsettled.unique ⟨seen', hsettles'.congr hlook⟩
      rw [Nat.sub_self, List.take_zero, hwalk', ← hout, step_found p none (some c), hknown]
    · have htake : (c :: cs).take (b - index) = c :: cs.take (b - (index + 1)) := by
        rw [show b - index = (b - (index + 1)) + 1 by omega, List.take_succ_cons]
      obtain ⟨out', hsettled', hwalk'⟩ :=
        walk_cons_eq p index before threads best c (cs.take (b - (index + 1)))
      rw [htake, hwalk', ← hsettled.unique hsettled']
      exact ih hmoved h (by omega) hlt

end Take

/-! ## Counting from elsewhere -/

/-- Places counted from `d` characters earlier. -/
def Slots.shift (d : Nat) (slots : Slots) : Slots := slots.map (·.map (· + d))

/-- A thread of a walk that counts from `d` characters earlier. -/
def Thread.shift (d : Nat) (t : Thread) : Thread := ⟨t.place, t.slots.shift d⟩

section Shift

variable {p : Program} {index d : Nat} {before after before' after' : Option Char}
  {seen seen' : List Nat} {t : Thread} {stack out : List Thread}

theorem Slots.shift_set (slots : Slots) (slot x d : Nat) :
    Slots.shift d (slots.setIfInBounds slot (some x)) =
      (Slots.shift d slots).setIfInBounds slot (some (x + d)) := by
  rw [shift, Array.map_setIfInBounds]
  rfl

/-- What is remembered counting from elsewhere. -/
theorem Slots.getElem?_shift (slots : Slots) (d k : Nat) :
    (Slots.shift d slots)[k]? = slots[k]?.map (·.map (· + d)) := by
  rw [shift, Array.getElem?_map]

theorem Program.shift_outset (p : Program) (d : Nat) : p.outset.shift d = p.outset := by
  rw [outset, Thread.shift, Slots.shift, Array.map_replicate]
  rfl

theorem onward_shift (hp : p.Lookless) :
    onward p (index + d) before' after' (t.shift d) =
      (onward p index before after t).map (·.shift d) := by
  have hplace : (t.shift d).place = t.place := rfl
  rw [onward, onward, hplace]
  cases hcode : p.code[t.place]? with
  | none => rfl
  | some i =>
    cases i with
    | look l next => exact absurd hcode (hp t.place l next)
    | save slot next =>
      simp only [List.map_cons, List.map_nil, Thread.shift, Slots.shift_set]
    | _ => rfl

theorem Settles.shift (hp : p.Lookless)
    (h : Settles p index before after all seen stack seen' out) :
    Settles p (index + d) before' after' all seen (stack.map (·.shift d)) seen'
      (out.map (·.shift d)) := by
  have hall : ∀ ts : List Thread, ts.filter (fun u => all u.place) = ts := fun ts =>
    List.filter_eq_self.2 fun _ _ => rfl
  induction h with
  | nil => exact .nil
  | again hin _ ih => exact .again hin ih
  | wait hnot hwaits _ ih => exact .wait hnot hwaits ih
  | @pass seen seen' t stack out hnot hno _ ih =>
    have hshift : onward p (index + d) before' after' (t.shift d) =
        (onward p index before after t).map (·.shift d) := onward_shift hp
    rw [hall, List.map_append, ← hshift] at ih
    exact .pass hnot hno (by rwa [hall])

theorem Program.move_shift (p : Program) (next : Option Char) (t : Thread) (d : Nat) :
    p.move next (t.shift d) = (p.move next t).map (·.shift d) := by
  have hplace : (t.shift d).place = t.place := rfl
  unfold move
  rw [hplace]
  cases p.code[t.place]? with
  | none => rfl
  | some i =>
    cases i with
    | char s target =>
      cases next with
      | none => rfl
      | some c =>
        dsimp only
        split <;> rfl
    | _ => rfl

theorem step_shift (next : Option Char) (ts : List Thread) :
    step p next (ts.map (·.shift d)) =
      ((step p next ts).1.map (·.shift d), (step p next ts).2.map (·.shift d)) := by
  induction ts with
  | nil => rfl
  | cons t ts ih =>
    rw [List.map_cons, step_cons, step_cons, ih, Program.move_shift]
    by_cases hdone : p.doneAt t.place = true
    · rw [if_pos hdone, if_pos (show p.doneAt (t.shift d).place = true from hdone)]
      rfl
    · rw [if_neg hdone, if_neg (show ¬p.doneAt (t.shift d).place = true from hdone),
        List.map_append]
      cases p.move next t <;> rfl

theorem starting_shift (p : Program) (best : Option Slots) (d : Nat) :
    starting p (best.map (·.shift d)) = (starting p best).map (·.shift d) := by
  cases best with
  | none => exact congrArg (fun t => [t]) (p.shift_outset d).symm
  | some slots => rfl

/-- **A walk that counts from elsewhere** is the same walk. -/
theorem walk_shift (hp : p.Lookless) (index d : Nat) (before before' : Option Char)
    (threads : List Thread) (best : Option Slots) (cs : List Char) :
    walk p (index + d) before' (threads.map (·.shift d)) (best.map (·.shift d)) cs =
      (walk p index before threads best cs).map (·.shift d) := by
  have hor : ∀ a b : Option Slots,
      (a.map (·.shift d)).or (b.map (·.shift d)) = (a.or b).map (·.shift d) := by
    intro a b
    cases a <;> rfl
  induction cs generalizing index before before' threads best with
  | nil =>
    obtain ⟨out, ⟨seen, hsettles⟩, hwalk⟩ := walk_nil_eq p index before threads best
    obtain ⟨out', hsettled', hwalk'⟩ := walk_nil_eq p (index + d) before'
      (threads.map (·.shift d)) (best.map (·.shift d))
    rw [starting_shift, ← List.map_append] at hsettled'
    have hout := hsettled'.unique ⟨seen, hsettles.shift hp⟩
    rw [hwalk, hwalk', hout, step_shift, hor]
  | cons c cs ih =>
    obtain ⟨out, ⟨seen, hsettles⟩, hwalk⟩ := walk_cons_eq p index before threads best c cs
    obtain ⟨out', hsettled', hwalk'⟩ := walk_cons_eq p (index + d) before'
      (threads.map (·.shift d)) (best.map (·.shift d)) c cs
    rw [starting_shift, ← List.map_append] at hsettled'
    have hout := hsettled'.unique ⟨seen, hsettles.shift hp⟩
    rw [hwalk, hwalk', hout, step_shift, hor, Nat.add_right_comm]
    exact ih _ _ _ _ _

end Shift

/-! ## The text of a match -/

section Found

variable {p : Program} {k : Cursor} {slots : Slots} {a b : Nat} {cs : List Char}

/-- **A match is found in the text it matched**, with all it remembers. -/
theorem Program.searchFrom_alone (hp : Framed p) (hlook : p.Lookless)
    (h : p.searchFrom k = some slots) (hrange : groupRange slots 0 = some (a, b)) :
    ∃ slots', p.searchFrom (Cursor.start (sliceChars k.rest (a - k.index) (b - k.index))) =
        some slots' ∧ slots'.shift a = slots ∧
      ∀ i x : Nat, slots'[i]? = some (some x) → x ≤ b - a := by
  obtain ⟨ha, hb⟩ := groupRange_eq_some hrange
  have hsound := p.searchFrom_sound hp h
  obtain ⟨hlow, hle, -⟩ := hsound.range hrange
  have hskip := walk_skip hp hlook (fun t ht => absurd ht List.not_mem_nil) h ha hlow none
  have hnone : ∀ t ∈ ([] : List Thread), OnTime p a a t := fun t ht =>
    absurd ht List.not_mem_nil
  have htake := walk_take hp hlook hnone hskip hb (Nat.le_refl a) hle
  let window := (k.rest.drop (a - k.index)).take (b - a)
  have hshift := walk_shift hlook 0 a none none [] none window
  rw [Nat.zero_add, List.map_nil, Option.map_none, htake] at hshift
  have hslice : sliceChars k.rest (a - k.index) (b - k.index) =
      (k.rest.drop (a - k.index)).take (b - a) := by
    rw [sliceChars, show b - k.index - (a - k.index) = b - a by omega]
  obtain ⟨slots', hfound, heq⟩ := Option.map_eq_some_iff.1 hshift.symm
  refine ⟨slots', by rw [hslice]; exact hfound, heq, fun i x hx => ?_⟩
  have hplace : slots[i]? = some (some (x + a)) := by
    rw [← heq, Slots.getElem?_shift, hx]
    rfl
  obtain ⟨stop, hstop, -, -, -, hplaces⟩ := hsound
  have hstopped := (hplaces i (x + a) hplace).2
  rw [hb] at hstop
  cases hstop
  omega

/-- The range of a group counting from elsewhere. -/
theorem groupRange_shift (slots : Slots) (d i : Nat) :
    groupRange (slots.shift d) i = (groupRange slots i).map fun m => (m.1 + d, m.2 + d) := by
  rw [groupRange, groupRange, Slots.getElem?_shift, Slots.getElem?_shift]
  rcases slots[2 * i]? with _ | _ | a
  · rfl
  · rfl
  · rcases slots[2 * i + 1]? with _ | _ | b <;> rfl

/-- A replacement depends on the text of the groups only. -/
theorem expandFrom_congr {cs' : List Char} {slots' : Slots}
    (h : ∀ i, groupText cs slots i = groupText cs' slots' i) (fuel : Nat) (text : List Char) :
    expandFrom p cs slots fuel text = expandFrom p cs' slots' fuel text := by
  have href : ∀ name, referenceText p cs slots name = referenceText p cs' slots' name := by
    intro name
    rw [referenceText, referenceText]
    split
    · exact h _
    · split
      · exact h _
      · rfl
  induction fuel generalizing text with
  | zero => rfl
  | succ fuel ih =>
    cases text with
    | nil => rfl
    | cons c text =>
      unfold expandFrom
      simp only [ih, href]

/-- What a group matched, counting from the start of the match. -/
theorem groupText_alone {before found behind : List Char} {slots : Slots}
    (hplaces : ∀ k x : Nat, slots[k]? = some (some x) → x ≤ found.length) (i : Nat) :
    groupText (before ++ found ++ behind) (slots.shift before.length) i =
      groupText found slots i := by
  rw [groupText, groupText, groupRange_shift]
  cases hrange : groupRange slots i with
  | none => rfl
  | some m =>
    obtain ⟨x, y⟩ := m
    obtain ⟨hx, hy⟩ := groupRange_eq_some hrange
    have hxle := hplaces _ x hx
    have hyle := hplaces _ y hy
    simp only [Option.map_some]
    have hstart : x + before.length = before.length + x := by omega
    have hlength : y + before.length - (before.length + x) = y - x := by omega
    have hroom : y - x ≤ (found.drop x).length := by
      rw [List.length_drop]
      omega
    rw [List.append_assoc, hstart, List.drop_length_add_append,
      List.drop_append_of_le_length hxle, hlength, List.take_append_of_le_length hroom]

/-- **A replacement filled in from the match alone** is the one filled in
from the text. -/
theorem expand_alone {before found behind : List Char} {slots : Slots}
    (hplaces : ∀ k x : Nat, slots[k]? = some (some x) → x ≤ found.length) (text : List Char) :
    expand p (before ++ found ++ behind) (slots.shift before.length) text =
      expand p found slots text :=
  expandFrom_congr (fun i => groupText_alone hplaces i) _ _

end Found

end Regex
end CodeDesk
