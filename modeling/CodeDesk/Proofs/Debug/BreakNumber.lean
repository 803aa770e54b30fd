import CodeDesk.Proofs.Debug.BreakIdentity
import CodeDesk.Proofs.Debug.Request
import CodeDesk.Proofs.Debug.StaleResult
/-!
# Numbers of breakpoints — whose they are

A number means something only to the debugger that gave it. A debugger that
is sent numbers gives them back, so being in its answers does not make a
number its own: it has to come up there before it comes up in a request to
that debugger (`Coined`).

The list of breakpoints outlives the sessions, and so do the numbers in it.
Nothing takes them away when a session ends, and the next debugger is sent
the numbers of the one before, and told to forget breakpoints by them
(`clears_number_of_another`). Wherever no session ends with a numbered
breakpoint in the list, every number is that of the debugger it is used
with, in all states and in all requests (`rightful_iff`).
-/

namespace CodeDesk
namespace Debug

/-- The numbers of breakpoints in a list. -/
def Break.numbers (bs : List Break) : List Nat := (bs.map Break.id).filter (· != 0)

/-- The numbers of breakpoints that a request names. -/
def Call.names : Call → List Nat
  | updateBreaks bs => Break.numbers bs
  | clearBreak id => [id]
  | _ => []

/-- The numbers that the debugger gives in a change. -/
def BreakEdit.tells : BreakEdit → List Nat
  | push pushed => Break.numbers pushed
  | merge reported => Break.numbers reported
  | _ => []

/-- The numbers that a debugger gives in an answer. -/
def Exchange.tells (x : Exchange) : List Nat := x.edit?.elim [] BreakEdit.tells

/-- The debugger of a session gave a number: it told the number before the
number was named to it. -/
def Coined (log : List Exchange) (n id : Nat) : Prop :=
  ∃ log₁ x log₂, log = log₁ ++ x :: log₂ ∧ x.session = n ∧ id ∈ x.tells ∧
    ∀ y ∈ log₁ ++ [x], y.session = n → id ∉ y.call.names

namespace Coined

variable {log log' : List Exchange} {n id : Nat}

theorem mono (h : Coined log n id) (hlog : log <+: log') : Coined log' n id := by
  obtain ⟨log₁, x, log₂, rfl, hn, hid, hfirst⟩ := h
  obtain ⟨new, rfl⟩ := hlog
  exact ⟨log₁, x, log₂ ++ new, by rw [List.append_assoc, List.cons_append], hn, hid, hfirst⟩

theorem told (h : Coined log n id) : ∃ x ∈ log, x.session = n ∧ id ∈ x.tells := by
  obtain ⟨log₁, x, log₂, rfl, hn, hid, -⟩ := h
  exact ⟨x, List.mem_append_right _ List.mem_cons_self, hn, hid⟩

end Coined

/-- **Whoever tells a number gave it**, if no debugger was named a number
that it did not give. -/
theorem coined_of_tells {log : List Exchange} {x : Exchange} {id : Nat}
    (hnamed : ∀ log₁ y log₂, log = log₁ ++ y :: log₂ → ∀ id ∈ y.call.names,
      Coined log₁ y.session id)
    (hx : x ∈ log) (hid : id ∈ x.tells) : Coined log x.session id := by
  obtain ⟨log₁, log₂, rfl⟩ := List.append_of_mem hx
  by_cases hbefore : ∃ y ∈ log₁ ++ [x], y.session = x.session ∧ id ∈ y.call.names
  · -- The number came up in a request before, and then it was given before that.
    obtain ⟨y, hy, hsession, hname⟩ := hbefore
    obtain ⟨before, behind, hsplit⟩ := List.append_of_mem hy
    have hlog : log₁ ++ x :: log₂ = before ++ y :: (behind ++ log₂) := by
      rw [← List.singleton_append, ← List.append_assoc, hsplit, List.append_assoc,
        List.cons_append]
    rw [← hsession]
    exact (hnamed before y _ hlog id hname).mono ⟨y :: (behind ++ log₂), hlog.symm⟩
  · refine ⟨log₁, x, log₂, rfl, rfl, hid, fun y hy hsession hname => ?_⟩
    exact hbefore ⟨y, hy, hsession, hname⟩

namespace BreakEdit

variable {home : Path} {bs : List Break} {es : List BreakEdit} {b : Break}

theorem mem_numbers {id : Nat} : id ∈ Break.numbers bs ↔ id ≠ 0 ∧ ∃ b ∈ bs, b.id = id := by
  rw [Break.numbers, List.mem_filter, List.mem_map, bne_iff_ne, and_comm]

theorem tells_of_isOwn {e : BreakEdit} (h : e.isOwn) : e.tells = [] := by
  cases e with
  | push pushed => cases h
  | merge reported => cases h
  | _ => rfl

theorem id_of_assign {p : Break} (hb : b ∈ Break.assign home p bs) :
    (∃ a ∈ bs, a.id = b.id) ∨ b.id = p.id := by
  induction bs with
  | nil => cases hb
  | cons a bs ih =>
    unfold Break.assign at hb
    split at hb
    · rcases List.mem_cons.1 hb with rfl | hb
      · exact Or.inr rfl
      · exact Or.inl ⟨b, List.mem_cons_of_mem _ hb, rfl⟩
    · rcases List.mem_cons.1 hb with rfl | hb
      · exact Or.inl ⟨b, List.mem_cons_self, rfl⟩
      · rcases ih hb with ⟨a', ha', hid⟩ | hid
        · exact Or.inl ⟨a', List.mem_cons_of_mem _ ha', hid⟩
        · exact Or.inr hid

theorem id_of_assignAll {pushed : List Break} (hb : b ∈ Break.assignAll home bs pushed) :
    (∃ a ∈ bs, a.id = b.id) ∨ ∃ p ∈ pushed, p.id = b.id := by
  induction pushed generalizing bs with
  | nil => exact Or.inl ⟨b, hb, rfl⟩
  | cons p ps ih =>
    rcases ih hb with ⟨a, ha, hid⟩ | ⟨q, hq, hid⟩
    · rw [← hid]
      exact (id_of_assign ha).imp_right fun hp => ⟨p, List.mem_cons_self, hp.symm⟩
    · exact Or.inr ⟨q, List.mem_cons_of_mem _ hq, hid⟩

/-- A number that is in the list after a change was there before, or the
debugger told it. -/
theorem id_of_apply {e : BreakEdit} (hb : b ∈ e.apply home bs) (hne : b.id ≠ 0) :
    (∃ a ∈ bs, a.id = b.id) ∨ b.id ∈ e.tells := by
  cases e with
  | add path line =>
    unfold apply at hb
    dsimp only at hb
    split at hb
    · exact Or.inl ⟨b, hb, rfl⟩
    · rcases List.mem_append.1 hb with hb | hb
      · exact Or.inl ⟨b, hb, rfl⟩
      · cases List.mem_singleton.1 hb
        exact absurd rfl hne
  | delete path line => exact Or.inl ⟨b, List.mem_of_mem_filter hb, rfl⟩
  | toggle path line =>
    have hids : (Controller.toggleIn home path line bs).map Break.id = bs.map Break.id :=
      Break.map_toggleIn fun _ => rfl
    have hid : b.id ∈ bs.map Break.id := hids ▸ List.mem_map_of_mem hb
    exact Or.inl (List.mem_map.1 hid)
  | push pushed => exact (id_of_assignAll hb).imp_right fun hp => mem_numbers.2 ⟨hne, hp⟩
  | merge reported =>
    obtain ⟨a, ha, rfl⟩ :=
      List.mem_map.1 (show b ∈ bs.map (Break.merged home reported) from hb)
    rcases Break.merged_cases home reported a with ⟨r, hr, heq⟩ | ⟨heq, -⟩
    · rw [heq] at hne ⊢
      exact Or.inr (mem_numbers.2 ⟨hne, r, hr, rfl⟩)
    · rw [heq]
      exact Or.inl ⟨a, ha, rfl⟩

theorem id_of_foldl (hb : b ∈ es.foldl (apply home) bs) (hne : b.id ≠ 0) :
    (∃ a ∈ bs, a.id = b.id) ∨ ∃ e ∈ es, b.id ∈ e.tells := by
  induction es generalizing bs with
  | nil => exact Or.inl ⟨b, hb, rfl⟩
  | cons e es ih =>
    rcases ih hb with ⟨a, ha, hid⟩ | ⟨e', he', htells⟩
    · rw [← hid] at hne ⊢
      exact (id_of_apply ha hne).imp_right fun htells => ⟨e, List.mem_cons_self, htells⟩
    · exact Or.inr ⟨e', List.mem_cons_of_mem _ he', htells⟩

end BreakEdit

variable {σ : Type}

namespace Scene

variable {S : Setup σ} {d : Scene σ} {op : Op σ} {x : Exchange} {id : Nat}

/-- The number of the session there is. -/
def number? (d : Scene σ) : Option Nat := d.controller.session.map Session.number

/-- An operation ends the session there is: none is there afterwards, or
another one. -/
def Ends (S : Setup σ) (d : Scene σ) (op : Op σ) : Prop :=
  d.number? ≠ none ∧ (d.after S op).number? ≠ d.number?

/-- Every number was given by the debugger it is used with. -/
structure Rightful (d : Scene σ) : Prop where
  /-- A breakpoint has no number but one of the session there is. -/
  breaks : ∀ b ∈ d.breaks, b.id ≠ 0 → ∃ n, d.number? = some n ∧ Coined d.log n b.id
  /-- No debugger was named a number that it had not given. -/
  named : ∀ log₁ x log₂, d.log = log₁ ++ x :: log₂ → ∀ id ∈ x.call.names,
    Coined log₁ x.session id

/-- Nobody has told a number but sessions that were there. -/
def Answered (d : Scene σ) : Prop := ∀ x ∈ d.log, x.tells ≠ [] → x.session ≤ d.controller.starts

theorem number?_eq_some {n : Nat} :
    d.number? = some n ↔ ∃ s, d.controller.session = some s ∧ s.number = n :=
  Option.map_eq_some_iff

/-! ## Who tells numbers, and who is named them -/

/-- Only answers to two requests tell numbers. -/
theorem call_of_tells (h : id ∈ x.tells) :
    (∃ bs, x.call = .updateBreaks bs) ∨ x.call = .listBreaks := by
  unfold Exchange.tells Exchange.edit? at h
  split at h
  · exact Or.inl ⟨_, rfl⟩
  · exact Or.inr rfl
  · cases h

/-- The numbers that a request names are those of breakpoints that are
shown, and it goes to the session there is. -/
theorem named_of_asks (hx : op.Asks d.controller x) (h : id ∈ x.call.names) :
    d.number? = some x.session ∧ id ≠ 0 ∧ ∃ b ∈ d.breaks, b.id = id := by
  have hneeds : x.call.needsStopped := by
    generalize x.call = call at h
    cases call with
    | updateBreaks bs => rfl
    | clearBreak id => rfl
    | _ => cases h
  refine ⟨?_, ?_⟩
  · cases hx with
    | present s session number request => exact number?_eq_some.2 ⟨s, session, number.symm⟩
    | next l latestChange now hop number request =>
      rw [request] at h
      cases h
  · have hgrounds := (grounds_of_asks hx hneeds).2
    generalize x.call = call at h hgrounds
    cases hgrounds with
    | send goes => exact BreakEdit.mem_numbers.1 h
    | clear b hb hne =>
      cases List.mem_singleton.1 h
      exact ⟨hne, b, hb, rfl⟩
    | _ => cases h

/-- Numbers are told by the session there is, and by one that stays. -/
theorem told_of_asks (hx : op.Asks d.controller x) (h : id ∈ x.tells) :
    d.number? = some x.session ∧ op.isAboutSession = false := by
  have hcall := call_of_tells h
  cases hx with
  | next l latestChange now hop number request =>
    rw [request] at hcall
    rcases hcall with ⟨bs, hcall⟩ | hcall <;> cases hcall
  | present s session number request =>
    refine ⟨number?_eq_some.2 ⟨s, session, number.symm⟩, ?_⟩
    cases op with
    | start l latestChange now =>
      rcases hcall with ⟨bs, hcall⟩ | hcall <;> rcases request with hr | hr <;>
        cases hr.symm.trans hcall
    | detach =>
      rcases hcall with ⟨bs, hcall⟩ | hcall <;> rcases request with ⟨-, hr⟩ | hr <;>
        cases hr.symm.trans hcall
    | _ => rfl

/-- What is told in an operation is told by a session that was there before
it. -/
theorem session_le_of_tells (hd : Numbered d) (hanswered : Answered d)
    (hx : x ∈ (d.after S op).log) (h : id ∈ x.tells) : x.session ≤ d.controller.starts := by
  rw [log_append_exchanges] at hx
  rcases List.mem_append.1 hx with hx | hx
  · exact hanswered x hx (List.ne_nil_of_mem h)
  · obtain ⟨s, hs, hnumber⟩ := number?_eq_some.1 (told_of_asks (asks_after S d op x hx) h).1
    exact hnumber ▸ hd.session s hs

theorem answered_initial (world : σ) (marks : Marks) (sinks : Command.Sinks) :
    Answered (initial world marks sinks) := fun _ hx => absurd hx List.not_mem_nil

theorem Answered.after (h : Answered d) (hd : Numbered d) (op : Op σ) :
    Answered (d.after S op) := by
  intro x hx htells
  obtain ⟨id, hid⟩ := List.exists_mem_of_ne_nil _ htells
  exact Nat.le_trans (session_le_of_tells hd h hx hid) (turnover_after S d op).starts_le

theorem numbered_answered_run (S : Setup σ) (world : σ) (marks : Marks) (sinks : Command.Sinks)
    (ops : List (Op σ)) : Numbered (run S (initial world marks sinks) ops) ∧
      Answered (run S (initial world marks sinks) ops) :=
  run_keeps (p := fun d => Numbered d ∧ Answered d)
    (fun _ op hd => ⟨hd.1.after op, hd.2.after hd.1 op⟩)
    ⟨numbered_initial world marks sinks, answered_initial world marks sinks⟩ ops

/-! ## Sessions that end -/

/-- Nothing but a start and a detachment ends a session. -/
theorem number?_after (h : op.isAboutSession = false) : (d.after S op).number? = d.number? :=
  congrArg (Option.map Session.number) (session_after h).1

/-- An operation that ends the session leaves the breakpoints as they are,
with their numbers. -/
theorem breaks_of_ends (h : Ends S d op) : (d.after S op).breaks = d.breaks := by
  have hedits : op.edits S d = [] := by
    cases op with
    | start l latestChange now =>
      exact edits_of_heard rfl (Controller.heard_start d.sinks l latestChange now) rfl
    | detach => exact edits_of_heard rfl Controller.heard_detach rfl
    | _ => exact absurd (number?_after rfl) h.2
  rw [breaks_after, hedits]
  rfl

/-! ## Whole histories -/

/-- Requests name rightful numbers as long as the breakpoints have them. -/
theorem Rightful.named_after (hd : Rightful d) (op : Op σ) :
    ∀ log₁ x log₂, (d.after S op).log = log₁ ++ x :: log₂ → ∀ id ∈ x.call.names,
      Coined log₁ x.session id := by
  intro log₁ x log₂ hlog id hid
  rw [log_append_exchanges] at hlog
  rcases log_split hlog with ⟨rest, hlog⟩ | ⟨before, hnew, hlog₁⟩
  · exact hd.named log₁ x rest hlog id hid
  · have hx : x ∈ op.exchanges S d := hnew ▸ List.mem_append_right _ List.mem_cons_self
    obtain ⟨hsession, hne, b, hb, rfl⟩ := named_of_asks (asks_after S d op x hx) hid
    obtain ⟨n, hn, hcoined⟩ := hd.breaks b hb hne
    cases hsession.symm.trans hn
    exact hcoined.mono ⟨before, hlog₁.symm⟩

/-- **One operation** keeps numbers rightful unless it ends a session and
leaves its numbers in the list. -/
theorem rightful_after_iff (hnumbered : Numbered d) (hanswered : Answered d) (hd : Rightful d) :
    Rightful (d.after S op) ↔ (Ends S d op → ∀ b ∈ d.breaks, b.id = 0) := by
  constructor
  · intro hafter hends b hb
    by_contra hne
    obtain ⟨n, hn, hcoined⟩ := hafter.breaks b (breaks_of_ends hends ▸ hb) hne
    obtain ⟨x, hx, hsession, htells⟩ := hcoined.told
    obtain ⟨s, hs, hnumber⟩ := number?_eq_some.1 hn
    -- The session is a new one, which has told nothing.
    rcases (turnover_after S d op).session hs with hold | ⟨hnew, -⟩
    · exact hends.2 (hn.trans (number?_eq_some.2 ⟨s, hold, hnumber⟩).symm)
    · have hle := session_le_of_tells hnumbered hanswered hx htells
      omega
  · intro hends
    have hnamed := hd.named_after (S := S) op
    refine ⟨fun b hb hne => ?_, hnamed⟩
    rw [breaks_after] at hb
    rcases BreakEdit.id_of_foldl hb hne with ⟨a, ha, hid⟩ | ⟨e, he, htells⟩
    · rw [← hid] at hne ⊢
      obtain ⟨n, hn, hcoined⟩ := hd.breaks a ha hne
      refine ⟨n, ?_, hcoined.mono (log_after S d op)⟩
      by_contra hother
      have hthere : d.number? ≠ none := by
        rw [hn]
        exact Option.some_ne_none n
      exact hne (hends ⟨hthere, fun heq => hother (heq.trans hn)⟩ a ha)
    · rcases List.mem_append.1 he with he | he
      · rw [BreakEdit.tells_of_isOwn (heard_own S d (Option.mem_toList.1 he)).1] at htells
        cases htells
      · obtain ⟨x, hx, hedit⟩ := List.mem_filterMap.1 he
        have htold : b.id ∈ x.tells := by rwa [Exchange.tells, hedit]
        obtain ⟨hsession, hstays⟩ := told_of_asks (asks_after S d op x hx) htold
        exact ⟨x.session, (number?_after hstays).trans hsession,
          coined_of_tells hnamed (List.mem_of_mem_drop hx) htold⟩

/-- With rightful numbers, taking a breakpoint away asks nothing of a
debugger that has not numbered any. -/
theorem Rightful.deleteBreak_silent (hd : Rightful d)
    (hsilent : ∀ x ∈ d.log, d.number? = some x.session → x.tells = []) (path : Path) (line : Nat) :
    (Op.deleteBreak path line : Op σ).exchanges S d = [] := by
  refine List.eq_nil_iff_forall_not_mem.2 fun x hx => ?_
  have hasks := asks_after S d _ x hx
  cases hasks with
  | next l latestChange now hop number request => cases hop
  | present s session number request =>
    obtain ⟨-, b, hb, hne, -⟩ := request
    obtain ⟨n, hn, hcoined⟩ := hd.breaks b hb hne
    obtain ⟨y, hy, hsession, htells⟩ := hcoined.told
    rw [hsilent y hy (hsession ▸ hn)] at htells
    cases htells

/-- **Whose the numbers are.** Whatever is done with a controller and
whatever the debuggers answer: in all states a numbered breakpoint has its
number from the debugger of the session there is, and no debugger was named
a number that it had not given, exactly if no session ended while a
breakpoint had a number. -/
theorem rightful_iff {world : σ} {marks : Marks} {sinks : Command.Sinks} {ops : List (Op σ)} :
    (∀ ops₁ ops₂, ops = ops₁ ++ ops₂ → Rightful (run S (initial world marks sinks) ops₁)) ↔
    ∀ ops₁ op ops₂, ops = ops₁ ++ op :: ops₂ → Ends S (run S (initial world marks sinks) ops₁) op →
      ∀ b ∈ (run S (initial world marks sinks) ops₁).breaks, b.id = 0 := by
  have hinitial : Rightful (initial world marks sinks) :=
    ⟨fun _ hb => absurd hb List.not_mem_nil,
      fun _ _ _ hlog => absurd hlog.symm
        (List.append_ne_nil_of_right_ne_nil _ (List.cons_ne_nil _ _))⟩
  refine run_keeps_iff (q := fun d op => Ends S d op → ∀ b ∈ d.breaks, b.id = 0) hinitial ?_
  intro ops₁ op ops₂ _ hd
  obtain ⟨hnumbered, hanswered⟩ := numbered_answered_run S world marks sinks ops₁
  exact rightful_after_iff hnumbered hanswered hd

instance : Decidable (Ends S d op) := inferInstanceAs (Decidable (_ ∧ _))

/-- A breakpoint that is numbered after one session has ended, and kept when
the next one is run anew in place. -/
def renewing : List (Op Script) :=
  [.addBreak ⟨"/work/main"⟩ 10, .start debugged 0 1, .detach, .start debugged 0 2, .step .line,
    .start debugged 0 3, .deleteBreak ⟨"/work/main"⟩ 10]

/-- The second debugger is told to forget the breakpoint by the number that
it gave. -/
theorem rightful_renewing :
    (unscripted renewing).log.getLast? = some ⟨2, .clearBreak 1, .ok ()⟩ ∧
      ∀ ops₁ ops₂, renewing = ops₁ ++ ops₂ → Rightful (unscripted ops₁) := by
  have hends : ∀ n (hn : n < renewing.length), Ends played (unscripted (renewing.take n))
      renewing[n] → ∀ b ∈ (unscripted (renewing.take n)).breaks, b.id = 0 := by
    decide +kernel
  exact ⟨rfl, rightful_iff.2 (forall_split hends)⟩

/-- A breakpoint that one debugger has numbered and that is taken away when
there is another one. -/
def inherited : List (Op Script) :=
  [.addBreak ⟨"/work/main"⟩ 10, .start debugged 0 1, .step .line, .detach, .start debugged 0 2,
    .deleteBreak ⟨"/work/main"⟩ 10]

/-- **A debugger is told to forget a breakpoint by a number that another one
gave.** It has told no number itself. -/
theorem clears_number_of_another :
    (unscripted inherited).log.getLast? = some ⟨2, .clearBreak 1, .ok ()⟩ ∧
      ¬ Rightful (unscripted inherited) := by
  refine ⟨rfl, fun h => ?_⟩
  have hlast : (unscripted inherited).log =
      (unscripted inherited).log.dropLast ++ [⟨2, .clearBreak 1, .ok ()⟩] := rfl
  have hcoined := h.named _ _ [] hlast 1 List.mem_cons_self
  have hsilent : ¬ ∃ x ∈ (unscripted inherited).log.dropLast, x.session = 2 ∧ 1 ∈ x.tells := by
    decide +kernel
  exact hsilent hcoined.told

end Scene

end Debug
end CodeDesk
