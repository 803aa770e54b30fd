import CodeDesk.Proofs.Command.Output
import Mathlib.Data.List.Induction
/-!
# Broadcast — what the sinks hold and what their events say

Several threads change the sinks, and one receiver replays the events of a
sink to show what it holds. Adding a line and announcing it is one step. To
clear a sink takes two: the lines go in one, and the event is sent in the
next, and another thread may come between them. A sink that is made is not
announced at all.

So there are two orders, that of the changes and that of the events. The
record of a history has both in one list of entries. A sink holds the lines
that were added behind the last entry at which it was fresh, and the
receiver has those behind the last entry at which a clearing was announced
(`recorded_after`). The two agree exactly if each added line is followed by
both kinds of entry or by neither (`rebuilt_iff`).
-/

namespace CodeDesk
namespace Command

/-- The sink an event is about. -/
def SinkEvent.sink : SinkEvent → String
  | line sink _ => sink
  | cleared sink => sink

/-- What a receiver has for a sink that replays its events. -/
def rebuilt (name : String) (events : List SinkEvent) : List Line :=
  (events.filter (·.sink = name)).foldl SinkEvent.replay []

theorem rebuilt_concat (name : String) (events : List SinkEvent) (e : SinkEvent) :
    rebuilt name (events ++ [e]) =
      if e.sink = name then e.replay (rebuilt name events) else rebuilt name events := by
  rw [rebuilt, List.filter_append, List.foldl_append, ← rebuilt, List.filter_cons]
  split
  · next h =>
    rw [if_pos (of_decide_eq_true h)]
    rfl
  · next h =>
    rw [if_neg fun heq => h (decide_eq_true heq)]
    rfl

/-! ## Records -/

/-- The line that an entry adds to a sink. -/
def Entry.lineIn? (name : String) : Entry → Option Line
  | added other l => if other = name then some l else none
  | fresh _ => none
  | announced _ => none

/-- The lines of a sink behind the last entry of a kind. -/
def kept (name : String) (mark : Entry) : List Entry → List Line
  | [] => []
  | e :: es => (if mark ∈ es then [] else (e.lineIn? name).toList) ++ kept name mark es

section Kept

variable {name : String} {mark mark' e : Entry} {es : List Entry} {l : Line}

theorem lineIn?_eq_some_iff : e.lineIn? name = some l ↔ e = .added name l := by
  cases e with
  | added other l' =>
    rw [Entry.lineIn?, Entry.added.injEq]
    split
    · next h => rw [Option.some.injEq, h, eq_self, true_and]
    · next h => simp [h]
  | fresh other => simp [Entry.lineIn?]
  | announced other => simp [Entry.lineIn?]

theorem kept_concat (h : e ≠ mark) :
    kept name mark (es ++ [e]) = kept name mark es ++ (e.lineIn? name).toList := by
  induction es with
  | nil => exact List.append_nil _
  | cons e' es ih =>
    have hmem : mark ∈ es ++ [e] ↔ mark ∈ es := by
      rw [List.mem_append, List.mem_singleton, or_iff_left h.symm]
    rw [List.cons_append, kept, ih, kept, List.append_assoc]
    simp only [hmem]

theorem kept_concat_of_no_line (h : e ≠ mark) (hline : e.lineIn? name = none) :
    kept name mark (es ++ [e]) = kept name mark es := by
  rw [kept_concat h, hline]
  exact List.append_nil _

theorem kept_concat_mark (h : mark.lineIn? name = none) : kept name mark (es ++ [mark]) = [] := by
  induction es with
  | nil =>
    rw [List.nil_append, kept, if_neg List.not_mem_nil, h]
    rfl
  | cons e es ih =>
    rw [List.cons_append, kept, if_pos (List.mem_append_right es List.mem_cons_self), ih]
    rfl

/-- Without the mark all lines are kept, and with it no more than these. -/
theorem kept_sublist (h : mark ∉ es) : (kept name mark' es).Sublist (kept name mark es) := by
  induction es with
  | nil => exact List.Sublist.refl []
  | cons e es ih =>
    rw [List.mem_cons, not_or] at h
    rw [kept, kept, if_neg h.2]
    refine List.Sublist.append ?_ (ih h.2)
    split
    · exact List.nil_sublist _
    · exact List.Sublist.refl _

/-- Where all lines are kept there is no room for one more. -/
theorem append_kept_ne (h : mark ∉ es) (l : Line) :
    [l] ++ kept name mark es ≠ kept name mark' es := by
  intro heq
  have hle : (kept name mark' es).length ≤ (kept name mark es).length :=
    (kept_sublist h).length_le
  rw [← heq, List.length_append, List.length_singleton] at hle
  omega

/-- **The same lines stand behind two marks** exactly if every line is
followed by both marks or by neither. What is kept is an end of the same
list of lines, so its length decides. -/
theorem kept_eq_iff :
    kept name mark es = kept name mark' es ↔
      ∀ before l after, es = before ++ .added name l :: after → (mark ∈ after ↔ mark' ∈ after) := by
  induction es with
  | nil => simp [kept]
  | cons e es ih =>
    have hcons : (∀ before l after, e :: es = before ++ .added name l :: after →
          (mark ∈ after ↔ mark' ∈ after)) ↔
        (∀ l, e = .added name l → (mark ∈ es ↔ mark' ∈ es)) ∧
          kept name mark es = kept name mark' es := by
      rw [ih]
      constructor
      · intro h
        exact ⟨fun l he => h [] l es (by rw [he, List.nil_append]), fun before l after hes =>
          h (e :: before) l after (by rw [hes, List.cons_append])⟩
      · rintro ⟨hfirst, hrest⟩ before l after hes
        cases before with
        | nil =>
          rw [List.nil_append, List.cons.injEq] at hes
          exact hes.2 ▸ hfirst l hes.1
        | cons e' before =>
          rw [List.cons_append, List.cons.injEq] at hes
          exact hrest before l after hes.2
    rw [hcons, kept, kept]
    cases he : e.lineIn? name with
    | none =>
      have hno : ∀ l, e = .added name l → (mark ∈ es ↔ mark' ∈ es) := fun l hadded => by
        rw [lineIn?_eq_some_iff.2 hadded] at he
        cases he
      rw [Option.toList_none, ite_self, ite_self, List.nil_append, List.nil_append,
        and_iff_right hno]
    | some l =>
      have hadded := lineIn?_eq_some_iff.1 he
      have hfirst : (∀ l, e = .added name l → (mark ∈ es ↔ mark' ∈ es)) ↔
          (mark ∈ es ↔ mark' ∈ es) := ⟨fun h => h l hadded, fun h _ _ => h⟩
      rw [hfirst, Option.toList_some]
      by_cases hmark : mark ∈ es
      · by_cases hmark' : mark' ∈ es
        · rw [if_pos hmark, if_pos hmark', List.nil_append, List.nil_append,
            and_iff_right (iff_of_true hmark hmark')]
        · rw [if_pos hmark, if_neg hmark', List.nil_append]
          exact iff_of_false (append_kept_ne hmark' l).symm fun h => hmark' (h.1.1 hmark)
      · by_cases hmark' : mark' ∈ es
        · rw [if_neg hmark, if_pos hmark', List.nil_append]
          exact iff_of_false (append_kept_ne hmark l) fun h => hmark (h.1.2 hmark')
        · rw [if_neg hmark, if_neg hmark', List.append_cancel_left_eq,
            and_iff_right (iff_of_false hmark hmark')]

end Kept

/-! ## Histories -/

namespace Broadcast

variable {b : Broadcast} {name : String} {lines : List Line}

theorem after_concat (acts : List Act) (a : Act) : after (acts ++ [a]) = (after acts).act a := by
  rw [after, List.foldl_append]
  rfl

/-- The two steps of a clearing are the clearing. -/
theorem sinks_clear (h : b.sinks.get? name = some lines) :
    ((b.act (.empty name)).act (.announce name)).sinks = b.sinks.clear name := by
  simp only [act, h, List.mem_cons_self, if_true, Sinks.clear]

/-- To make a sink that is not there takes one step. -/
theorem sinks_make (b : Broadcast) (name : String) :
    (b.act (.make name)).sinks = b.sinks.create name false := by
  rw [act]
  split
  · next h => simp only [Sinks.create, h, Bool.false_eq_true, if_false]
  · rfl

/-! ## What the record says -/

/-- The record has what the sinks hold and what was told. -/
structure Recorded (b : Broadcast) : Prop where
  /-- A sink holds the lines since it was fresh. -/
  holds : ∀ name lines, b.sinks.get? name = some lines → lines = kept name (.fresh name) b.log
  /-- The receiver has the lines since a clearing was announced. -/
  tells : ∀ name, rebuilt name b.told = kept name (.announced name) b.log

/-- A sink without lines is recorded as fresh. -/
theorem Recorded.fresh (h : b.Recorded) (name : String) (clearing : List String) :
    Recorded
      { b with
        sinks := { b.sinks with table := b.sinks.table.set name [] }
        clearing := clearing
        log := b.log ++ [.fresh name] } := by
  refine ⟨fun other lines hlines => ?_, fun other => ?_⟩
  · rw [Sinks.get?_set] at hlines
    split at hlines
    · next hother =>
      cases hlines
      rw [hother]
      exact (kept_concat_mark rfl).symm
    · next hother =>
      have hmark : Entry.fresh name ≠ .fresh other := fun heq => hother (Entry.fresh.inj heq).symm
      exact (h.holds other lines hlines).trans (kept_concat_of_no_line hmark rfl).symm
  · exact (h.tells other).trans (kept_concat_of_no_line Entry.noConfusion rfl).symm

theorem Recorded.make (h : b.Recorded) (name : String) : (b.act (.make name)).Recorded := by
  rw [act]
  split
  · exact h
  · next hnone =>
    have hcreate : b.sinks.create name false = ⟨b.sinks.table.set name [], b.sinks.events⟩ := by
      simp only [Sinks.create, hnone]
    rw [hcreate]
    exact h.fresh name b.clearing

theorem Recorded.append (h : b.Recorded) (name : String) (stream : Stream) (links : Option Path)
    (text : String) : (b.act (.append name stream links text)).Recorded := by
  rw [act]
  split
  · next ls hls =>
    rw [Sinks.append_of_some hls]
    refine ⟨fun other lines hlines => ?_, fun other => ?_⟩
    · rw [Sinks.get?_set] at hlines
      dsimp only
      rw [kept_concat Entry.noConfusion, Entry.lineIn?]
      split at hlines
      · next hother =>
        cases hlines
        rw [if_pos hother.symm, Option.toList_some, hother, ← h.holds name ls hls]
      · next hother =>
        rw [if_neg (Ne.symm hother), Option.toList_none, List.append_nil]
        exact h.holds other lines hlines
    · rw [told]
      dsimp only
      rw [← List.append_assoc, ← told, rebuilt_concat, h.tells other, SinkEvent.sink,
        kept_concat Entry.noConfusion, Entry.lineIn?]
      split
      · rfl
      · rw [Option.toList_none, List.append_nil]
  · exact h

theorem Recorded.empty (h : b.Recorded) (name : String) : (b.act (.empty name)).Recorded := by
  rw [act]
  split
  · exact h.fresh name (name :: b.clearing)
  · exact h

theorem Recorded.announce (h : b.Recorded) (name : String) : (b.act (.announce name)).Recorded := by
  rw [act]
  split
  · refine ⟨fun other lines hlines => ?_, fun other => ?_⟩
    · exact (h.holds other lines hlines).trans (kept_concat_of_no_line Entry.noConfusion rfl).symm
    · rw [told]
      dsimp only
      rw [← List.append_assoc, ← told, rebuilt_concat, SinkEvent.sink]
      split
      · next hother =>
        rw [hother]
        exact (kept_concat_mark rfl).symm
      · next hother =>
        have hmark : Entry.announced name ≠ .announced other := fun heq =>
          hother (Entry.announced.inj heq)
        exact (h.tells other).trans (kept_concat_of_no_line hmark rfl).symm
  · exact h

theorem Recorded.remove (h : b.Recorded) (name : String) : (b.act (.remove name)).Recorded := by
  refine ⟨fun other lines hlines => ?_, h.tells⟩
  rw [act, Sinks.get?, Sinks.remove, Table.get?_erase] at hlines
  split at hlines
  · cases hlines
  · exact h.holds other lines hlines

theorem Recorded.receive (h : b.Recorded) : (b.act .receive).Recorded := by
  refine ⟨h.holds, fun other => ?_⟩
  rw [told, act, Sinks.drain, List.append_nil]
  exact h.tells other

theorem Recorded.act (h : b.Recorded) (a : Act) : (b.act a).Recorded := by
  cases a with
  | make name => exact h.make name
  | append name stream links text => exact h.append name stream links text
  | empty name => exact h.empty name
  | announce name => exact h.announce name
  | remove name => exact h.remove name
  | receive => exact h.receive

/-- **In every history** a sink holds the lines since it was fresh, and the
receiver has those since a clearing was announced. -/
theorem recorded_after (acts : List Act) : (after acts).Recorded := by
  induction acts using List.reverseRecOn with
  | nil =>
    refine ⟨fun name lines h => ?_, fun _ => rfl⟩
    have hnone : (after []).sinks.get? name = none := rfl
    rw [hnone] at h
    cases h
  | append_singleton acts a ih => exact after_concat acts a ▸ ih.act a

/-! ## Sinks that stay -/

/-- A step that takes no sink away. -/
def Act.stays : Act → Bool
  | .remove _ => false
  | _ => true

/-- Where no sink is taken away, whatever made a sink fresh behind one of its
lines is a clearing. -/
structure Owed (b : Broadcast) : Prop where
  /-- A sink that a line was added to is there. -/
  there : ∀ name l, .added name l ∈ b.log → (b.sinks.get? name).isSome
  /-- A line that was taken out belongs to a clearing that is announced behind
  the line, or yet to be announced. -/
  owed : ∀ name before l after, b.log = before ++ .added name l :: after → .fresh name ∈ after →
    name ∈ b.clearing ∨ .announced name ∈ after

/-- What is behind a line of a record that has one more entry. -/
theorem behind_concat {log before after : List Entry} {e : Entry} {l : Line}
    (h : log ++ [e] = before ++ .added name l :: after) :
    (after = [] ∧ e = .added name l) ∨
      ∃ after', after = after' ++ [e] ∧ log = before ++ .added name l :: after' := by
  rcases List.eq_nil_or_concat after with rfl | ⟨after', e', rfl⟩
  · have := List.append_inj' h rfl
    exact .inl ⟨rfl, List.singleton_inj.1 this.2⟩
  · rw [List.concat_eq_append, ← List.cons_append, ← List.append_assoc] at h
    obtain ⟨hlog, he⟩ := List.append_inj' h rfl
    exact .inr ⟨after', by rw [List.concat_eq_append, List.singleton_inj.1 he], hlog⟩

/-- One more entry owes nothing new: a sink is fresh again only by a clearing
that is on its way, or when it is made. -/
theorem Owed.concat {b' : Broadcast} {e : Entry} (h : b.Owed) (hlog : b'.log = b.log ++ [e])
    (hstay : ∀ name, (b.sinks.get? name).isSome → (b'.sinks.get? name).isSome)
    (hadded : ∀ name l, e = .added name l → (b.sinks.get? name).isSome)
    (hfresh : ∀ name, e = .fresh name → (b.sinks.get? name).isSome → name ∈ b'.clearing)
    (hclearing : ∀ name ∈ b.clearing, name ∈ b'.clearing ∨ e = .announced name) : b'.Owed := by
  have hthere : ∀ name l, .added name l ∈ b.log ++ [e] → (b.sinks.get? name).isSome := by
    intro name l hmem
    rcases List.mem_append.1 hmem with hold | hnew
    · exact h.there name l hold
    · exact hadded name l (List.mem_singleton.1 hnew).symm
  refine ⟨fun name l hmem => hstay name (hthere name l (hlog ▸ hmem)), ?_⟩
  intro name before l after hsplit hmem
  rw [hlog] at hsplit
  rcases behind_concat hsplit with ⟨rfl, -⟩ | ⟨after, rfl, hold⟩
  · exact absurd hmem List.not_mem_nil
  · rcases List.mem_append.1 hmem with hbehind | hnew
    · rcases h.owed name before l after hold hbehind with hon | hannounced
      · refine (hclearing name hon).imp_right fun he => ?_
        exact List.mem_append_right after (List.mem_singleton.2 he.symm)
      · exact .inr (List.mem_append_left [e] hannounced)
    · have hline : Entry.added name l ∈ b.log := by
        rw [hold]
        exact List.mem_append_right before List.mem_cons_self
      exact .inl (hfresh name (List.mem_singleton.1 hnew).symm (h.there name l hline))

/-- Giving a sink lines takes none away. -/
theorem isSome_set {s : Sinks} {ls : List Line} {es : List SinkEvent} {name other : String}
    (h : (s.get? other).isSome) : ((Sinks.mk (s.table.set name ls) es).get? other).isSome := by
  rw [Sinks.get?_set]
  split
  · rfl
  · exact h

theorem Owed.act (h : b.Owed) {a : Act} (hstays : a.stays) : (b.act a).Owed := by
  cases a with
  | make name =>
    rw [Broadcast.act]
    split
    · exact h
    · next hnone =>
      have hcreate : b.sinks.create name false = ⟨b.sinks.table.set name [], b.sinks.events⟩ := by
        simp only [Sinks.create, hnone]
      rw [hcreate]
      refine h.concat rfl (fun _ => isSome_set) (fun _ _ => Entry.noConfusion)
        (fun other he hsome => ?_) fun other hon => .inl hon
      rw [← Entry.fresh.inj he, hnone] at hsome
      cases hsome
  | append name stream links text =>
    rw [Broadcast.act]
    split
    · next ls hls =>
      rw [Sinks.append_of_some hls]
      refine h.concat rfl (fun _ => isSome_set) (fun other l he => ?_) (fun _ => Entry.noConfusion)
        fun other hon => .inl hon
      rw [← (Entry.added.inj he).1, hls]
      rfl
    · exact h
  | empty name =>
    rw [Broadcast.act]
    split
    · refine h.concat rfl (fun _ => isSome_set) (fun _ _ => Entry.noConfusion)
        (fun other he _ => ?_) fun other hon => .inl (List.mem_cons_of_mem name hon)
      rw [← Entry.fresh.inj he]
      exact List.mem_cons_self
    · exact h
  | announce name =>
    rw [Broadcast.act]
    split
    · refine h.concat rfl (fun _ hsome => hsome) (fun _ _ => Entry.noConfusion)
        (fun _ => Entry.noConfusion) fun other hon => ?_
      by_cases hother : name = other
      · exact .inr (congrArg Entry.announced hother)
      · exact .inl ((List.mem_erase_of_ne (Ne.symm hother)).2 hon)
    · exact h
  | remove name => exact absurd hstays Bool.false_ne_true
  | receive => exact ⟨h.there, h.owed⟩

theorem owed_after {acts : List Act} (h : ∀ a ∈ acts, a.stays) : (after acts).Owed := by
  induction acts using List.reverseRecOn with
  | nil =>
    refine ⟨fun _ _ hmem => absurd hmem List.not_mem_nil, fun name before l behind hnil => ?_⟩
    exact absurd hnil.symm (List.append_ne_nil_of_right_ne_nil before (List.cons_ne_nil _ _))
  | append_singleton acts a ih =>
    rw [after_concat]
    exact (ih fun a' ha' => h a' (List.mem_append_left _ ha')).act
      (h a (List.mem_append_right acts List.mem_cons_self))

/-! ## What the receiver has -/

/-- **The events of a sink rebuild it** exactly if every line that was added
is followed by both a point at which the sink was fresh and an announcement
of a clearing, or by neither. Where no sink was taken away and no clearing is
on its way, an announcement always follows, and all depends on the other
half: a line must not come between the two steps of a clearing and stay. -/
theorem rebuilt_iff {acts : List Act} {name : String} {lines : List Line}
    (hlines : (after acts).sinks.get? name = some lines) :
    (rebuilt name (after acts).told = lines ↔
      ∀ before l behind, (after acts).log = before ++ .added name l :: behind →
        (.fresh name ∈ behind ↔ .announced name ∈ behind)) ∧
    ((∀ a ∈ acts, a.stays) → name ∉ (after acts).clearing →
      (rebuilt name (after acts).told = lines ↔
        ∀ before l behind, (after acts).log = before ++ .added name l :: behind →
          .announced name ∈ behind → .fresh name ∈ behind)) := by
  have hrecorded := recorded_after acts
  have hiff : rebuilt name (after acts).told = lines ↔
      ∀ before l behind, (after acts).log = before ++ .added name l :: behind →
        (.fresh name ∈ behind ↔ .announced name ∈ behind) := by
    rw [hrecorded.tells name, hrecorded.holds name lines hlines, eq_comm]
    exact kept_eq_iff
  refine ⟨hiff, fun hstays hclearing => hiff.trans ?_⟩
  constructor
  · exact fun h before l behind hsplit => (h before l behind hsplit).2
  · intro h before l behind hsplit
    refine ⟨fun hfresh => ?_, h before l behind hsplit⟩
    exact ((owed_after hstays).owed name before l behind hsplit hfresh).resolve_left hclearing

/-- What a text of output is in a sink. -/
def outLine (text : String) : Line := Sinks.lineOf .stdout none text

/-- A line in front of a whole clearing and one behind it. -/
def inTurn : List Act :=
  [.make "x", .append "x" .stdout none "one", .empty "x", .announce "x",
    .append "x" .stdout none "two", .receive]

theorem rebuilt_inTurn :
    (after inTurn).sinks.get? "x" = some [outLine "two"] ∧
      rebuilt "x" (after inTurn).told = [outLine "two"] ∧
      ∀ before l behind, (after inTurn).log = before ++ .added "x" l :: behind →
        (.fresh "x" ∈ behind ↔ .announced "x" ∈ behind) := by
  have hlines : (after inTurn).sinks.get? "x" = some [outLine "two"] := rfl
  exact ⟨hlines, rfl, (rebuilt_iff hlines).1.1 rfl⟩

/-- A line that comes between the two steps of a clearing is in the sink, and
the receiver takes it out. And of a sink that was taken away and is made
anew nothing is announced, so that the receiver keeps the lines of the old
one. -/
theorem not_rebuilt_between :
    (∃ acts, (∀ a ∈ acts, Act.stays a) ∧ (after acts).clearing = [] ∧
      (after acts).sinks.get? "x" = some [outLine "two"] ∧ rebuilt "x" (after acts).told = []) ∧
    (∃ acts, (after acts).clearing = [] ∧ (after acts).sinks.get? "x" = some [outLine "two"] ∧
      rebuilt "x" (after acts).told = [outLine "one", outLine "two"]) := by
  exact ⟨⟨[.make "x", .append "x" .stdout none "one", .empty "x",
      .append "x" .stdout none "two", .announce "x"], by decide, rfl, rfl, rfl⟩,
    ⟨[.make "x", .append "x" .stdout none "one", .remove "x", .make "x",
      .append "x" .stdout none "two"], rfl, rfl, rfl⟩⟩

end Broadcast
end Command
end CodeDesk
