import CodeDesk.Proofs.Desk.Reader
import Mathlib.Data.List.Induction
/-!
# The event queue — nothing lost, repeated or moved

Producers send on the three channels of a queue, at any time and in any
order, and their sources may be closed. One consumer calls `drain` and
`wait`, over and over; `EventQueue.run` is the queue after a history of
such actions. Which source ends a wait is part of the history, so a
statement about every history is one about every choice.

`Lossless` is what the consumer can rely on. What was sent is read from
the history alone (`sent`). Of each source the consumer has got a prefix
of it. A batch completes a source up to the moment at which its channel
was found empty, so that nothing is missing once all channels are empty,
and a reading during which nothing is sent gets there. Every batch goes
from source to source. The argument is `Advance`: an action leaves the
reading alone, begins it, takes one event of the source that the reading
is at, turns to the next source because that one has nothing left, or
returns the batch.
-/

namespace CodeDesk

/-- Those of the events that come from a source. -/
def ofSource (s : EventSource) (es : List DeskEvent) : List DeskEvent :=
  es.filter fun e => e.source = s

/-- What waits in the channel of a source. -/
def Channels.waiting (c : Channels) : EventSource → List DeskEvent
  | .output => c.output.map .output
  | .run => c.runs.map .run
  | .debug => c.debug.map .debug

section Sources

variable {c : Channels} {s s' : EventSource} {e : DeskEvent}

@[simp] theorem ofSource_append (s : EventSource) (es fs : List DeskEvent) :
    ofSource s (es ++ fs) = ofSource s es ++ ofSource s fs := List.filter_append ..

theorem ofSource_singleton_of_ne (h : e.source ≠ s) : ofSource s [e] = [] :=
  List.filter_eq_nil_iff.2 fun e' he' => by
    rw [List.mem_singleton.1 he', decide_eq_true_eq]
    exact h

/-- Events in their channels are the events of each source. -/
theorem waiting_eq_ofSource (s : EventSource) (es : List DeskEvent) :
    Channels.waiting ⟨outputsOf es, runsOf es, debugsOf es⟩ s = ofSource s es := by
  induction es with
  | nil => cases s <;> rfl
  | cons e es ih => cases e <;> cases s <;> first | exact ih | exact congrArg (_ :: ·) ih

/-- Going from source to source keeps each of them. -/
theorem ofSource_bySource (s : EventSource) (es : List DeskEvent) :
    ofSource s (bySource es) = ofSource s es := by
  obtain ⟨hos, hrs, hds⟩ := Reader.sources_bySource es
  rw [← waiting_eq_ofSource, hos, hrs, hds, waiting_eq_ofSource]

/-- Source by source, output comes before runs, and runs before the
debugger. -/
theorem pairwise_bySource (es : List DeskEvent) :
    (bySource es).Pairwise fun a b => a.source.rank ≤ b.source.rank := by
  rw [← sort_eq]
  exact (List.pairwise_mergeSort notAfter_trans notAfter_total es).imp of_decide_eq_true

/-- A channel in which nothing is found holds nothing. -/
theorem waiting_eq_nil (h : c.receive? s = none) : c.waiting s = [] := by
  cases s with
  | output => rw [Channels.waiting, Reader.output_nil_of_receive? h, List.map_nil]
  | run => rw [Channels.waiting, Reader.runs_nil_of_receive? h, List.map_nil]
  | debug =>
    obtain ⟨os, rs, ds⟩ := c
    cases ds with
    | nil => rfl
    | cons d ds => cases h

theorem rank_injective {t : EventSource} (h : t.rank = s.rank) : t = s := by
  cases t <;> cases s <;> first | rfl | cases h

/-- No source is between a source and the next one. -/
theorem rank_lt_next? {t : EventSource} (hnext : s.next? = some s') (ht : t.rank < s'.rank) :
    t.rank < s.rank ∨ t = s := by
  have hle : t.rank ≤ s.rank := by
    cases s <;> cases hnext <;> exact Nat.lt_succ_iff.1 ht
  exact (Nat.lt_or_eq_of_le hle).imp_right rank_injective

/-- The debugger is the last source. -/
theorem rank_lt_debug (s : EventSource) : s.rank < EventSource.debug.rank ∨ s = .debug := by
  cases s with
  | output => exact .inl (by decide)
  | run => exact .inl (by decide)
  | debug => exact .inr rfl

end Sources

namespace Reader

/-- The next receive turns away from a source, whose channel is empty. -/
def FindsEmpty (q : Reader) (s : EventSource) : Prop :=
  q.source? = some s ∧ q.channels.receive? s = none

/-- What an action can do to a reading. -/
inductive Advance (q q' : Reader) : Prop where
  /-- Nothing. -/
  | stays (gathering : q'.gathering = q.gathering) (batches : q'.batches = q.batches)
  /-- It begins the reading, perhaps with an event that was waited for. -/
  | begins (es : List DeskEvent) (idle : q.gathering = none)
      (gathering : q'.gathering = some ⟨es, some .output⟩) (batches : q'.batches = q.batches)
  /-- It takes an event of the source. -/
  | takes (es : List DeskEvent) (s : EventSource) (e : DeskEvent)
      (before : q.gathering = some ⟨es, some s⟩) (source : e.source = s)
      (gathering : q'.gathering = some ⟨es ++ [e], some s⟩) (batches : q'.batches = q.batches)
  /-- It turns to the next source, since this one has nothing left. -/
  | turns (es : List DeskEvent) (s s' : EventSource) (before : q.gathering = some ⟨es, some s⟩)
      (found : q.channels.receive? s = none) (next : s.next? = some s')
      (gathering : q'.gathering = some ⟨es, some s'⟩) (batches : q'.batches = q.batches)
  /-- It returns the batch, since no source has anything left. -/
  | returns (es : List DeskEvent) (before : q.gathering = some ⟨es, some .debug⟩)
      (found : q.channels.receive? .debug = none) (gathering : q'.gathering = none)
      (batches : q'.batches = q.batches ++ [bySource es])

section Advance

/-- A batch is returned at the end of the debugger's events, or not at
all. -/
theorem Advance.batches_cases {q q' : Reader} (ha : Advance q q') :
    q'.batches = q.batches ∨ ∃ es, q.gathering = some ⟨es, some .debug⟩ ∧
      q.channels.receive? .debug = none ∧ q'.batches = q.batches ++ [bySource es] := by
  cases ha with
  | stays _ hb => exact .inl hb
  | begins _ _ _ hb => exact .inl hb
  | takes _ _ _ _ _ _ hb => exact .inl hb
  | turns _ _ _ _ _ _ _ hb => exact .inl hb
  | returns es hg hfound _ hb => exact .inr ⟨es, hg, hfound, hb⟩

variable {h : List ReaderAction} {q : Reader}

/-- What was returned and taken of a source, and what waits in its channel,
is what it sent. -/
theorem Faithful.account (hf : Faithful h q) (s : EventSource) :
    ofSource s q.returned ++ ofSource s q.taken ++ q.channels.waiting s = ofSource s (sent h) := by
  simp only [← waiting_eq_ofSource, ← hf.outputs, ← hf.runs, ← hf.debugs]
  cases s <;> simp only [Channels.waiting, List.map_append]

/-- What was returned and taken of a source whose channel is empty is all
that it sent. -/
theorem Faithful.account_of_empty (hf : Faithful h q) {s : EventSource}
    (hempty : q.channels.receive? s = none) :
    ofSource s (q.returned ++ q.taken) = ofSource s (sent h) := by
  rw [ofSource_append, ← hf.account s, waiting_eq_nil hempty, List.append_nil]

/-- A reading that begins with nothing takes nothing. -/
theorem Faithful.wake (hf : Faithful h q) : Faithful h q.wake := by
  obtain ⟨c, gathering, sorts, batches⟩ := q
  cases gathering with
  | some g => exact hf
  | none =>
    refine ⟨hf.outputs, hf.runs, hf.debugs, fun g hg => ?_, fun hsorts => by cases hsorts⟩
    cases hg
    exact Option.some_ne_none _

theorem advance_wake (q : Reader) : Advance q q.wake := by
  obtain ⟨c, gathering, sorts, batches⟩ := q
  cases gathering with
  | some g => exact .stays rfl rfl
  | none => exact .begins [] rfl rfl rfl

/-- **Every action advances a reading** by one step at most. -/
theorem advance_step (hf : Faithful h q) (a : ReaderAction) : Advance q (q.step a) := by
  cases a with
  | send sender e => exact .stays rfl rfl
  | drain =>
    obtain ⟨c, gathering, sorts, batches⟩ := q
    cases gathering with
    | none => exact .begins [] rfl rfl rfl
    | some g => exact .stays rfl rfl
  | wait first =>
    obtain ⟨c, gathering, sorts, batches⟩ := q
    cases gathering with
    | some g => exact .stays rfl rfl
    | none =>
      rw [step]
      cases c.receive? first with
      | none => exact .stays rfl rfl
      | some m => exact .begins [m.1] rfl rfl rfl
  | receive =>
    rcases hf.receive_cases with ⟨-, hstep⟩ | ⟨es, s, e, c', hg, hreceive, hstep⟩ |
      ⟨es, s, s', hg, hreceive, hnext, hstep⟩ | ⟨es, hg, hreceive, hstep⟩
    · exact .stays (by rw [hstep]) (by rw [hstep])
    · exact .takes es s e hg (receive?_some hreceive).1 (by rw [hstep]) (by rw [hstep])
    · exact .turns es s s' hg hreceive hnext (by rw [hstep]) (by rw [hstep])
    · exact .returns es hg hreceive (by rw [hstep]) (by rw [hstep])

/-- A reading during which nothing is sent comes to an end and leaves the
channels empty. -/
theorem receives_all {es : List DeskEvent} (hg : q.gathering = some ⟨es, some .output⟩) :
    ∃ n, (receives n q).gathering = none ∧ (receives n q).channels = .empty := by
  obtain ⟨c, gathering, sorts, batches⟩ := q
  cases hg
  refine ⟨c.size + 3, ?_⟩
  have hall : receives (c.size + 3) ⟨c, some ⟨es, some .output⟩, sorts, batches⟩ = _ :=
    receives_begun
  rw [gather_eq] at hall
  exact ⟨congrArg Reader.gathering hall, congrArg Reader.channels hall⟩

end Advance

end Reader

namespace EventQueue

open Reader (Faithful Advance)

/-- A source is ready if it has an event, or if it is closed. -/
def Ready (q : EventQueue) (s : EventSource) : Prop :=
  (q.channels.receive? s).isSome ∨ s ∈ q.closed

/-- The actions that begin a reading: a drain, or a wait that a ready source
ends, while no batch is gathered. -/
def Begins (q : EventQueue) : QueueAction → Prop
  | .drain => q.gathering = none
  | .wait s => q.gathering = none ∧ q.Ready s
  | _ => False

/-- What producers send in a history that begins when some sources are
closed. On a closed source nobody can send. -/
def sentFrom (closed : List EventSource) : List QueueAction → List DeskEvent
  | [] => []
  | .send e :: h => if e.source ∈ closed then sentFrom closed h else e :: sentFrom closed h
  | .close s :: h => sentFrom (s :: closed) h
  | .drain :: h => sentFrom closed h
  | .wait _ :: h => sentFrom closed h
  | .receive :: h => sentFrom closed h

/-- What was sent in a history. -/
def sent (h : List QueueAction) : List DeskEvent := sentFrom [] h

/-- At some moment `m` of the reading that came after the batches `bs`, the
channel of a source was found empty, and `es` holds all that the source had
sent until then. -/
def Settled (h : List QueueAction) (bs : List (List DeskEvent)) (s : EventSource)
    (es : List DeskEvent) : Prop :=
  ∃ m, m <+: h ∧ (run m).batches = bs ∧ (run m).FindsEmpty s ∧
    ofSource s es = ofSource s (sent m)

/-- What holds of the batches of a queue after a history. -/
structure Lossless (h : List QueueAction) : Prop where
  /-- Of each source, what was returned is a prefix of what was sent. -/
  inOrder : ∀ s, ofSource s (run h).returned <+: ofSource s (sent h)
  /-- A reading that returned its batch has found the channel of every
  source empty, and nothing is missing of what was sent until then. -/
  upToDate : ∀ bs b, bs ++ [b] <+: (run h).batches → ∀ s, Settled h bs s (bs ++ [b]).flatten
  /-- Between two readings, a source whose channel is empty is complete. -/
  complete : (run h).gathering = none → ∀ s, (run h).channels.receive? s = none →
    ofSource s (run h).returned = ofSource s (sent h)
  /-- A reading during which nothing is sent completes every source. -/
  caughtUp : ∀ a, (run h).Begins a → ∃ n, ∀ s,
    ofSource s (run (h ++ a :: List.replicate n .receive)).returned = ofSource s (sent h)
  /-- In every batch output comes before runs, and runs before the
  debugger. -/
  sorted : ∀ b ∈ (run h).batches, b.Pairwise fun e e' => e.source.rank ≤ e'.source.rank

section Steps

variable {q : EventQueue} {es : List DeskEvent}

theorem run_append (h k : List QueueAction) : run (h ++ k) = k.foldl step (run h) :=
  List.foldl_append

theorem run_concat (h : List QueueAction) (a : QueueAction) : run (h ++ [a]) = (run h).step a :=
  run_append h [a]

theorem sentFrom_cons (q : EventQueue) (a : QueueAction) (k : List QueueAction) :
    sentFrom q.closed (a :: k) = sentFrom q.closed [a] ++ sentFrom (q.step a).closed k := by
  cases a with
  | send e =>
    rw [sentFrom, sentFrom, sentFrom, step]
    split <;> rfl
  | close s => rfl
  | drain => rfl
  | wait first =>
    -- A wait closes nothing, whether it ends or goes on.
    have hclosed : (q.step (.wait first)).closed = q.closed := by
      rw [step]
      split
      · rfl
      · split <;> rfl
    rw [hclosed]
    rfl
  | receive => rfl

/-- What is sent behind a history depends on what it has closed. -/
theorem sentFrom_append (q : EventQueue) (h k : List QueueAction) :
    sentFrom q.closed (h ++ k) = sentFrom q.closed h ++ sentFrom (h.foldl step q).closed k := by
  induction h generalizing q with
  | nil => rfl
  | cons a h ih =>
    rw [List.cons_append, sentFrom_cons, ih, sentFrom_cons q a h, List.append_assoc,
      List.foldl_cons]

theorem sent_append (h k : List QueueAction) :
    sent (h ++ k) = sent h ++ sentFrom (run h).closed k := sentFrom_append start h k

/-- Events that are sent, as the history of a reader. -/
def sends (es : List DeskEvent) : List ReaderAction := es.map (.send none)

theorem sent_sends (es : List DeskEvent) : Reader.sent (sends es) = es := by
  rw [sends, Reader.sent, List.filterMap_map]
  exact List.filterMap_some

/-- **Every action keeps a queue faithful** to what was sent, and advances
its reading by one step at most. -/
theorem faithful_step (hf : Faithful (sends es) q.toReader) (a : QueueAction) :
    Faithful (sends (es ++ sentFrom q.closed [a])) (q.step a).toReader ∧
      Advance q.toReader (q.step a).toReader := by
  have hsame : ∀ {b : ReaderAction} {p : Reader}, Faithful (sends es ++ [b]) p →
      Reader.sent [b] = [] → Faithful (sends (es ++ [])) p := fun hp hb =>
    hp.of_sent_eq (by rw [Reader.sent_append, hb, List.append_nil, List.append_nil])
  have hkept : Faithful (sends (es ++ [])) q.toReader := (List.append_nil es).symm ▸ hf
  cases a with
  | send e =>
    rw [step, sentFrom, sentFrom]
    split
    · exact ⟨hkept, .stays rfl rfl⟩
    · refine ⟨(hf.send none e).of_sent_eq ?_, Reader.advance_step hf (.send none e)⟩
      rw [sends, List.map_append]
      rfl
  | close s => exact ⟨hkept, .stays rfl rfl⟩
  | drain => exact ⟨hsame hf.drain rfl, Reader.advance_step hf .drain⟩
  | wait first =>
    rw [step]
    split
    · exact ⟨hsame (hf.wait first) rfl, Reader.advance_step hf (.wait first)⟩
    · split
      · exact ⟨hkept.wake, Reader.advance_wake _⟩
      · exact ⟨hkept, .stays rfl rfl⟩
  | receive => exact ⟨hsame hf.receive rfl, Reader.advance_step hf .receive⟩

/-- **In every state** what was returned, taken and left behind is what was
sent. -/
theorem faithful_run (h : List QueueAction) : Faithful (sends (sent h)) (run h).toReader := by
  induction h using List.reverseRecOn with
  | nil => exact Reader.faithful_start
  | append_singleton h a ih =>
    rw [run_concat, sent_append]
    exact (faithful_step ih a).1

theorem advance_run (h : List QueueAction) (a : QueueAction) :
    Advance (run h).toReader (run (h ++ [a])).toReader := by
  rw [run_concat]
  exact (faithful_step (faithful_run h) a).2

end Steps

/-! ## A batch completes every source -/

section Settled

variable {h : List QueueAction} {bs : List (List DeskEvent)} {s s₀ : EventSource}
  {es es' : List DeskEvent}

theorem Settled.append (hs : Settled h bs s es) (k : List QueueAction) :
    Settled (h ++ k) bs s es := by
  obtain ⟨m, hm, hrest⟩ := hs
  exact ⟨m, hm.trans (List.prefix_append h k), hrest⟩

theorem Settled.of_eq (hs : Settled h bs s es) (heq : ofSource s es' = ofSource s es) :
    Settled h bs s es' := by
  obtain ⟨m, hm, hbatches, hfinds, hsent⟩ := hs
  exact ⟨m, hm, hbatches, hfinds, heq.trans hsent⟩

/-- A source whose channel is found empty is settled. -/
theorem settled_of_findsEmpty (hfinds : (run h).FindsEmpty s) :
    Settled h (run h).batches s ((run h).returned ++ (run h).taken) := by
  refine ⟨h, List.prefix_rfl, rfl, hfinds, ?_⟩
  rw [(faithful_run h).account_of_empty hfinds.2, sent_sends]

/-- **The sources before the one that a reading is at are settled.** -/
theorem settled_run (hat : (run h).source? = some s₀) (hs : s.rank < s₀.rank) :
    Settled h (run h).batches s ((run h).returned ++ (run h).taken) := by
  induction h using List.reverseRecOn generalizing s₀ s with
  | nil => cases hat
  | append_singleton h a ih =>
    have hreturned : ∀ {q q' : Reader}, q'.batches = q.batches → q'.returned = q.returned :=
      fun hb => congrArg List.flatten hb
    cases advance_run h a with
    | stays hg hb =>
      have htaken : (run (h ++ [a])).taken = (run h).taken := by rw [Reader.taken, hg, Reader.taken]
      rw [Reader.source?, hg] at hat
      rw [hb, hreturned hb, htaken]
      exact (ih hat hs).append [a]
    | begins es _ hg hb =>
      -- The output is the first source.
      rw [Reader.source?, hg] at hat
      cases hat
      exact absurd hs (Nat.not_lt_zero _)
    | takes es s₁ e hg hsource hg' hb =>
      rw [Reader.source?, hg'] at hat
      cases hat
      have hne : e.source ≠ s := fun he => absurd hs (by rw [← he, hsource]; exact Nat.lt_irrefl _)
      have hbefore := (ih (by rw [Reader.source?, hg]; rfl) hs).append [a]
      rw [hb]
      refine hbefore.of_eq ?_
      rw [hreturned hb, Reader.taken, hg', Reader.taken, hg, ← List.append_assoc, ofSource_append,
        ofSource_singleton_of_ne hne, List.append_nil]
    | turns es s₁ s₂ hg hfound hnext hg' hb =>
      rw [Reader.source?, hg'] at hat
      cases hat
      have htaken : (run (h ++ [a])).taken = (run h).taken := by
        rw [Reader.taken, hg', Reader.taken, hg]
      have hat₁ : (run h).source? = some s₁ := by rw [Reader.source?, hg]; rfl
      rw [hb, hreturned hb, htaken]
      rcases rank_lt_next? hnext hs with hlt | rfl
      · exact (ih hat₁ hlt).append [a]
      · exact (settled_of_findsEmpty ⟨hat₁, hfound⟩).append [a]
    | returns es _ _ hg hb =>
      rw [Reader.source?, hg] at hat
      cases hat

/-- **A batch that is returned settles every source.** -/
theorem settled_of_prefix {b : List DeskEvent} (hb : bs ++ [b] <+: (run h).batches)
    (s : EventSource) : Settled h bs s (bs ++ [b]).flatten := by
  induction h using List.reverseRecOn with
  | nil => exact absurd (List.prefix_nil.1 hb) (List.concat_ne_nil b bs)
  | append_singleton h a ih =>
    rcases (advance_run h a).batches_cases with hsame | ⟨es, hg, hfound, hnew⟩
    · rw [hsame] at hb
      exact (ih hb).append [a]
    · rw [hnew, List.prefix_concat_iff] at hb
      rcases hb with heq | hold
      · obtain ⟨rfl, hb⟩ := List.append_inj' heq rfl
        cases hb
        have hat : (run h).source? = some .debug := by rw [Reader.source?, hg]; rfl
        have hsettled : Settled h (run h).batches s ((run h).returned ++ (run h).taken) := by
          rcases rank_lt_debug s with hlt | rfl
          · exact settled_run hat hlt
          · exact settled_of_findsEmpty ⟨hat, hfound⟩
        refine (hsettled.append [a]).of_eq ?_
        rw [List.flatten_append, List.flatten_singleton, ofSource_append, ofSource_bySource,
          ofSource_append, Reader.taken, hg]
        rfl
      · exact (ih hold).append [a]

end Settled

/-! ## Batches in order, and readings by themselves -/

section Batches

variable {h : List QueueAction} {q : EventQueue}

/-- Every batch goes from source to source. -/
theorem batches_bySource (h : List QueueAction) : ∀ b ∈ (run h).batches, ∃ es, b = bySource es := by
  induction h using List.reverseRecOn with
  | nil => exact fun b hb => by cases hb
  | append_singleton h a ih =>
    intro b hb
    rcases (advance_run h a).batches_cases with hsame | ⟨es, -, -, hnew⟩
    · rw [hsame] at hb
      exact ih b hb
    · rw [hnew, List.mem_append, List.mem_singleton] at hb
      rcases hb with hb | rfl
      · exact ih b hb
      · exact ⟨es, rfl⟩

/-- Between two readings a source whose channel is empty is complete. -/
theorem complete_of_idle (hidle : (run h).gathering = none) {s : EventSource}
    (hempty : (run h).channels.receive? s = none) :
    ofSource s (run h).returned = ofSource s (sent h) := by
  have hall := (faithful_run h).account_of_empty hempty
  have htaken : (run h).taken = [] := by rw [Reader.taken, hidle]
  rwa [htaken, List.append_nil, sent_sends] at hall

/-- Receives go on as those of a reader. -/
theorem foldl_receive (n : Nat) (q : EventQueue) :
    (List.replicate n QueueAction.receive).foldl step q =
      { q with toReader := Reader.receives n q.toReader } := by
  induction n generalizing q with
  | zero => rfl
  | succ n ih => exact ih (q.step .receive)

/-- An action that begins a reading turns to the output. -/
theorem step_of_begins {a : QueueAction} (ha : q.Begins a) :
    ∃ es, (q.step a).gathering = some ⟨es, some .output⟩ := by
  obtain ⟨⟨c, gathering, sorts, batches⟩, closed⟩ := q
  cases a with
  | drain =>
    cases ha
    exact ⟨[], rfl⟩
  | wait first =>
    obtain ⟨hidle, hready⟩ := ha
    cases hidle
    rw [step]
    split
    · next m hreceive =>
      rw [Reader.step, hreceive]
      exact ⟨[m.1], rfl⟩
    · next hreceive =>
      rw [if_pos (hready.resolve_left (by rw [hreceive]; exact Bool.false_ne_true))]
      exact ⟨[], rfl⟩
  | send e => cases ha
  | close s => cases ha
  | receive => cases ha

/-- Nothing is sent while a reading begins and goes on. -/
theorem sent_reading {a : QueueAction} (ha : (run h).Begins a) (n : Nat) :
    sent (h ++ a :: List.replicate n .receive) = sent h := by
  have hreceives : ∀ closed, sentFrom closed (List.replicate n .receive) = [] := by
    intro closed
    induction n with
    | zero => rfl
    | succ n ih => exact ih
  rw [sent_append]
  cases a with
  | drain => exact (congrArg (sent h ++ ·) (hreceives _)).trans (List.append_nil _)
  | wait first => exact (congrArg (sent h ++ ·) (hreceives _)).trans (List.append_nil _)
  | send e => cases ha
  | close s => cases ha
  | receive => cases ha

end Batches

/-- **A queue loses, repeats and moves nothing within a source**, whatever
is sent while the consumer reads and whichever source ends each wait. -/
theorem lossless (h : List QueueAction) : Lossless h where
  inOrder s := by
    refine ⟨ofSource s (run h).taken ++ (run h).channels.waiting s, ?_⟩
    rw [← List.append_assoc, (faithful_run h).account s, sent_sends]
  upToDate _ _ hb s := settled_of_prefix hb s
  complete hidle _ hempty := complete_of_idle hidle hempty
  caughtUp a ha := by
    obtain ⟨es, hg⟩ := step_of_begins ha
    obtain ⟨n, hidle, hempty⟩ := Reader.receives_all hg
    refine ⟨n, fun s => ?_⟩
    have hrun : run (h ++ a :: List.replicate n .receive) =
        { (run h).step a with toReader := Reader.receives n ((run h).step a).toReader } := by
      rw [run_append, List.foldl_cons, foldl_receive]
    have hcomplete : ofSource s _ = ofSource s _ :=
      complete_of_idle (by rw [hrun, hidle]) (by rw [hrun, hempty]; cases s <;> rfl)
    rw [hcomplete, sent_reading ha]
  sorted b hb := by
    obtain ⟨es, rfl⟩ := batches_bySource h b hb
    exact pairwise_bySource es

/-- A run ends a wait, and its last line comes while the batch is gathered;
the line is still returned first. -/
example :
    (run (.send (.run (.finished 0 "Build" .success)) :: .wait .run ::
      .send (.output (.line "Build" ⟨.stdout, "done", "done"⟩)) ::
      List.replicate 4 .receive)).batches =
    [[.output (.line "Build" ⟨.stdout, "done", "done"⟩),
      .run (.finished 0 "Build" .success)]] := by
  cbv

end EventQueue
end CodeDesk
