import CodeDesk.Proofs.Desk.Batches
/-!
# The reader — taking batches while events are sent

A history of sends and of single receives, in any order. A reader starts a
batch with `drain`, or with `wait`, which takes the first event of a source
that has one; every `receive` is one step of gathering, and the last one
returns the batch. Sends may fall between any two of these.

`Faithful` is what holds in every state: what was returned, taken and left
in a channel is what was sent, and a batch that is not sorted in the end is
gathered in order. Without sends in between, the reader returns what
`Channels.drain` and `Channels.wait?` do (`run_drain`, `run_wait`).
-/

namespace CodeDesk

namespace Reader

open Command

/-- What was sent in a history. -/
def sent (h : List ReaderAction) : List DeskEvent :=
  h.filterMap fun
    | .send _ e => some e
    | _ => none

theorem run_append_singleton (h : List ReaderAction) (a : ReaderAction) :
    run (h ++ [a]) = (run h).step a := by
  rw [run, List.foldl_append]
  rfl

theorem sent_append (h k : List ReaderAction) : sent (h ++ k) = sent h ++ sent k :=
  List.filterMap_append

/-- What holds of a reader in every state. -/
structure Faithful (h : List ReaderAction) (q : Reader) : Prop where
  outputs : outputsOf q.returned ++ outputsOf q.taken ++ q.channels.output = outputsOf (sent h)
  runs : runsOf q.returned ++ runsOf q.taken ++ q.channels.runs = runsOf (sent h)
  debugs : debugsOf q.returned ++ debugsOf q.taken ++ q.channels.debug = debugsOf (sent h)
  active : ∀ g, q.gathering = some g → g.source ≠ none
  ordered : q.sorts = false → q.taken.Pairwise (fun a b => notAfter a b) ∧
    ∀ s, q.source? = some s → ∀ e ∈ q.taken, e.source.rank ≤ s.rank

/-! ## Channels -/

section Channels

variable {c c' : Channels} {e : DeskEvent} {s : EventSource}

/-- What is sent comes last in its channel. -/
theorem send_eq (c : Channels) (e : DeskEvent) :
    (c.send e).output = c.output ++ outputsOf [e] ∧ (c.send e).runs = c.runs ++ runsOf [e] ∧
      (c.send e).debug = c.debug ++ debugsOf [e] := by
  cases e with
  | output o => exact ⟨rfl, (List.append_nil _).symm, (List.append_nil _).symm⟩
  | run r => exact ⟨(List.append_nil _).symm, rfl, (List.append_nil _).symm⟩
  | debug d => exact ⟨(List.append_nil _).symm, (List.append_nil _).symm, rfl⟩

/-- What is received came first in its channel. -/
theorem receive?_some (h : c.receive? s = some (e, c')) :
    e.source = s ∧ outputsOf [e] ++ c'.output = c.output ∧ runsOf [e] ++ c'.runs = c.runs ∧
      debugsOf [e] ++ c'.debug = c.debug := by
  obtain ⟨os, rs, ds⟩ := c
  cases s with
  | output =>
    cases os with
    | nil => cases h
    | cons o os => cases h; exact ⟨rfl, rfl, rfl, rfl⟩
  | run =>
    cases rs with
    | nil => cases h
    | cons r rs => cases h; exact ⟨rfl, rfl, rfl, rfl⟩
  | debug =>
    cases ds with
    | nil => cases h
    | cons d ds => cases h; exact ⟨rfl, rfl, rfl, rfl⟩

/-- A source without an event has sent no output that waits. -/
theorem output_nil_of_receive? (h : c.receive? .output = none) : c.output = [] := by
  obtain ⟨os, rs, ds⟩ := c
  cases os with
  | nil => rfl
  | cons o os => cases h

/-- A source without an event has sent no events of runs that wait. -/
theorem runs_nil_of_receive? (h : c.receive? .run = none) : c.runs = [] := by
  obtain ⟨os, rs, ds⟩ := c
  cases rs with
  | nil => rfl
  | cons r rs => cases h

/-- Later sources have higher places. -/
theorem rank_next? {s' : EventSource} (h : s.next? = some s') : s.rank ≤ s'.rank := by
  cases s with
  | output => cases h; decide
  | run => cases h; decide
  | debug => cases h

end Channels

/-! ## Every state is faithful -/

section Faithful

variable {h : List ReaderAction} {q : Reader} {g : Gathering} {s s' : EventSource}
  {es : List DeskEvent} {e : DeskEvent} {c' : Channels}

/-- The sources of events, one after the other, are the events. -/
theorem sources_bySource (es : List DeskEvent) :
    outputsOf (bySource es) = outputsOf es ∧ runsOf (bySource es) = runsOf es ∧
      debugsOf (bySource es) = debugsOf es := by
  rw [← sort_eq]
  exact ⟨outputsOf_sort es, runsOf_sort es, debugsOf_sort es⟩

/-- A batch that is returned holds what was taken, source by source. -/
theorem Faithful.batch_eq (hf : Faithful h q) (hg : q.gathering = some g) :
    (if q.sorts then Channels.sort g.taken else g.taken) = bySource g.taken := by
  have htaken : q.taken = g.taken := by rw [taken, hg]
  split
  · exact sort_eq _
  · next hsorts =>
    rw [Bool.not_eq_true] at hsorts
    have hordered := (hf.ordered hsorts).1
    rw [htaken] at hordered
    exact eq_bySource hordered

/-- An event of the source that the reader is at leaves the batch in
order. -/
theorem ordered_append {es : List DeskEvent} {e : DeskEvent}
    (h : es.Pairwise (fun a b => notAfter a b) ∧ ∀ s, some e.source = some s →
      ∀ b ∈ es, b.source.rank ≤ s.rank) :
    (es ++ [e]).Pairwise (fun a b => notAfter a b) ∧ ∀ s, some e.source = some s →
      ∀ b ∈ es ++ [e], b.source.rank ≤ s.rank := by
  obtain ⟨hpair, hrank⟩ := h
  have hlast := hrank e.source rfl
  refine ⟨?_, fun s hs b hb => ?_⟩
  · rw [List.pairwise_append]
    refine ⟨hpair, List.pairwise_singleton _ _, fun a ha b hb => ?_⟩
    rw [List.mem_singleton.1 hb]
    exact decide_eq_true (hlast a ha)
  · cases hs
    rcases List.mem_append.1 hb with hb | hb
    · exact hlast b hb
    · cases List.mem_singleton.1 hb
      exact Nat.le_refl _

/-- Nothing was sent before the start. -/
theorem faithful_start : Faithful [] start where
  outputs := rfl
  runs := rfl
  debugs := rfl
  active := fun g hg => by cases hg
  ordered := fun _ => ⟨List.Pairwise.nil, fun s hs => by cases hs⟩

/-- What is sent waits in its channel. -/
theorem Faithful.send (hf : Faithful h q) (sender : Option RunId) (e : DeskEvent) :
    Faithful (h ++ [.send sender e]) (q.step (.send sender e)) := by
  obtain ⟨houtput, hruns, hdebug⟩ := send_eq q.channels e
  have hsent : sent (h ++ [.send sender e]) = sent h ++ [e] := sent_append h [.send sender e]
  refine ⟨?_, ?_, ?_, hf.active, hf.ordered⟩
  · rw [hsent, outputsOf_append, ← hf.outputs, List.append_assoc _ q.channels.output, ← houtput]
    rfl
  · rw [hsent, runsOf_append, ← hf.runs, List.append_assoc _ q.channels.runs, ← hruns]
    rfl
  · rw [hsent, debugsOf_append, ← hf.debugs, List.append_assoc _ q.channels.debug, ← hdebug]
    rfl

/-- Of a history, only what was sent matters. -/
theorem Faithful.of_sent_eq (hf : Faithful h q) {k : List ReaderAction}
    (hsent : sent k = sent h) : Faithful k q :=
  ⟨hsent ▸ hf.outputs, hsent ▸ hf.runs, hsent ▸ hf.debugs, hf.active, hf.ordered⟩

/-- An action that sends nothing leaves what was sent. -/
theorem Faithful.of_sent_nil (hf : Faithful h q) {a : ReaderAction} (ha : sent [a] = []) :
    Faithful (h ++ [a]) q :=
  hf.of_sent_eq (by rw [sent_append, ha, List.append_nil])

/-- A drain starts with nothing. -/
theorem Faithful.drain (hf : Faithful h q) : Faithful (h ++ [.drain]) (q.step .drain) := by
  have hsame : Faithful (h ++ [.drain]) q := hf.of_sent_nil rfl
  obtain ⟨c, gathering, sorts, batches⟩ := q
  cases gathering with
  | none =>
    refine ⟨hsame.outputs, hsame.runs, hsame.debugs, fun g hg => ?_, fun _ => ?_⟩
    · cases hg
      exact Option.some_ne_none _
    · exact ⟨List.Pairwise.nil, fun s _ e he => by cases he⟩
  | some g => exact hsame

/-- A wait starts with the event that ended it. -/
theorem Faithful.wait (hf : Faithful h q) (first : EventSource) :
    Faithful (h ++ [.wait first]) (q.step (.wait first)) := by
  have hsame : Faithful (h ++ [.wait first]) q := hf.of_sent_nil rfl
  obtain ⟨c, gathering, sorts, batches⟩ := q
  cases gathering with
  | some g => exact hsame
  | none =>
    rw [step]
    cases hreceive : c.receive? first with
    | none => exact hsame
    | some m =>
      obtain ⟨e, c'⟩ := m
      obtain ⟨-, houtput, hruns, hdebug⟩ := receive?_some hreceive
      have houtputs := hsame.outputs
      have hruns' := hsame.runs
      have hdebugs := hsame.debugs
      simp only [taken, outputsOf_nil, runsOf_nil, debugsOf_nil, List.append_nil, ← houtput,
        ← hruns, ← hdebug] at houtputs hruns' hdebugs
      refine ⟨?_, ?_, ?_, fun g hg => ?_, fun hsorts => by cases hsorts⟩
      · rw [← houtputs, List.append_assoc]; rfl
      · rw [← hruns', List.append_assoc]; rfl
      · rw [← hdebugs, List.append_assoc]; rfl
      · cases hg
        exact Option.some_ne_none _

/-- **What one receive can do**: nothing, take the first event of the
source, turn to the next source, or return the batch. -/
theorem Faithful.receive_cases (hf : Faithful h q) :
    (q.gathering = none ∧ q.step .receive = q) ∨
    (∃ es s e c', q.gathering = some ⟨es, some s⟩ ∧ q.channels.receive? s = some (e, c') ∧
      q.step .receive = { q with channels := c', gathering := some ⟨es ++ [e], some s⟩ }) ∨
    (∃ es s s', q.gathering = some ⟨es, some s⟩ ∧ q.channels.receive? s = none ∧
      s.next? = some s' ∧ q.step .receive = { q with gathering := some ⟨es, some s'⟩ }) ∨
    (∃ es, q.gathering = some ⟨es, some .debug⟩ ∧ q.channels.receive? .debug = none ∧
      q.step .receive = ⟨q.channels, none, false, q.batches ++ [bySource es]⟩) := by
  cases hg : q.gathering with
  | none =>
    left
    exact ⟨rfl, by rw [step, hg]⟩
  | some g =>
    have hbatch := hf.batch_eq hg
    obtain ⟨es, source⟩ := g
    cases source with
    | none => exact absurd rfl (hf.active _ hg)
    | some s =>
      right
      cases hreceive : q.channels.receive? s with
      | some m =>
        left
        refine ⟨es, s, m.1, m.2, rfl, hreceive, ?_⟩
        rw [step, hg]
        simp only [Gathering.step, hreceive, proceed]
      | none =>
        right
        cases hnext : s.next? with
        | some s' =>
          left
          refine ⟨es, s, s', rfl, hreceive, hnext, ?_⟩
          rw [step, hg]
          simp only [Gathering.step, hreceive, hnext, proceed]
        | none =>
          right
          have hs : s = .debug := by cases s <;> first | rfl | cases hnext
          subst hs
          refine ⟨es, rfl, hreceive, ?_⟩
          rw [step, hg]
          simp only [Gathering.step, hreceive, hnext, proceed, hbatch]

/-- An event that is taken is no longer in its channel. -/
theorem Faithful.take (hf : Faithful h q) (hg : q.gathering = some ⟨es, some s⟩)
    (hreceive : q.channels.receive? s = some (e, c')) :
    Faithful h { q with channels := c', gathering := some ⟨es ++ [e], some s⟩ } := by
  obtain ⟨hsource, houtput, hruns, hdebug⟩ := receive?_some hreceive
  have htaken : q.taken = es := by rw [taken, hg]
  refine ⟨?_, ?_, ?_, fun g hg' => ?_, fun hsorts => ?_⟩
  · rw [← hf.outputs, htaken, ← houtput, ← List.append_assoc, List.append_assoc _ (outputsOf es)]
    exact congrArg (fun es => outputsOf q.returned ++ es ++ c'.output) (outputsOf_append es [e])
  · rw [← hf.runs, htaken, ← hruns, ← List.append_assoc, List.append_assoc _ (runsOf es)]
    exact congrArg (fun es => runsOf q.returned ++ es ++ c'.runs) (runsOf_append es [e])
  · rw [← hf.debugs, htaken, ← hdebug, ← List.append_assoc, List.append_assoc _ (debugsOf es)]
    exact congrArg (fun es => debugsOf q.returned ++ es ++ c'.debug) (debugsOf_append es [e])
  · cases hg'
    exact Option.some_ne_none _
  · have hordered := hf.ordered hsorts
    rw [htaken, source?, hg] at hordered
    rw [← hsource] at hordered ⊢
    exact ordered_append hordered

/-- Turning to the next source takes nothing. -/
theorem Faithful.turn (hf : Faithful h q) (hg : q.gathering = some ⟨es, some s⟩)
    (hnext : s.next? = some s') : Faithful h { q with gathering := some ⟨es, some s'⟩ } := by
  have htaken : q.taken = es := by rw [taken, hg]
  refine ⟨?_, ?_, ?_, fun g hg' => ?_, fun hsorts => ?_⟩
  · rw [← hf.outputs, htaken]; rfl
  · rw [← hf.runs, htaken]; rfl
  · rw [← hf.debugs, htaken]; rfl
  · cases hg'
    exact Option.some_ne_none _
  · obtain ⟨hpair, hrank⟩ := hf.ordered hsorts
    rw [htaken] at hpair hrank
    refine ⟨hpair, fun s'' hs'' e he => ?_⟩
    cases hs''
    exact Nat.le_trans (hrank s (by rw [source?, hg]; rfl) e he) (rank_next? hnext)

/-- A batch that is returned holds what was taken. -/
theorem Faithful.give (hf : Faithful h q) (hg : q.gathering = some ⟨es, some s⟩) :
    Faithful h ⟨q.channels, none, false, q.batches ++ [bySource es]⟩ := by
  have htaken : q.taken = es := by rw [taken, hg]
  have hreturned : returned ⟨q.channels, none, false, q.batches ++ [bySource es]⟩ =
      q.returned ++ bySource es := by
    rw [returned, List.flatten_append, List.flatten_singleton, returned]
  obtain ⟨hos, hrs, hds⟩ := sources_bySource es
  refine ⟨?_, ?_, ?_, fun g hg' => (nomatch hg'), fun _ => ?_⟩
  · rw [← hf.outputs, htaken, hreturned, outputsOf_append, hos]
    exact congrArg (· ++ _) (List.append_nil _)
  · rw [← hf.runs, htaken, hreturned, runsOf_append, hrs]
    exact congrArg (· ++ _) (List.append_nil _)
  · rw [← hf.debugs, htaken, hreturned, debugsOf_append, hds]
    exact congrArg (· ++ _) (List.append_nil _)
  · exact ⟨List.Pairwise.nil, fun s hs => by cases hs⟩

/-- **A receive loses nothing**, and repeats nothing. -/
theorem Faithful.receive (hf : Faithful h q) : Faithful (h ++ [.receive]) (q.step .receive) := by
  have hsame : Faithful (h ++ [.receive]) q := hf.of_sent_nil rfl
  rcases hf.receive_cases with ⟨-, hstep⟩ | ⟨es, s, e, c', hg, hreceive, hstep⟩ |
    ⟨es, s, s', hg, -, hnext, hstep⟩ | ⟨es, hg, -, hstep⟩
  · rw [hstep]
    exact hsame
  · rw [hstep]
    exact hsame.take hg hreceive
  · rw [hstep]
    exact hsame.turn hg hnext
  · rw [hstep]
    exact hsame.give hg

/-- Every action keeps a reader faithful. -/
theorem Faithful.step (hf : Faithful h q) (a : ReaderAction) :
    Faithful (h ++ [a]) (q.step a) := by
  cases a with
  | send sender e => exact hf.send sender e
  | drain => exact hf.drain
  | wait first => exact hf.wait first
  | receive => exact hf.receive

/-- **In every state** what was returned, taken and left behind is what was
sent. -/
theorem faithful_run (h : List ReaderAction) : Faithful h (run h) := by
  -- The history before has to be carried along, since `Faithful` is about all that was sent.
  have hfrom : ∀ (k h : List ReaderAction) (q : Reader), Faithful h q →
      Faithful (h ++ k) (k.foldl Reader.step q) := by
    intro k
    induction k with
    | nil => exact fun h q hf => by rwa [List.append_nil]
    | cons a k ih =>
      intro h q hf
      have hnext := ih (h ++ [a]) (q.step a) (hf.step a)
      rwa [List.append_assoc, List.singleton_append] at hnext
  exact hfrom h [] start faithful_start

end Faithful

/-! ## Readings without sends in between -/

section Alone

variable {c c' : Channels} {e : DeskEvent} {es : List DeskEvent} {s : EventSource}
  {sorts : Bool} {batches : List (List DeskEvent)}

/-- Receives, one after the other. -/
def receives (n : Nat) (q : Reader) : Reader :=
  (List.replicate n ReaderAction.receive).foldl step q

/-- A batch that was returned is not gathered any more. -/
theorem receives_rest (n : Nat) :
    receives n ⟨c, none, sorts, batches⟩ = ⟨c, none, sorts, batches⟩ := by
  induction n with
  | zero => rfl
  | succ n ih => exact ih

/-- Gathering that has seen every source stays as it is. -/
theorem steps_ended (n : Nat) (es : List DeskEvent) (c : Channels) :
    Gathering.steps n ⟨es, none⟩ c = (⟨es, none⟩, c) := by
  induction n with
  | zero => rfl
  | succ n ih => exact ih

/-- Receives are the steps of gathering. -/
theorem receives_eq (n : Nat) :
    receives n ⟨c, some ⟨es, some s⟩, sorts, batches⟩ =
      proceed ⟨c, some ⟨es, some s⟩, sorts, batches⟩ (Gathering.steps n ⟨es, some s⟩ c).1
        (Gathering.steps n ⟨es, some s⟩ c).2 := by
  induction n generalizing c es s with
  | zero => rfl
  | succ n ih =>
    rw [Gathering.steps]
    have hfirst : receives (n + 1) ⟨c, some ⟨es, some s⟩, sorts, batches⟩ =
        receives n (proceed ⟨c, some ⟨es, some s⟩, sorts, batches⟩
          (Gathering.step ⟨es, some s⟩ c).1 (Gathering.step ⟨es, some s⟩ c).2) := rfl
    rw [hfirst]
    generalize Gathering.step ⟨es, some s⟩ c = m
    obtain ⟨⟨es', source⟩, c'⟩ := m
    cases source with
    | some s' => exact ih
    | none =>
      simp only [proceed, receives_rest, steps_ended]

/-- **A reading during which nothing is sent** takes all there is, after
what it began with. -/
theorem receives_begun :
    receives (c.size + 3) ⟨c, some ⟨es, some .output⟩, sorts, batches⟩ =
      ⟨(c.gather es).2, none, false, batches ++
        [if sorts then Channels.sort (c.gather es).1 else (c.gather es).1]⟩ := by
  rw [receives_eq, Channels.gather, steps_size]
  rfl

/-- **A drain during which nothing is sent** returns what `Channels.drain`
does. -/
theorem run_drain :
    receives (c.size + 3) (step ⟨c, none, sorts, batches⟩ .drain) =
      ⟨c.drain.2, none, false, batches ++ [c.drain.1]⟩ :=
  receives_begun

/-- **A wait during which nothing is sent** returns what `Channels.wait?`
does. -/
theorem run_wait {first : EventSource} (h : c.wait? first = some (es, c')) :
    ∃ n, receives n (step ⟨c, none, sorts, batches⟩ (.wait first)) =
      ⟨c', none, false, batches ++ [es]⟩ := by
  rw [Channels.wait?] at h
  cases hreceive : c.receive? first with
  | none => rw [hreceive] at h; cases h
  | some m =>
    obtain ⟨e, c₁⟩ := m
    rw [hreceive] at h
    cases h
    refine ⟨c₁.size + 3, ?_⟩
    rw [step, hreceive]
    exact receives_begun

end Alone

end Reader

end CodeDesk
