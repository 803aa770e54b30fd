import CodeDesk.Command.Sinks
import CodeDesk.Proofs.Data.Table
/-!
# Output — what a change of the sinks announces and what it leaves

A sink shows the last of the lines that were ever added to it: taking all
lines out makes it show none of them, and from then on it shows those that
are added. `Grows` says so of a change of the sinks, together with the
events that announce it, and changes one after the other compose
(`Grows.trans`). `Adds` is a change that adds lines to one sink and does
nothing else.
-/

namespace CodeDesk
namespace Command

/-- The line that a change adds to a sink. -/
def SinkEvent.lineIn? (name : String) : SinkEvent → Option Line
  | line sink l => if sink = name then some l else none
  | cleared _ => none

namespace Sinks

variable {s s' s'' : Sinks} {name other : String} {new new' : List SinkEvent}

/-- What a sink shows. -/
def shown (s : Sinks) (name : String) : List Line := (s.get? name).getD []

/-- A change of the sinks, with the events that announce it. -/
structure Grows (s s' : Sinks) (new : List SinkEvent) : Prop where
  /-- The events are told. -/
  events : s'.events = s.events ++ new
  /-- A sink that showed the last of some lines shows the last of these and
  the new ones. -/
  lines : ∀ name before, s.shown name <:+ before →
    s'.shown name <:+ before ++ new.filterMap (SinkEvent.lineIn? name)
  /-- A sink stays. -/
  keeps : ∀ name, (s.get? name).isSome → (s'.get? name).isSome

/-- A change that adds lines to one sink. -/
structure Adds (name : String) (s s' : Sinks) (new : List SinkEvent) : Prop
    extends Grows s s' new where
  /-- Nothing else is told. -/
  own : ∀ e ∈ new, ∃ l, e = .line name l

theorem Grows.refl (s : Sinks) : Grows s s [] where
  events := (List.append_nil _).symm
  lines _ _ h := by rwa [List.filterMap_nil, List.append_nil]
  keeps _ h := h

theorem Grows.trans (h : Grows s s' new) (h' : Grows s' s'' new') : Grows s s'' (new ++ new') where
  events := by rw [h'.events, h.events, List.append_assoc]
  lines name before hbefore := by
    have hnext := h'.lines name _ (h.lines name before hbefore)
    rwa [List.append_assoc, ← List.filterMap_append] at hnext
  keeps name hsome := h'.keeps name (h.keeps name hsome)

theorem Adds.refl (name : String) (s : Sinks) : Adds name s s [] :=
  ⟨.refl s, fun _ he => absurd he List.not_mem_nil⟩

theorem Adds.trans (h : Adds name s s' new) (h' : Adds name s' s'' new') :
    Adds name s s'' (new ++ new') := by
  refine ⟨h.toGrows.trans h'.toGrows, fun e he => ?_⟩
  exact (List.mem_append.1 he).elim (h.own e) (h'.own e)

/-! ## The changes there are -/

theorem get?_set (s : Sinks) (ls : List Line) (es : List SinkEvent) :
    (Sinks.mk (s.table.set name ls) es).get? other = if other = name then some ls
      else s.get? other := Table.get?_set

/-- What becomes of the sinks when a line is added to one that is there. -/
theorem append_of_some {ls : List Line} (h : s.get? name = some ls) (stream : Stream)
    (links : Option Path) (text : String) :
    s.append name stream links text = ⟨s.table.set name (ls ++ [lineOf stream links text]),
      s.events ++ [.line name (lineOf stream links text)]⟩ := by
  simp only [append, h]

/-- A line that is added to a sink that is there. -/
theorem adds_append (h : (s.get? name).isSome) (stream : Stream) (links : Option Path)
    (text : String) :
    Adds name s (s.append name stream links text) [.line name (lineOf stream links text)] := by
  obtain ⟨ls, hls⟩ := Option.isSome_iff_exists.1 h
  have hshown : s.shown name = ls := by rw [shown, hls]; rfl
  rw [append_of_some hls]
  refine ⟨⟨rfl, fun other before hbefore => ?_, fun other hsome => ?_⟩, fun e he => ?_⟩
  · rw [shown, get?_set, List.filterMap_cons, List.filterMap_nil]
    by_cases hother : other = name
    · obtain ⟨front, rfl⟩ := hbefore
      refine ⟨front, ?_⟩
      rw [SinkEvent.lineIn?, if_pos hother.symm, if_pos hother, hother, hshown]
      exact (List.append_assoc ..).symm
    · rw [SinkEvent.lineIn?, if_neg (Ne.symm hother), if_neg hother, List.append_nil]
      exact hbefore
  · rw [get?_set]
    split
    · rfl
    · exact hsome
  · exact ⟨_, List.mem_singleton.1 he⟩

/-- Nothing is added to a sink that is not there. -/
theorem append_of_none (h : s.get? name = none) (stream : Stream) (links : Option Path)
    (text : String) : s.append name stream links text = s := by
  simp only [append, h]

theorem adds_appendAll (stream : Stream) (links : Option Path) (ls : List Bytes) :
    ∃ new, Adds name s (s.appendAll name stream links ls) new := by
  induction ls generalizing s with
  | nil => exact ⟨[], .refl name s⟩
  | cons l ls ih =>
    have hfirst : ∃ new, Adds name s (s.append name stream links (Utf8.decodeLossy l)) new := by
      cases hname : s.get? name with
      | none =>
        rw [append_of_none hname]
        exact ⟨[], .refl name s⟩
      | some shown => exact ⟨_, adds_append (by rw [hname]; rfl) stream links _⟩
    obtain ⟨first, hfirst⟩ := hfirst
    obtain ⟨rest, hrest⟩ := ih (s := s.append name stream links (Utf8.decodeLossy l))
    exact ⟨first ++ rest, hfirst.trans hrest⟩

/-- A sink that is cleared shows no line that was added before. -/
theorem grows_clear (s : Sinks) (name : String) :
    ∃ new, Grows s (s.clear name) new ∧ ∀ e ∈ new, e = .cleared name := by
  unfold clear
  split
  · exact ⟨[], .refl s, fun _ he => absurd he List.not_mem_nil⟩
  · refine ⟨[.cleared name], ⟨rfl, fun other before hbefore => ?_, fun other hsome => ?_⟩,
      fun e he => List.mem_singleton.1 he⟩
    · rw [shown, get?_set]
      split
      · exact List.nil_suffix
      · have hnone : [SinkEvent.cleared name].filterMap (SinkEvent.lineIn? other) = [] := rfl
        rw [hnone, List.append_nil]
        exact hbefore
    · rw [get?_set]
      split
      · rfl
      · exact hsome

/-- A sink that is made is there, and no line is added. -/
theorem grows_create (s : Sinks) (name : String) (clear : Bool) :
    ((s.create name clear).get? name).isSome ∧
      ∃ new, Grows s (s.create name clear) new ∧ ∀ e ∈ new, e = .cleared name := by
  unfold create
  split
  · next ls hls =>
    have hthere : (s.get? name).isSome := by rw [hls]; rfl
    split
    · obtain ⟨new, hgrows, hnew⟩ := grows_clear s name
      exact ⟨hgrows.keeps name hthere, new, hgrows, hnew⟩
    · exact ⟨hthere, [], .refl s, fun _ he => absurd he List.not_mem_nil⟩
  · next hnone =>
    have hget : ∀ other, ({ s with table := s.table.set name [] } : Sinks).get? other =
        if other = name then some [] else s.get? other := fun other => get?_set s [] s.events
    refine ⟨by rw [hget, if_pos rfl]; rfl, [], ⟨(List.append_nil _).symm, ?_, ?_⟩, ?_⟩
    · intro other before hbefore
      rw [shown, hget, List.filterMap_nil, List.append_nil]
      split
      · exact List.nil_suffix
      · exact hbefore
    · intro other hsome
      rw [hget]
      split
      · rfl
      · exact hsome
    · exact fun _ he => absurd he List.not_mem_nil

end Sinks

end Command
end CodeDesk
