import CodeDesk.Find.Replacer
import CodeDesk.Proofs.Text.Pieces
/-!
# Exchanged matches — the text and the tracked regions agree

The invariant behind replacing matches in any order. A text is cut into
pieces at its matches; `exchanged` are its pieces once some of the matches
were replaced, all of them at once, and `trackAt` is what a replacer
remembers then: where each match was found, and where it is in the
exchanged text while it is pending. One replacement goes from the one state
to the other (`adjustAll_trackAt`): matches before the edit stay, matches
behind it move along, whatever lines and columns the new text adds.
-/

namespace CodeDesk
namespace Find

open Replacer

section Exchange

variable (new : List Char → List Char) (done : List Region)

/-- Pieces that start at `p`, with the matches whose regions are `done`
exchanged for what is `new` in their place. -/
def exchanged (p : Pos) : List Piece → List Piece
  | [] => []
  | x :: xs =>
    ⟨x.gap, if x.region p ∈ done then new x.found else x.found⟩ :: exchanged (x.region p).stop xs

/-- The matches of pieces that start at `p`, tracked while the pieces start
at `q`. -/
def trackAt (p q : Pos) (xs : List Piece) : List Tracked :=
  ((regionsAt p xs).zip (regionsAt q (exchanged new done p xs))).map fun m =>
    ⟨m.1, if m.1 ∈ done then none else some m.2⟩

/-- Where the pending matches of pieces are while the pieces start at
`q`. -/
def pendingAt (p q : Pos) (xs : List Piece) : List Region :=
  ((regionsAt p xs).zip (regionsAt q (exchanged new done p xs))).filterMap fun m =>
    if m.1 ∈ done then none else some m.2

/-- The pieces whose matches are pending. -/
def pendingPieces (p : Pos) (xs : List Piece) : List Piece :=
  ((regionsAt p xs).zip xs).filterMap fun m => if m.1 ∈ done then none else some m.2

variable {new done} {done' : List Region} {p q : Pos}

theorem exchanged_cons_done {x : Piece} (h : x.region p ∈ done) (xs : List Piece) :
    exchanged new done p (x :: xs) =
      ⟨x.gap, new x.found⟩ :: exchanged new done (x.region p).stop xs := by
  rw [exchanged, if_pos h]

theorem exchanged_cons_pending {x : Piece} (h : x.region p ∉ done) (xs : List Piece) :
    exchanged new done p (x :: xs) = x :: exchanged new done (x.region p).stop xs := by
  rw [exchanged, if_neg h]

/-- What is tracked of a match that was replaced. -/
theorem trackAt_cons_done {x : Piece} (h : x.region p ∈ done) (xs : List Piece) :
    trackAt new done p q (x :: xs) =
      ⟨x.region p, none⟩ ::
        trackAt new done (x.region p).stop ((q.after x.gap).after (new x.found)) xs := by
  rw [trackAt, exchanged_cons_done h, regionsAt, regionsAt, List.zip_cons_cons,
    List.map_cons, if_pos h]
  rfl

/-- What is tracked of a match that is pending. -/
theorem trackAt_cons_pending {x : Piece} (h : x.region p ∉ done) (xs : List Piece) :
    trackAt new done p q (x :: xs) =
      ⟨x.region p, some (x.region q)⟩ ::
        trackAt new done (x.region p).stop (x.region q).stop xs := by
  rw [trackAt, exchanged_cons_pending h, regionsAt, regionsAt, List.zip_cons_cons,
    List.map_cons, if_neg h]
  rfl

theorem pendingAt_cons_done {x : Piece} (h : x.region p ∈ done) (xs : List Piece) :
    pendingAt new done p q (x :: xs) =
      pendingAt new done (x.region p).stop ((q.after x.gap).after (new x.found)) xs := by
  rw [pendingAt, exchanged_cons_done h, regionsAt, regionsAt, List.zip_cons_cons,
    List.filterMap_cons, if_pos h]
  rfl

theorem pendingAt_cons_pending {x : Piece} (h : x.region p ∉ done) (xs : List Piece) :
    pendingAt new done p q (x :: xs) =
      x.region q :: pendingAt new done (x.region p).stop (x.region q).stop xs := by
  rw [pendingAt, exchanged_cons_pending h, regionsAt, regionsAt, List.zip_cons_cons,
    List.filterMap_cons, if_neg h]
  rfl

theorem pendingPieces_cons_done {x : Piece} (h : x.region p ∈ done) (xs : List Piece) :
    pendingPieces done p (x :: xs) = pendingPieces done (x.region p).stop xs := by
  rw [pendingPieces, regionsAt, List.zip_cons_cons, List.filterMap_cons, if_pos h]
  rfl

theorem pendingPieces_cons_pending {x : Piece} (h : x.region p ∉ done) (xs : List Piece) :
    pendingPieces done p (x :: xs) = x :: pendingPieces done (x.region p).stop xs := by
  rw [pendingPieces, regionsAt, List.zip_cons_cons, List.filterMap_cons, if_neg h]
  rfl

/-- Every piece keeps its place among the pieces. -/
theorem length_exchanged (xs : List Piece) : (exchanged new done p xs).length = xs.length := by
  induction xs generalizing p with
  | nil => rfl
  | cons x xs ih => rw [exchanged, List.length_cons, ih, List.length_cons]

theorem exchanged_append (xs ys : List Piece) :
    exchanged new done p (xs ++ ys) =
      exchanged new done p xs ++ exchanged new done (p.after (textOf xs)) ys := by
  induction xs generalizing p with
  | nil => rfl
  | cons x xs ih =>
    simp only [List.cons_append, exchanged, ih, textOf_cons, Piece.region, Pos.after_append]

theorem trackAt_append (xs ys : List Piece) :
    trackAt new done p q (xs ++ ys) =
      trackAt new done p q xs ++ trackAt new done (p.after (textOf xs))
        (q.after (textOf (exchanged new done p xs))) ys := by
  rw [trackAt, exchanged_append, regionsAt_append, regionsAt_append, List.zip_append,
    List.map_append, trackAt, trackAt]
  rw [length_regionsAt, length_regionsAt, length_exchanged]

/-- Nothing is exchanged before the first replacement. -/
theorem exchanged_nil (xs : List Piece) : exchanged new [] p xs = xs := by
  induction xs generalizing p with
  | nil => rfl
  | cons x xs ih => rw [exchanged, ih, if_neg List.not_mem_nil]

/-- **A search leaves every match where it was found.** -/
theorem trackAt_start (xs : List Piece) :
    trackAt new [] p p xs = (regionsAt p xs).map fun r => ⟨r, some r⟩ := by
  have hsame : ∀ rs : List Region, (rs.zip rs).map (fun m => (⟨m.1, some m.2⟩ : Tracked)) =
      rs.map fun r => ⟨r, some r⟩ := by
    intro rs
    induction rs with
    | nil => rfl
    | cons r rs ih => rw [List.zip_cons_cons, List.map_cons, ih, List.map_cons]
  rw [trackAt, exchanged_nil, ← hsame]
  rfl

/-- A match is tracked under the region it was found at. -/
theorem found_of_mem_trackAt {t : Tracked} {xs : List Piece}
    (ht : t ∈ trackAt new done p q xs) : t.found ∈ regionsAt p xs := by
  obtain ⟨m, hm, rfl⟩ := List.mem_map.1 ht
  exact (List.of_mem_zip hm).1

/-- Only the matches among the pieces count. -/
theorem exchanged_congr {xs : List Piece} (h : ∀ r ∈ regionsAt p xs, r ∈ done ↔ r ∈ done') :
    exchanged new done p xs = exchanged new done' p xs := by
  induction xs generalizing p with
  | nil => rfl
  | cons x xs ih =>
    have hx := h _ List.mem_cons_self
    simp only [exchanged, hx, ih fun r hr => h r (List.mem_cons_of_mem _ hr)]

/-- What is tracked depends on the matches among the pieces. -/
theorem trackAt_congr {xs : List Piece} (h : ∀ r ∈ regionsAt p xs, r ∈ done ↔ r ∈ done') :
    trackAt new done p q xs = trackAt new done' p q xs := by
  induction xs generalizing p q with
  | nil => rfl
  | cons x xs ih =>
    have hx := h _ List.mem_cons_self
    have hxs : ∀ r ∈ regionsAt (x.region p).stop xs, r ∈ done ↔ r ∈ done' := fun r hr =>
      h r (List.mem_cons_of_mem _ hr)
    by_cases hdone : x.region p ∈ done
    · rw [trackAt_cons_done hdone, trackAt_cons_done (hx.1 hdone), ih hxs]
    · rw [trackAt_cons_pending hdone, trackAt_cons_pending (hdone ∘ hx.2), ih hxs]

/-- Which matches count besides one that is not among the pieces. -/
theorem mem_cons_iff_of_not_mem {r : Region} {rs : List Region} (h : r ∉ rs) :
    ∀ s ∈ rs, s ∈ r :: done ↔ s ∈ done := by
  intro s hs
  rw [List.mem_cons, or_iff_right]
  exact fun heq => h (heq ▸ hs)

/-- The pieces around a match that is pending. -/
theorem exchanged_at_pending {xs zs : List Piece} {x : Piece}
    (h : x.region (p.after (textOf xs)) ∉ done) :
    exchanged new done p (xs ++ x :: zs) =
      exchanged new done p xs ++
        x :: exchanged new done (x.region (p.after (textOf xs))).stop zs := by
  rw [exchanged_append, exchanged_cons_pending h]

/-- The pieces around a match that is replaced next. -/
theorem exchanged_at_done {xs zs : List Piece} {x : Piece}
    (hnodup : (regionsAt p (xs ++ x :: zs)).Nodup) :
    exchanged new (x.region (p.after (textOf xs)) :: done) p (xs ++ x :: zs) =
      exchanged new done p xs ++
        ⟨x.gap, new x.found⟩ ::
          exchanged new done (x.region (p.after (textOf xs))).stop zs := by
  obtain ⟨hbefore, hbehind⟩ := not_mem_regionsAt_of_nodup hnodup
  rw [exchanged_append, exchanged_cons_done List.mem_cons_self,
    exchanged_congr (mem_cons_iff_of_not_mem hbefore),
    exchanged_congr (mem_cons_iff_of_not_mem hbehind)]

/-! ## Pending matches -/

/-- Where a match is now. -/
theorem find?_trackAt {xs zs : List Piece} {x : Piece}
    (h : x.region (p.after (textOf xs)) ∉ regionsAt p xs) :
    (trackAt new done p q (xs ++ x :: zs)).find?
        (fun t => t.found == x.region (p.after (textOf xs))) =
      some ⟨x.region (p.after (textOf xs)),
        if x.region (p.after (textOf xs)) ∈ done then none
        else some (x.region (q.after (textOf (exchanged new done p xs))))⟩ := by
  have hbefore : (trackAt new done p q xs).find?
      (fun t => t.found == x.region (p.after (textOf xs))) = none := by
    rw [List.find?_eq_none]
    intro t ht heq
    exact h (beq_iff_eq.1 heq ▸ found_of_mem_trackAt ht)
  rw [trackAt_append, List.find?_append, hbefore, Option.none_or]
  by_cases hdone : x.region (p.after (textOf xs)) ∈ done
  · rw [trackAt_cons_done hdone, if_pos hdone]
    exact List.find?_cons_of_pos (beq_self_eq_true _)
  · rw [trackAt_cons_pending hdone, if_neg hdone]
    exact List.find?_cons_of_pos (beq_self_eq_true _)

/-- The pending matches lie where the exchanged pieces have them. -/
theorem filterMap_now_trackAt (xs : List Piece) :
    (trackAt new done p q xs).filterMap (·.now) = pendingAt new done p q xs := by
  rw [trackAt, List.filterMap_map, pendingAt]
  rfl

/-- There are as many pending matches as regions that are not done. -/
theorem length_pendingAt (xs : List Piece) :
    (pendingAt new done p q xs).length =
      ((regionsAt p xs).filter fun r => !done.contains r).length := by
  induction xs generalizing p q with
  | nil => rfl
  | cons x xs ih =>
    rw [regionsAt, List.filter_cons]
    by_cases hdone : x.region p ∈ done
    · rw [pendingAt_cons_done hdone, ih, if_neg (by simp [hdone])]
    · rw [pendingAt_cons_pending hdone, List.length_cons, ih, if_pos (by simp [hdone]),
        List.length_cons]

/-- **Every pending match covers its characters**, wherever the text before
it moved it. -/
theorem slice?_pendingAt (before behind : List Char) (hq : q = Pos.after ⟨0, 0⟩ before)
    (xs : List Piece) :
    (pendingAt new done p q xs).map
        (·.slice? (before ++ textOf (exchanged new done p xs) ++ behind)) =
      (pendingPieces done p xs).map fun x => some x.found := by
  induction xs generalizing p q before with
  | nil => rfl
  | cons x xs ih =>
    by_cases hdone : x.region p ∈ done
    · have htail := ih (before ++ x.gap ++ new x.found)
        (q := (q.after x.gap).after (new x.found)) (p := (x.region p).stop)
        (by rw [hq, Pos.after_append, Pos.after_append])
      simp only [List.append_assoc] at htail
      rw [pendingAt_cons_done hdone, pendingPieces_cons_done hdone, exchanged_cons_done hdone]
      simp only [textOf_cons, List.append_assoc]
      exact htail
    · have htail := ih (before ++ x.gap ++ x.found) (q := (q.after x.gap).after x.found)
        (p := (x.region p).stop) (by rw [hq, Pos.after_append, Pos.after_append])
      have hslice : (x.region q).slice? (before ++ textOf (x :: exchanged new done
          (x.region p).stop xs) ++ behind) = some x.found := by
        have hmiddle := slice?_middle (before ++ x.gap) x.found
          (textOf (exchanged new done (x.region p).stop xs) ++ behind)
        rw [Pos.after_append, ← hq] at hmiddle
        rw [← hmiddle, textOf_cons]
        simp only [List.append_assoc]
        rfl
      rw [pendingAt_cons_pending hdone, pendingPieces_cons_pending hdone,
        exchanged_cons_pending hdone, List.map_cons, List.map_cons, hslice]
      simp only [List.append_assoc, textOf_cons] at htail ⊢
      rw [← htail]
      rfl

/-! ## One replacement -/

section Adjust

variable {l : Link} {e : TextEdit} {t : Tracked} {old : List Char} {newStop start : Pos}

theorem adjustAll_append (ts us : List Tracked) :
    adjustAll l e (ts ++ us) = adjustAll l e ts ++ adjustAll l e us :=
  List.map_append

/-- The match that was replaced is no longer pending. -/
theorem adjustAll_cons_self (h : t.found = l.region) (ts : List Tracked) :
    adjustAll l e (t :: ts) = ⟨t.found, none⟩ :: adjustAll l e ts := by
  rw [adjustAll, List.map_cons, if_pos (beq_iff_eq.2 h), adjustAll]

/-- Every other match is adjusted to the edit. -/
theorem adjustAll_cons_of_ne (h : l.region ≠ t.found) (ts : List Tracked) :
    adjustAll l e (t :: ts) =
      ⟨t.found, t.now.bind fun r => r.adjusted e⟩ :: adjustAll l e ts := by
  rw [adjustAll, List.map_cons, if_neg (by simp [Ne.symm h]), adjustAll]

/-- Matches before the edited one stay where they are. -/
theorem adjustAll_before (hold : old ≠ []) {xs : List Piece} (hr : l.region ∉ regionsAt p xs)
    {between : List Char}
    (hstart : start = (q.after (textOf (exchanged new done p xs))).after between) :
    adjustAll l ⟨⟨start, start.after old⟩, newStop⟩ (trackAt new done p q xs) =
      trackAt new done p q xs := by
  induction xs generalizing p q with
  | nil => rfl
  | cons x xs ih =>
    rw [regionsAt, List.mem_cons, not_or] at hr
    by_cases hdone : x.region p ∈ done
    · rw [exchanged_cons_done hdone, textOf_cons, Pos.after_append, Pos.after_append] at hstart
      rw [trackAt_cons_done hdone, adjustAll_cons_of_ne hr.1, ih hr.2 hstart, Option.bind_none]
    · rw [exchanged_cons_pending hdone, textOf_cons, Pos.after_append, Pos.after_append] at hstart
      have hstay : (x.region q).adjusted ⟨⟨start, start.after old⟩, newStop⟩ =
          some (x.region q) := by
        rw [hstart, ← Pos.after_append]
        exact adjusted_of_before newStop hold
      have htail := ih (q := (x.region q).stop) hr.2 hstart
      rw [trackAt_cons_pending hdone, adjustAll_cons_of_ne hr.1, htail, Option.bind_some, hstay]

/-- Matches behind the edited one move along with their text. -/
theorem adjustAll_behind (hold : old ≠ []) {xs : List Piece} (hr : l.region ∉ regionsAt p xs)
    {u v : Pos} {between : List Char} (hu : u = (start.after old).after between)
    (hv : v = newStop.after between) :
    adjustAll l ⟨⟨start, start.after old⟩, newStop⟩ (trackAt new done p u xs) =
      trackAt new done p v xs := by
  -- What stands between the edit and the next piece grows along the way.
  induction xs generalizing p u v between with
  | nil => rfl
  | cons x xs ih =>
    rw [regionsAt, List.mem_cons, not_or] at hr
    by_cases hdone : x.region p ∈ done
    · have htail := ih (u := (u.after x.gap).after (new x.found))
        (v := (v.after x.gap).after (new x.found)) hr.2
        (by rw [hu, ← Pos.after_append, ← Pos.after_append])
        (by rw [hv, ← Pos.after_append, ← Pos.after_append])
      rw [trackAt_cons_done hdone, trackAt_cons_done hdone, adjustAll_cons_of_ne hr.1, htail,
        Option.bind_none]
    · have htail : adjustAll l ⟨⟨start, start.after old⟩, newStop⟩
          (trackAt new done (x.region p).stop (x.region u).stop xs) =
            trackAt new done (x.region p).stop (x.region v).stop xs :=
        ih (u := (u.after x.gap).after x.found) (v := (v.after x.gap).after x.found) hr.2
          (by rw [hu, ← Pos.after_append, ← Pos.after_append])
          (by rw [hv, ← Pos.after_append, ← Pos.after_append])
      have hmoved : (x.region u).adjusted ⟨⟨start, start.after old⟩, newStop⟩ =
          some (x.region v) := by
        rw [Piece.region, Piece.region, hu, hv, ← Pos.after_append, ← Pos.after_append newStop]
        exact adjusted_of_behind hold
      rw [trackAt_cons_pending hdone, trackAt_cons_pending hdone, adjustAll_cons_of_ne hr.1,
        htail, Option.bind_some, hmoved]

/-- **One replacement goes from the one state to the other.** The edit of a
pending match takes what is tracked to what is tracked once that match is
replaced as well. -/
theorem adjustAll_trackAt {xs zs : List Piece} {x : Piece}
    (hnodup : (regionsAt p (xs ++ x :: zs)).Nodup) (hfound : x.found ≠ [])
    (hregion : l.region = x.region (p.after (textOf xs))) (hpending : l.region ∉ done) :
    let start := (q.after (textOf (exchanged new done p xs))).after x.gap
    adjustAll l ⟨⟨start, start.after x.found⟩, start.after (new x.found)⟩
        (trackAt new done p q (xs ++ x :: zs)) =
      trackAt new (l.region :: done) p q (xs ++ x :: zs) := by
  intro start
  have hbefore : l.region ∉ regionsAt p xs := by
    rw [hregion]
    exact (not_mem_regionsAt_of_nodup hnodup).1
  have hbehind : l.region ∉ regionsAt (x.region (p.after (textOf xs))).stop zs := by
    rw [hregion]
    exact (not_mem_regionsAt_of_nodup hnodup).2
  have hmoved : adjustAll l ⟨⟨start, start.after x.found⟩, start.after (new x.found)⟩
      (trackAt new done (x.region (p.after (textOf xs))).stop
        (x.region (q.after (textOf (exchanged new done p xs)))).stop zs) =
      trackAt new done (x.region (p.after (textOf xs))).stop (start.after (new x.found)) zs :=
    adjustAll_behind hfound hbehind (Pos.after_nil _).symm (Pos.after_nil _).symm
  rw [trackAt_append, trackAt_append, exchanged_congr (mem_cons_iff_of_not_mem hbefore),
    trackAt_congr (mem_cons_iff_of_not_mem hbefore), trackAt_cons_pending (hregion ▸ hpending),
    trackAt_cons_done (hregion ▸ List.mem_cons_self),
    trackAt_congr (mem_cons_iff_of_not_mem hbehind), adjustAll_append,
    adjustAll_before hfound hbefore rfl, adjustAll_cons_self hregion.symm, hmoved]

end Adjust

end Exchange

end Find
end CodeDesk
