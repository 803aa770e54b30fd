import CodeDesk.Proofs.Command.Signalled
/-!
# Told — what a runner tells about a run

A run is announced when its worker is told to begin, and its end when the
worker has struck it off the running table. At any moment the events about a
run are given by the stage of its worker (`Run.told`), so nothing is told
twice or in another order (`Workshop.Reported`).
-/

namespace CodeDesk
namespace Command

open Runner

/-- The run that an event is about. -/
def RunEvent.about : RunEvent → RunId
  | started id _ _ => id
  | finished id _ _ => id

namespace Run

variable {run run' : Run} {M : Machine} {d : Disk} {now : Stamp} {id : RunId} {o : Outcome}

/-- The events about a run up to now. -/
def told (run : Run) (id : RunId) : List RunEvent :=
  match run.stage with
  | .idle => []
  | .leave | .gone =>
    [.started id run.plan.label run.plan.focus,
      .finished id run.plan.label (run.outcome.getD .cancelled)]
  | _ => [.started id run.plan.label run.plan.focus]

/-- What the worker tells by its next turn. -/
def news (run : Run) (id : RunId) : List RunEvent :=
  match run.stage with
  | .announce o => [.finished id run.plan.label o]
  | _ => []

theorem about_of_mem_news {e : RunEvent} (he : e ∈ run.news id) : e.about = id := by
  unfold news at he
  split at he
  · rw [List.mem_singleton.1 he]
    rfl
  · cases he

/-- Between its beginning and its end a run is announced, and nothing more. -/
theorem told_eq_started (hbegun : run.stage ≠ .idle) (hleave : run.stage ≠ .leave)
    (hgone : run.stage ≠ .gone) :
    run.told id = [.started id run.plan.label run.plan.focus] := by
  unfold told
  split
  · next hs => exact absurd hs hbegun
  · next hs => exact absurd hs hleave
  · next hs => exact absurd hs hgone
  · rfl

theorem told_congr (hplan : run'.plan = run.plan) (hstage : run'.stage = run.stage)
    (houtcome : run'.outcome = run.outcome) : run'.told id = run.told id := by
  rw [told, told, hstage, hplan, houtcome]

/-- A turn that is about the programs leads to another one, or to the status
line. -/
theorem Turn.proceeds (ht : run.Turn M d now run') (hbusy : run.stage.isBusy) :
    Proceeds run run' := by
  have hnot : ∀ {s : Stage}, run.stage = s → s.isBusy = false → Proceeds run run' := by
    rintro s rfl hidle
    rw [hbusy] at hidle
    cases hidle
  cases ht with
  | decides i hs => exact proceeds_decided hs
  | strays => exact ⟨rfl, Or.inl hbusy, fun hsound => hsound⟩
  | refused i step e hs => exact proceeds_afterSpawnFailure hs _
  | spawned i step t hs => exact proceeds_spawned hs _
  | enlists i hs => exact proceeds_enlisted hs _
  | heeds i hs =>
    split
    · have htouched : run.Touched (run.onProcess i fun p => p.signal terminate now) :=
        run.touched_onProcess i fun p => p.advances_signal _ _
      exact .of_touched htouched (proceeds_afterHeed (htouched.stage.trans hs))
    · exact proceeds_afterHeed hs
  | abandons i hs =>
    have htouched : run.Touched
        (run.onProcess i fun p => if p.isAlive then p.signal forceEnd now else p) := by
      refine run.touched_onProcess i fun p => ?_
      split
      · exact p.advances_signal _ _
      · exact .refl p
    exact .of_touched htouched (proceeds_abandoned (htouched.stage.trans hs) _)
  | abandoned i hs => exact proceeds_awaitAll fun hsound => hsound.at hs
  | reaps i hs hended => exact proceeds_reaped hs hended
  | delists i hs => exact proceeds_delisted hs _
  | collects i hs hclosed =>
    have htouched : run.Touched (run.onProcess i fun p => (p.keep [] .out).keep [] .err) :=
      run.touched_onProcess i fun p => (p.advances_keep [] .out).trans
        (LiveProcess.advances_keep _ [] .err)
    refine .of_touched htouched (proceeds_afterCollect (htouched.stage.trans hs) fun q hq => ?_)
    obtain ⟨p, hp, hadvances⟩ := htouched.processes i q hq
    exact hadvances.closed (hclosed p hp)
  | reports o hs => exact hnot hs rfl
  | settles o hs => exact hnot hs rfl
  | strikes o hs => exact hnot hs rfl
  | announces o hs => exact hnot hs rfl
  | leaves hs => exact hnot hs rfl

/-- **A turn of the worker tells what it should.** -/
theorem Turn.told (ht : run.Turn M d now run')
    (hsettled : ∀ o, run.stage = .announce o → run.outcome = some o) :
    run'.told id = run.told id ++ run.news id := by
  by_cases hbusy : run.stage.isBusy
  · have hproceeds := ht.proceeds hbusy
    have hnone : run.news id = [] := by
      unfold news
      split
      · next o hs =>
        rw [hs] at hbusy
        cases hbusy
      · rfl
    have hgoes : ∀ {s : Stage}, run.stage = s → s.isBusy := by
      rintro s rfl
      exact hbusy
    rw [hnone, List.append_nil, told_eq_started (fun hs => nomatch hgoes hs)
      (fun hs => nomatch hgoes hs) (fun hs => nomatch hgoes hs), ← hproceeds.plan]
    rcases hproceeds.stage with hbusy' | ⟨o, ho⟩
    · refine told_eq_started ?_ ?_ ?_ <;> intro hs <;> rw [hs] at hbusy' <;> cases hbusy'
    · refine told_eq_started ?_ ?_ ?_ <;> rw [ho] <;> exact nofun
  · have hnot : ∀ {s : Stage}, run.stage = s → s.isBusy = false := by
      rintro s rfl
      exact Bool.eq_false_iff.2 hbusy
    unfold news Run.told
    cases ht with
    | reports o hs => rw [hs]; rfl
    | settles o hs => rw [hs]; rfl
    | strikes o hs => rw [hs]; rfl
    | announces o hs =>
      rw [hs]
      show [_, RunEvent.finished id run.plan.label (run.outcome.getD .cancelled)] = [_] ++ [_]
      rw [hsettled o hs]
      rfl
    | leaves hs => rw [hs]; exact (List.append_nil _).symm
    | decides i hs | strays i hs | refused i step e hs | spawned i step t hs => cases hnot hs
    | enlists i hs | heeds i hs | abandons i hs | abandoned i hs => cases hnot hs
    | reaps i hs | delists i hs | collects i hs => cases hnot hs

end Run

namespace Workshop

variable {M : Machine} {s : Workshop} {m : Move} {id : RunId} {run run' : Run}

/-- What is told by a move. -/
def news (s : Workshop) : Move → List RunEvent
  | .work id => (s.runner.runs[id]?).elim [] fun run => run.news id
  | .attend k =>
    match s.callers[k]? with
    | some (.launch id :: _) =>
      (s.runner.runs[id]?).elim [] fun run => [.started id run.plan.label run.plan.focus]
    | _ => []
  | _ => []

/-- The events about a run are those that its stage tells of. -/
def Reported (s : Workshop) : Prop :=
  ∀ id, s.runner.events.filter (·.about == id) =
    (s.runner.runs[id]?).elim [] fun run => run.told id

/-- The steps of a caller that tell something. -/
theorem events_attend? {r r' : Runner} {es es' : List Errand} (h : r.attend? es = some (r', es')) :
    r'.events = r.events ++ match es with
      | .launch id :: _ =>
        (r.runs[id]?).elim [] fun run => [.started id run.plan.label run.plan.focus]
      | _ => [] := by
  cases es with
  | nil => cases h
  | cons e rest =>
    cases e <;> dsimp only [attend?] at h ⊢
    case evict name => split at h <;> cases h <;> exact (List.append_nil _).symm
    case spare id deadline =>
      split at h
      · cases h
        exact (List.append_nil _).symm
      · split at h <;> cases h
        exact (List.append_nil _).symm
    case await id =>
      split at h <;> cases h
      exact (List.append_nil _).symm
    case awaitUntil id deadline =>
      split at h <;> cases h
      exact (List.append_nil _).symm
    case strike name id =>
      cases h
      rw [List.append_nil, strike]
      split <;> rfl
    case register name id => split at h <;> cases h <;> exact (List.append_nil _).symm
    case launch id =>
      split at h <;> rename_i hrun <;> cases h <;> rw [hrun]
      · exact (List.append_nil _).symm
      · rfl
    all_goals
      cases h
      exact (List.append_nil _).symm

/-- The turns of a worker that tell something. -/
theorem events_work? {r r' : Runner} (h : r.work? M id = some r') :
    r'.events = r.events ++ (r.runs[id]?).elim [] fun run => run.news id := by
  obtain ⟨run, hrun, hlabour⟩ := labour_of_work? h
  have hnews : ∀ {s : Stage}, run.stage = s → (r.runs[id]?).elim [] (fun run => run.news id) =
      (run.goTo s).news id := by
    rintro s rfl
    rw [hrun]
    rfl
  cases hlabour with
  | proceeds run' sinks new hbusy =>
    have hnone : (r.runs[id]?).elim [] (fun run => run.news id) = [] := by
      rw [hrun]
      show run.news id = []
      unfold Run.news
      split
      · next o hs =>
        rw [hs] at hbusy
        cases hbusy
      · rfl
    rw [hnone, List.append_nil]
  | strikes o hs =>
    rw [hnews hs, strike]
    show _ = _ ++ []
    rw [List.append_nil]
    split <;> rfl
  | announces o hs =>
    rw [hnews hs]
    rfl
  | reports o hs | settles o hs | leaves hs =>
    rw [hnews hs]
    exact (List.append_nil _).symm

/-- A worker that waits has nothing to tell. -/
theorem news_of_work?_eq_none {r : Runner} (h : r.work? M id = none) :
    ((r.runs[id]?).elim [] fun run => run.news id) = [] := by
  cases hrun : r.runs[id]? with
  | none => rfl
  | some run =>
    show run.news id = []
    unfold Run.news
    split
    · next o hs =>
      unfold work? at h
      rw [hrun] at h
      dsimp only at h
      rw [hs] at h
      cases h
    · rfl

/-- **What is told by a move comes behind what was told before.** -/
theorem events_after (M : Machine) (s : Workshop) (m : Move) :
    (s.after M m).runner.events = s.runner.events ++ s.news m := by
  have hsame : ∀ s' : Workshop, s'.runner.events = s.runner.events → s.news m = [] →
      s'.runner.events = s.runner.events ++ s.news m := by
    intro s' hevents hnone
    rw [hevents, hnone, List.append_nil]
  cases m with
  | dispatch | kill | killAll => exact hsame _ rfl rfl
  | killRun j =>
    rw [after]
    split <;> exact hsame _ rfl rfl
  | pass d =>
    rw [after]
    split <;> exact hsame _ rfl rfl
  | work j =>
    rw [after]
    split
    · next hnone => exact hsame _ rfl (news_of_work?_eq_none hnone)
    · next r hwork => exact events_work? hwork
  | happen j i h =>
    rw [after]
    split
    · exact hsame _ rfl rfl
    · next p hp =>
      split
      · obtain ⟨old, hold, -⟩ := Option.bind_eq_some_iff.1 hp
        obtain ⟨new, hpasses, -⟩ := passes_happen hold i h
        refine hsame (s.note _ (s.runner.happen j i h)) ?_ rfl
        rw [note_runner]
        generalize s.runner.happen j i h = r at hpasses
        cases hpasses
        rfl
      · exact hsame _ rfl rfl
  | attend k =>
    rw [after]
    split
    · next hnone =>
      refine hsame _ rfl ?_
      rw [news, hnone]
    · next es hes =>
      split
      · next hnone =>
        refine hsame _ rfl ?_
        rw [news, hes]
        split
        · next id rest heq =>
          cases heq
          dsimp only [attend?] at hnone
          split at hnone <;> cases hnone
        · rfl
      · next r es' hattend =>
        show r.events = _
        rw [events_attend? hattend, news, hes]
        cases es with
        | nil => rfl
        | cons e rest => cases e <;> rfl

/-- What is told by a move is about the run that it is about. -/
theorem filter_news_of_quiet (hquiet : Quiet M s id m) :
    (s.news m).filter (·.about == id) = [] := by
  have hother : ∀ {j : RunId} {es : List RunEvent}, (∀ e ∈ es, e.about = j) → j ≠ id →
      es.filter (·.about == id) = [] := by
    intro j es hes hne
    refine List.filter_eq_nil_iff.2 fun e he heq => hne ?_
    rw [← hes e he]
    exact beq_iff_eq.1 heq
  unfold news
  split
  · next j =>
    by_cases hj : j = id
    · subst hj
      rw [news_of_work?_eq_none (hquiet.1 rfl)]
      rfl
    · refine hother (j := j) (fun e he => ?_) hj
      cases hrun : s.runner.runs[j]? <;> rw [hrun] at he
      · cases he
      · exact Run.about_of_mem_news he
  · next k =>
    split
    · next j rest hk =>
      refine hother (j := j) (fun e he => ?_) fun hj => hquiet.2 k rest rfl (hj ▸ hk)
      cases hrun : s.runner.runs[j]? <;> rw [hrun] at he
      · cases he
      · rw [List.mem_singleton.1 he]
        rfl
    · rfl
  · rfl

/-- **Every deed tells of the run what it should.** -/
theorem Deed.told (h : Deed M s id run m run') (hsane : s.Sane)
    (hrun : s.runner.runs[id]? = some run) :
    run'.told id = run.told id ++ (s.news m).filter (·.about == id) := by
  have hsteady : (s.news m).filter (·.about == id) = [] → run'.told id = run.told id →
      run'.told id = run.told id ++ (s.news m).filter (·.about == id) := by
    intro hnone hsame
    rw [hnone, hsame, List.append_nil]
  cases h with
  | rests _ hquiet => exact hsteady (filter_news_of_quiet hquiet) rfl
  | works _ turn =>
    have hnews : (s.news (.work id)).filter (·.about == id) = run.news id := by
      have hown : s.news (.work id) = run.news id := by
        rw [news, hrun]
        rfl
      rw [hown]
      refine List.filter_eq_self.2 fun e he => beq_iff_eq.2 ?_
      exact Run.about_of_mem_news he
    rw [hnews]
    refine turn.told fun o hs => ?_
    obtain ⟨o', hended, -⟩ := hsane.consistent.written.closed id run hrun (by rw [hs]; rfl)
    rw [Run.EndedAs, hs] at hended
    rw [hended.1, hended.2]
  | exits | goes => exact hsteady rfl (Run.told_congr rfl rfl rfl)
  | marks k es head =>
    exact hsteady (by rw [news, head]; rfl) (Run.told_congr rfl rfl rfl)
  | terminates k es head | forces k es head =>
    refine hsteady (by rw [news, head]; rfl) (Run.told_congr ?_ ?_ ?_) <;>
      rw [Run.signalListed_eq, Run.signalEach_eq]
  | begins k es head =>
    have hidle := hsane.idle_of_launch hrun head
    have hnews : s.news (.attend k) = [.started id run.plan.label run.plan.focus] := by
      rw [news, head]
      dsimp only
      rw [hrun]
      rfl
    rw [hnews, Run.told, Run.told, hidle]
    show _ = [] ++ List.filter _ [_]
    rw [List.filter_cons_of_pos (by exact beq_self_eq_true id)]
    rfl

theorem Reported.ofDisk (d : Disk) (env : Table String String) :
    (Workshop.ofDisk d env).Reported := fun _ => rfl

/-- **What is told stays in line with the runs.** -/
theorem Reported.after (h : s.Reported) (hsane : s.Sane) (M : Machine) (m : Move) :
    (s.after M m).Reported := by
  intro id
  rw [events_after, List.filter_append, h id]
  cases hrun : s.runner.runs[id]? with
  | some run =>
    obtain ⟨run', hrun', hdeed⟩ := deed_of_after M m hrun
    rw [hrun']
    exact (hdeed.told hsane hrun).symm
  | none =>
    -- A run that is not there is not spoken of, and a new one has not begun.
    have hquiet : Quiet M s id m := by
      refine ⟨fun _ => ?_, fun k es _ hk => ?_⟩
      · unfold work?
        rw [hrun]
      · obtain ⟨run, hsome, -⟩ :=
          hsane.calls.starts.launch _ (List.mem_of_getElem? hk) id List.mem_cons_self
        rw [hrun] at hsome
        cases hsome
    rw [filter_news_of_quiet hquiet]
    cases hrun' : (s.after M m).runner.runs[id]? with
    | none => rfl
    | some run' =>
      obtain ⟨p, rfl⟩ := exists_ofPlan_of_after M m hrun hrun'
      rfl

theorem Reported.moves (h : s.Reported) (hsane : s.Sane) (M : Machine) (ms : List Move) :
    (s.run M ms).Reported := by
  induction ms generalizing s with
  | nil => exact h
  | cons m ms ih => exact ih (h.after hsane M m) (hsane.after M m)

end Workshop
end Command
end CodeDesk
