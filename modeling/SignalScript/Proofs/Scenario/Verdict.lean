import SignalScript.Proofs.Scenario.Standing
import SignalScript.Proofs.Scenario.Trace

/-!
# The verdict of a run

A run that is not configured fails at its first update and asks nothing. In any other run the
failure tree is asked first, and the success tree only when the failure tree is false. The first
verdict that is final stays, and nothing happens any more.

* `Run.successTurn`       the tick of the success tree, behind a failure tree that is false;
* `Run.Judged`            what an update without verdict does: it goes by the two trees;
* `Run.Refused`           what an update does in a run that is not configured;
* `Run.statuses`          the statuses of a run, update by update;
* `Run.update_verdicts`   the verdicts of every run of every script.
-/

namespace SignalScript

variable {π S : Type}

namespace Run

/-! ## one update -/

section
variable (family : Condition π (World S)) (run : Run π) (world : World S)

/-- the world that a false failure tree leaves to the success tree -/
def behindFailure : World S :=
  (evaluate family run.failure world).world.note
    (pendingLine "Failure" (evaluate family run.failure world).after (.bool false))

/-- the tick of the success tree, when the failure tree was false -/
def successTurn : Turn (Except EvaluationError Value) (Expr (Procedure π)) (World S) :=
  evaluate family run.success (behindFailure family run world)

theorem update_ne_failed (network : Network) : network.update ≠ .failed := by
  rw [Network.update_eq_ongoing]
  exact nofun

variable {run}

/-- besides the line of its verdict, an update does what its tick does -/
theorem update_of_status (hs : run.status = .ongoing) (sim : Simulator S) :
    (run.update family sim world).1 =
        { (tick family run world).2.1 with status := (tick family run world).1 } ∧
      (run.update family sim world).2.scene = (tick family run world).2.2.scene := by
  have hongoing : run.status.isTerminal = false := by rw [hs]; rfl
  rw [update_of_ongoing hongoing, scene_verdictLine]
  exact ⟨rfl, rfl⟩

end

section
variable {family : Condition π (World S)} {run : Run π} {world : World S}

theorem update_of_not_configured (hs : run.status = .ongoing) {first : ConfigurationError}
    {others : List ConfigurationError} (he : run.errors = first :: others) (sim : Simulator S) :
    (run.update family sim world).1 = { run with status := .failed } ∧
      (run.update family sim world).2.scene = world.scene := by
  have h := update_of_status family world hs sim
  rw [tick_of_not_configured he] at h
  exact h

/-- a failure tree that is true ends the run -/
theorem update_of_failing (hs : run.status = .ongoing) (he : run.errors = [])
    (hf : (evaluate family run.failure world).answer = .ok (.bool true)) (sim : Simulator S) :
    (run.update family sim world).1 =
        { run with failure := (evaluate family run.failure world).after, status := .failed } ∧
      (run.update family sim world).2.scene =
        (evaluate family run.failure world).world.scene := by
  have h := update_of_status family world hs sim
  rw [tick_of_failing he (update_ne_failed _) hf rfl] at h
  exact h

/-- one that is false leaves the verdict to the success tree -/
theorem update_of_not_failing (hs : run.status = .ongoing) (he : run.errors = [])
    (hf : (evaluate family run.failure world).answer = .ok (.bool false)) (sim : Simulator S) :
    (run.update family sim world).1 =
        { run with
          success := (successTurn family run world).after
          failure := (evaluate family run.failure world).after
          status := verdict (successTurn family run world).answer } ∧
      (run.update family sim world).2.scene = (successTurn family run world).world.scene := by
  have h := update_of_status family world hs sim
  have ht : tick family run world =
      tickSuccess family { run with failure := (evaluate family run.failure world).after }
        (behindFailure family run world) := tick_of_not_failing he (update_ne_failed _) hf rfl
  obtain ⟨hverdict, hrun, hscene⟩ := tickSuccess_scene family
    { run with failure := (evaluate family run.failure world).after }
    (behindFailure family run world)
  rw [ht, hverdict, hrun, hscene] at h
  exact h

end

/-! ## the conditions that one update updates -/

section
variable {family : Condition π (World S)} {run : Run π} {world : World S}

theorem updatedBy_of_terminal (h : run.status.isTerminal = true) (sim : Simulator S) :
    updatedBy family sim run world = [] := by
  rw [updatedBy, update_of_terminal h]
  rfl

theorem updatedBy_of_not_configured (hs : run.status = .ongoing) {first : ConfigurationError}
    {others : List ConfigurationError} (he : run.errors = first :: others) (sim : Simulator S) :
    updatedBy family sim run world = [] := by
  have hscene : (run.update family.traced sim.traced (world.traced [])).2.scene =
      (world.traced []).scene := (update_of_not_configured hs he sim.traced).2
  exact congrArg (fun scene => scene.simulator.updated) hscene

theorem updatedBy_of_failing (hs : run.status = .ongoing) (he : run.errors = [])
    (hf : (evaluate family run.failure world).answer = .ok (.bool true)) (sim : Simulator S) :
    updatedBy family sim run world = updatedIn family run.failure world := by
  have htraced := evaluate_traced family run.failure world []
  have hf' : (evaluate family.traced run.failure (world.traced [])).answer = .ok (.bool true) := by
    rw [htraced]
    exact hf
  have hscene := (update_of_failing hs he hf' sim.traced).2
  exact congrArg (fun scene => scene.simulator.updated) hscene

theorem updatedBy_of_not_failing (hs : run.status = .ongoing) (he : run.errors = [])
    (hf : (evaluate family run.failure world).answer = .ok (.bool false)) (sim : Simulator S) :
    updatedBy family sim run world =
      updatedIn family run.failure world ++
        updatedIn family run.success (behindFailure family run world) := by
  have htraced := evaluate_traced family run.failure world []
  have hf' : (evaluate family.traced run.failure (world.traced [])).answer = .ok (.bool false) := by
    rw [htraced]
    exact hf
  have hbehind : behindFailure family.traced run (world.traced []) =
      (behindFailure family run world).traced (updatedIn family run.failure world) := by
    rw [behindFailure, htraced]
    rfl
  have hscene := (update_of_not_failing hs he hf' sim.traced).2
  rw [successTurn, hbehind, evaluate_traced] at hscene
  exact congrArg (fun scene => scene.simulator.updated) hscene

end

/-! ## what an update does -/

/-- an update of a run without verdict goes by the two trees -/
structure Judged (family : Condition π (World S)) (sim : Simulator S) (run : Run π)
    (world : World S) : Prop where
  failed_iff : (run.update family sim world).1.status = .failed ↔
    (evaluate family run.failure world).answer = .ok (.bool true)
  succeeded_iff : (run.update family sim world).1.status = .succeeded ↔
    (evaluate family run.failure world).answer = .ok (.bool false) ∧
      (successTurn family run world).answer = .ok (.bool true)
  ongoing_iff : (run.update family sim world).1.status = .ongoing ↔
    (evaluate family run.failure world).answer = .ok (.bool false) ∧
      (successTurn family run world).answer = .ok (.bool false)
  /-- behind a failure tree that is true the success tree is not evaluated -/
  skipped : (evaluate family run.failure world).answer = .ok (.bool true) →
    (run.update family sim world).1.success = run.success ∧
      updatedBy family sim run world = updatedIn family run.failure world ∧
      (run.update family sim world).2.scene = (evaluate family run.failure world).world.scene
  /-- and behind one that is false it is evaluated in the world that this one has left -/
  asked : (evaluate family run.failure world).answer = .ok (.bool false) →
    (run.update family sim world).1.success = (successTurn family run world).after ∧
      updatedBy family sim run world =
        updatedIn family run.failure world ++
          updatedIn family run.success (behindFailure family run world) ∧
      (run.update family sim world).2.scene = (successTurn family run world).world.scene

/-- an update of a run that is not configured fails, updates nothing and leaves the scene alone -/
structure Refused (family : Condition π (World S)) (sim : Simulator S) (run : Run π)
    (world : World S) : Prop where
  status : (run.update family sim world).1.status = .failed
  updated : updatedBy family sim run world = []
  scene : (run.update family sim world).2.scene = world.scene

section
variable {family : Condition π (World S)} {run : Run π} {world : World S}

/-- **The verdict of one update**, when both trees answer with booleans. -/
theorem judged_of_answers (hs : run.status = .ongoing) (he : run.errors = []) {f s : Bool}
    (hf : (evaluate family run.failure world).answer = .ok (.bool f))
    (ha : (successTurn family run world).answer = .ok (.bool s)) (sim : Simulator S) :
    Judged family sim run world := by
  cases f with
  | true =>
    obtain ⟨hrun, hscene⟩ := update_of_failing hs he hf sim
    have hupdated := updatedBy_of_failing hs he hf sim
    constructor
    · simp [hrun, hf]
    · simp [hrun, hf]
    · simp [hrun, hf]
    · intro _
      rw [hrun]
      exact ⟨rfl, hupdated, hscene⟩
    · intro hfalse
      rw [hf] at hfalse
      exact nomatch hfalse
  | false =>
    obtain ⟨hrun, hscene⟩ := update_of_not_failing hs he hf sim
    have hupdated := updatedBy_of_not_failing hs he hf sim
    have hverdict : (run.update family sim world).1.status =
        if s then .succeeded else .ongoing := by
      rw [hrun, ha]
      rfl
    constructor
    · cases s <;> simp [hverdict, hf]
    · cases s <;> simp [hverdict, hf, ha]
    · cases s <;> simp [hverdict, hf, ha]
    · intro htrue
      rw [hf] at htrue
      exact nomatch htrue
    · intro _
      rw [hrun]
      exact ⟨rfl, hupdated, hscene⟩

theorem refused_of_errors (hs : run.status = .ongoing ∨ run.status = .failed)
    (he : run.errors ≠ []) (sim : Simulator S) : Refused family sim run world := by
  obtain ⟨first, others, herrors⟩ := List.exists_cons_of_ne_nil he
  rcases hs with hs | hs
  · obtain ⟨hrun, hscene⟩ := update_of_not_configured hs herrors sim
    exact ⟨by rw [hrun], updatedBy_of_not_configured hs herrors sim, hscene⟩
  · have hterminal : run.status.isTerminal = true := by rw [hs]; rfl
    refine ⟨?_, updatedBy_of_terminal hterminal sim, ?_⟩
    · rw [update_of_terminal hterminal]
      exact hs
    · rw [update_of_terminal hterminal]

end

/-! ## whole runs -/

section
variable (family : Condition π (World S)) (sim : Simulator S)

/-- the statuses that the updates among the events return, in order -/
def statuses (state : Run π × World S) : List (Event S) → List Status
  | [] => []
  | .update :: events =>
    (after family sim state .update).1.status :: statuses (after family sim state .update) events
  | .outside change :: events => statuses (after family sim state (.outside change)) events

/-- a final verdict is the status of every later update -/
theorem statuses_of_terminal (events : List (Event S)) :
    ∀ {run : Run π} (world : World S), run.status.isTerminal = true →
      ∀ status ∈ statuses family sim (run, world) events, status = run.status := by
  induction events with
  | nil => exact fun _ _ _ hmem => absurd hmem List.not_mem_nil
  | cons event events ih =>
    intro run world h
    cases event with
    | outside change => exact ih _ h
    | update =>
      have hsame : after family sim (run, world) .update = (run, world) :=
        update_of_terminal h sim
      rw [statuses, hsame]
      exact List.forall_mem_cons.2 ⟨rfl, ih _ h⟩

/-- **The status changes once at most**: first every update is ongoing, then every one has the
same final verdict. -/
theorem statuses_of_ongoing (events : List (Event S)) :
    ∀ {run : Run π} (world : World S), run.status = .ongoing →
      ∃ n m final, final.isTerminal = true ∧
        statuses family sim (run, world) events =
          List.replicate n .ongoing ++ List.replicate m final := by
  induction events with
  | nil => exact fun _ _ => ⟨0, 0, .failed, rfl, rfl⟩
  | cons event events ih =>
    intro run world h
    cases event with
    | outside change => exact ih _ h
    | update =>
      rcases hnext : after family sim (run, world) .update with ⟨next, world'⟩
      rw [statuses, hnext]
      cases hstatus : next.status with
      | ongoing =>
        obtain ⟨n, m, final, hfinal, hrest⟩ := ih world' hstatus
        exact ⟨n + 1, m, final, hfinal, congrArg (Status.ongoing :: ·) hrest⟩
      | succeeded | failed =>
        have hterminal : next.status.isTerminal = true := by rw [hstatus]; rfl
        have hrest := statuses_of_terminal family sim events world' hterminal
        have hall : ∀ status ∈ next.status :: statuses family sim (next, world') events,
            status = next.status := List.forall_mem_cons.2 ⟨rfl, hrest⟩
        rw [← hstatus]
        have hsame := List.eq_replicate_of_mem hall
        exact ⟨0, _, next.status, hterminal, hsame.trans (List.nil_append _).symm⟩

/-- a run that is not configured never succeeds -/
theorem status_of_errors (events : List (Event S)) :
    ∀ {run : Run π} (world : World S), run.status = .ongoing ∨ run.status = .failed →
      run.errors ≠ [] →
      (afterAll family sim (run, world) events).1.status = .ongoing ∨
        (afterAll family sim (run, world) events).1.status = .failed := by
  induction events with
  | nil => exact fun _ h _ => h
  | cons event events ih =>
    intro run world h he
    cases event with
    | outside change => exact ih _ h he
    | update =>
      have hrefused : Refused family sim run world := refused_of_errors h he sim
      have hstanding : Standing run (run.update family sim world).1 :=
        (Standing.refl run).update sim world
      have he' : (run.update family sim world).1.errors ≠ [] := by
        rw [hstanding.errors]
        exact he
      exact ih _ (.inr hrefused.status) he'

end

/-- a script reads into trees that answer with booleans -/
theorem decides_of_start {family : Condition π (World S)} {registry : Registry π} {script : Script}
    {stage : Stage S} {run : Run π} {world : World S}
    (h : start family registry script stage = (.ok run, world)) :
    run.success.Decides ∧ run.failure.Decides := by
  obtain ⟨hs, hf, _⟩ := read_of_start h
  refine ⟨Expr.decides_of_read hs, ?_⟩
  cases hnode : script.failure with
  | some node =>
    rw [hnode] at hf
    exact Expr.decides_of_read hf
  | none =>
    rw [hnode] at hf
    obtain hfalse := Except.ok.inj hf
    intro v hv
    rw [← hfalse] at hv
    exact ⟨false, (Expr.value.inj hv).symm⟩

/-- **The verdicts of a run.** Starting it sends no command. Take any of its updates, whatever the
conditions answer and whatever happens to the scene in between. If one of the trees has an error
the update fails, updates no condition and sends no command. Otherwise, as long as the run is
ongoing, it goes by the failure tree and then by the success tree. Once the run has a final status
the update leaves everything as it is, the log included. So the status changes once at most. -/
theorem update_verdicts (family : Condition π (World (Recorder S))) (sim : Simulator (Recorder S))
    {registry : Registry π} {script : Script} {stage : Stage (Recorder S)} {run : Run π}
    {world : World (Recorder S)}
    (hstart : start family registry script stage = (.ok run, world)) :
    world.simulator.sent = stage.simulator.sent ∧
    (∀ events now world', afterAll family sim (run, world) events = (now, world') →
      (run.success.errors ≠ [] ∨ run.failure.errors ≠ [] →
        (now.update family sim world').1.status = .failed ∧
        updatedBy family sim now world' = [] ∧
        (now.update family sim world').2.simulator.sent = world'.simulator.sent) ∧
      (run.success.errors = [] → run.failure.errors = [] → now.status = .ongoing →
        Judged family sim now world') ∧
      (now.status.isTerminal = true →
        now.update family sim world' = (now, world') ∧ updatedBy family sim now world' = [])) ∧
    (run.status = .ongoing ∧ ∀ events, ∃ n m final, final.isTerminal = true ∧
      statuses family sim (run, world) events =
        List.replicate n .ongoing ++ List.replicate m final) := by
  obtain ⟨_, _, hfirst, hstatus, hscene⟩ := read_of_start hstart
  obtain ⟨hsuccess, hfailure⟩ := decides_of_start hstart
  refine ⟨?_, ?_, hstatus, fun events => statuses_of_ongoing family sim events world hstatus⟩
  · have hsimulator : world.simulator = stage.simulator := congrArg Scene.simulator hscene
    rw [hsimulator]
  · intro events now world' hnow
    have hstanding := (Standing.refl run).afterAll family sim events world
    rw [hnow] at hstanding
    have herrors : now.errors = run.errors := hstanding.errors
    refine ⟨fun hfaulty => ?_, fun hs hf hongoing => ?_, fun hterminal => ?_⟩
    · have he : run.errors ≠ [] := by
        rw [hfirst]
        intro hnone
        obtain ⟨hs, hf⟩ := List.append_eq_nil_iff.1 hnone
        exact hfaulty.elim (fun h => h hs) fun h => h hf
      have hnever := status_of_errors family sim events world (.inl hstatus) he
      rw [hnow] at hnever
      have hrefused : Refused family sim now world' :=
        refused_of_errors hnever (by rw [herrors]; exact he) sim
      have hsimulator : (now.update family sim world').2.simulator = world'.simulator :=
        congrArg Scene.simulator hrefused.scene
      exact ⟨hrefused.status, hrefused.updated, by rw [hsimulator]⟩
    · have he : now.errors = [] := by rw [herrors, hfirst, hs, hf]; rfl
      have hs' : now.success.errors = [] :=
        (Expr.errors_eq_of_shape hstanding.success).trans hs
      have hf' : now.failure.errors = [] :=
        (Expr.errors_eq_of_shape hstanding.failure).trans hf
      obtain ⟨f, hanswer⟩ := Expr.exists_bool_of_no_errors hf'
        (hfailure.of_shape hstanding.failure) family world'
      obtain ⟨s, hanswer'⟩ := Expr.exists_bool_of_no_errors hs'
        (hsuccess.of_shape hstanding.success) family (behindFailure family now world')
      exact judged_of_answers hongoing he hanswer hanswer' sim
    · exact ⟨update_of_terminal hterminal sim, updatedBy_of_terminal hterminal sim⟩

/-- the lights of `stayGreen` stay green, and its run goes on -/
theorem update_verdicts_stayGreen :
    let family := conditions Offline.simulator (fun _ => false) bare
    let sim := Offline.simulator.recorded fun _ => false
    let stage : Stage (Recorder Offline) := ⟨⟨Offline.start 0.0, []⟩, #[]⟩
    let events : List (Event (Recorder Offline)) := [.update, .outside id]
    ∃ world now world',
      start family everyone stayGreen stage = (.ok stayingGreen, world) ∧
      world.simulator.sent = [] ∧
      afterAll family sim (stayingGreen, world) events = (now, world') ∧
      now.status = .ongoing ∧ Judged family sim now world' := by
  intro family sim stage events
  obtain ⟨⟨⟨simulator, journal⟩, network⟩, hstart, hscene⟩ := start_of_read _ stage
    (read_stayGreen Offline.simulator fun _ => false) (readFailure_stayGreen _ _)
  obtain ⟨rfl, rfl⟩ := Scene.mk.inj hscene
  obtain ⟨hsent, hupdates, _⟩ := update_verdicts family sim hstart
  rcases hnow : afterAll family sim
    (stayingGreen, ⟨⟨stage.simulator, journal⟩, (Network.ofBlocks stayGreen.intersections).1⟩)
    events with ⟨now, world'⟩
  have hongoing : now.status = .ongoing := by
    have hstatus : (afterAll family sim (stayingGreen, ⟨⟨stage.simulator, journal⟩,
      (Network.ofBlocks stayGreen.intersections).1⟩) events).1.status = .ongoing := rfl
    rw [hnow] at hstatus
    exact hstatus
  obtain ⟨_, hjudged, _⟩ := hupdates events now world' hnow
  exact ⟨_, now, world', hstart, hsent, hnow, hongoing, hjudged rfl rfl hongoing⟩

end Run

end SignalScript
