import SignalScript.Proofs.Scene.Builtin
import SignalScript.Scenario.Run

/-!
# Runs among other events

Between the updates of a run anything may happen to the scene. What an update does to the scene and
to the verdict does not depend on the log.

* `Event`                  an update, or a change of the scene from outside;
* `Run.after`              a run and its world after an event, and `Run.afterAll` after many;
* `Run.start_of_read`      a run starts when both trees can be read, and only then;
* `Run.evaluate_scene`     blind conditions answer alike in worlds with one scene;
* `Run.tickSuccess_scene`  what a tick of the success tree does to run and scene.
-/

namespace SignalScript

variable {π S : Type}

/-- the engine has one tick, or something outside changes the scene -/
inductive Event (S : Type) where
  | update
  | outside (change : Scene S → Scene S)

/-- the world in another scene; the log is kept -/
def World.enter (world : World S) (scene : Scene S) : World S :=
  ⟨⟨scene.simulator, world.journal⟩, scene.network⟩

namespace Run

/-- a run and its world after an event -/
def after (family : Condition π (World S)) (sim : Simulator S) :
    Run π × World S → Event S → Run π × World S
  | (run, world), .update => run.update family sim world
  | (run, world), .outside change => (run, world.enter (change world.scene))

/-- a run and its world after events, one after the other -/
def afterAll (family : Condition π (World S)) (sim : Simulator S) (state : Run π × World S)
    (events : List (Event S)) : Run π × World S := events.foldl (after family sim) state

/-! ## the start -/

section
variable {family : Condition π (World S)} {registry : Registry π} {script : Script}
  {stage : Stage S} {success failure : Expr (Procedure π)}

/-- the scene that a run starts in -/
def startScene (script : Script) (stage : Stage S) : Scene S :=
  ⟨stage.simulator, (Network.ofBlocks script.intersections).1⟩

/-- a run starts when both trees can be read -/
theorem start_of_read (script : Script) (stage : Stage S)
    (hs : Expr.read family registry script.success = .ok success)
    (hf : readFailure family registry script.failure = .ok failure) :
    ∃ world, start family registry script stage =
        (.ok ⟨success, failure, success.errors ++ failure.errors, .ongoing⟩, world) ∧
      world.scene = startScene script stage := by
  refine ⟨(start family registry script stage).2, Prod.ext ?_ rfl, ?_⟩
  · simp only [start, hs, hf]
  · simp only [start, hs, hf]
    rfl

/-- and only then -/
theorem read_of_start {run : Run π} {world : World S}
    (h : start family registry script stage = (.ok run, world)) :
    Expr.read family registry script.success = .ok run.success ∧
      readFailure family registry script.failure = .ok run.failure ∧
      run.errors = run.success.errors ++ run.failure.errors ∧ run.status = .ongoing ∧
      world.scene = startScene script stage := by
  cases hs : Expr.read family registry script.success with
  | error error =>
    simp only [start, hs] at h
    exact nomatch congrArg Prod.fst h
  | ok success =>
    cases hf : readFailure family registry script.failure with
    | error error =>
      simp only [start, hs, hf] at h
      exact nomatch congrArg Prod.fst h
    | ok failure =>
      obtain ⟨world', hstart, hscene⟩ := start_of_read script stage hs hf
      obtain ⟨hrun, hworld⟩ := Prod.mk.inj (hstart.symm.trans h)
      obtain rfl := Except.ok.inj hrun
      exact ⟨rfl, rfl, rfl, rfl, hworld ▸ hscene⟩

end

/-! ## one tick on the scene -/

/-- the verdict of the success tree -/
def verdict : Except EvaluationError Value → Status
  | .ok v => if v.isTruthy then .succeeded else .ongoing
  | .error _ => .failed

section
variable (family : Condition π (World S)) (run : Run π) (world : World S)

/-- besides its verdict, a tick of the success tree moves that tree, the scene and the log -/
theorem tickSuccess_scene :
    (tickSuccess family run world).1 = verdict (evaluate family run.success world).answer ∧
      (tickSuccess family run world).2.1 =
        { run with success := (evaluate family run.success world).after } ∧
      (tickSuccess family run world).2.2.scene =
        (evaluate family run.success world).world.scene := by
  cases ha : (evaluate family run.success world).answer with
  | error error =>
    rw [tickSuccess_of_error ha]
    exact ⟨rfl, rfl, rfl⟩
  | ok v =>
    cases hv : v.isTruthy with
    | true =>
      rw [tickSuccess_of_true ha hv, verdict, if_pos hv]
      exact ⟨rfl, rfl, rfl⟩
    | false =>
      rw [tickSuccess_of_false ha hv, verdict, if_neg (by rw [hv]; exact Bool.false_ne_true)]
      exact ⟨rfl, rfl, rfl⟩

end

/-- the line of a verdict goes into the log, not into the scene -/
theorem scene_verdictLine (sim : Simulator S) (status : Status) (world : World S) :
    (if status.isTerminal then world.note (verdictLine sim status world) else world).scene =
      world.scene := by
  split
  · exact World.scene_note _ _
  · rfl

/-- blind conditions answer alike in worlds with one scene -/
theorem evaluate_scene {family : Condition π (World S)} (hblind : family.Blind)
    (e : Expr (Procedure π)) {w w' : World S} (hw : w.scene = w'.scene) :
    (evaluate family e w).Alike Eq (fun u u' => u.scene = u'.scene) (evaluate family e w') := by
  refine Expr.evaluate_alike ?_ e hw
  intro p w w' hw
  obtain ⟨role, typeName, binding⟩ := p
  cases binding with
  | ready c =>
    have t := hblind c w w' hw
    rw [Procedure.call_ready, Procedure.call_ready]
    exact ⟨congrArg Except.ok t.answer, by rw [t.after], t.world⟩
  | rejected c error => exact ⟨rfl, rfl, hw⟩
  | missing name => exact ⟨rfl, rfl, hw⟩

end Run

end SignalScript
