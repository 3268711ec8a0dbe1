import SignalScript.Proofs.Expr.Configured
import SignalScript.Proofs.Scenario.Monitor

/-!
# What stands for the whole run

The configuration of a run is checked once, when it starts. Whatever its conditions answer and
whatever happens in between, the trees keep their shape, so the errors found at the start are the
errors of the trees at any time.

* `Run.Standing`          the run has the trees and the errors that it started with, up to cursors
                          and conditions;
* `Run.Standing.update`   one update keeps this, and `Run.Standing.afterAll` any events do;
* `Run.configuration_stands`  errors and texts never change, and without errors no tick fails.
-/

namespace SignalScript

variable {π S : Type}

namespace Run

/-- the trees of the run have the shape that they had at first, and its errors are the same -/
structure Standing (first now : Run π) : Prop where
  success : now.success.shape Procedure.label = first.success.shape Procedure.label
  failure : now.failure.shape Procedure.label = first.failure.shape Procedure.label
  errors : now.errors = first.errors

namespace Standing

variable {family : Condition π (World S)} {first run : Run π}

theorem refl (run : Run π) : Standing run run := ⟨rfl, rfl, rfl⟩

theorem shape_after (family : Condition π (World S)) (e : Expr (Procedure π)) (world : World S) :
    (evaluate family e world).after.shape Procedure.label = e.shape Procedure.label :=
  Expr.shape_evaluate (Procedure.label_call family) e world

theorem tickSuccess (h : Standing first run) (world : World S) :
    Standing first (run.tickSuccess family world).2.1 := by
  obtain ⟨_, hrun, _⟩ := tickSuccess_scene family run world
  rw [hrun]
  exact ⟨(shape_after family run.success world).trans h.success, h.failure, h.errors⟩

theorem tick (h : Standing first run) (world : World S) :
    Standing first (run.tick family world).2.1 := by
  have hmoved : Standing first { run with failure := (evaluate family run.failure world).after } :=
    ⟨h.success, (shape_after family run.failure world).trans h.failure, h.errors⟩
  have hn : world.network.update ≠ .failed := by
    rw [Network.update_eq_ongoing]
    exact nofun
  cases he : run.errors with
  | cons error others =>
    rw [tick_of_not_configured he]
    exact h
  | nil =>
    cases ha : (evaluate family run.failure world).answer with
    | error error =>
      rw [tick_of_failure_error he hn ha]
      exact hmoved
    | ok v =>
      cases hv : v.isTruthy with
      | true =>
        rw [tick_of_failing he hn ha hv]
        exact hmoved
      | false =>
        rw [tick_of_not_failing he hn ha hv]
        exact hmoved.tickSuccess _

/-- **One update changes neither the shape of the trees nor the errors.** -/
theorem update (h : Standing first run) (sim : Simulator S) (world : World S) :
    Standing first (run.update family sim world).1 := by
  cases hs : run.status.isTerminal with
  | true =>
    rw [update_of_terminal hs]
    exact h
  | false =>
    have ht : Standing first (run.tick family world).2.1 := h.tick world
    rw [update_of_ongoing hs]
    exact ⟨ht.success, ht.failure, ht.errors⟩

/-- and no events do -/
theorem afterAll (family : Condition π (World S)) (sim : Simulator S) (events : List (Event S)) :
    ∀ {run : Run π} (world : World S), Standing first run →
      Standing first (Run.afterAll family sim (run, world) events).1 := by
  induction events with
  | nil => exact fun _ h => h
  | cons event events ih =>
    intro run world h
    cases event with
    | update => exact ih _ (h.update sim world)
    | outside change => exact ih _ h

/-- the errors that were found at the start are those of the trees now -/
theorem errors_eq {now : Run π} (h : Standing first now)
    (hfirst : first.errors = first.success.errors ++ first.failure.errors) :
    now.errors = now.success.errors ++ now.failure.errors := by
  rw [h.errors, hfirst, Expr.errors_eq_of_shape h.success, Expr.errors_eq_of_shape h.failure]

end Standing

/-- **The configuration is checked once for the whole run.** A tree that was read has the same
errors and the same text after any ticks in any worlds, and if it has no errors then none of them
ends in one. So the errors that a run keeps are those of its success tree and of its failure tree at
any time, and if there are none then neither tree ever fails to answer. -/
theorem configuration_stands (family : Condition π (World S)) (registry : Registry π) :
    (∀ node tree, Expr.read family registry node = .ok tree → ∀ worlds,
      (Expr.afterTicks (Procedure.call family) tree worlds).errors = tree.errors ∧
      (Expr.afterTicks (Procedure.call family) tree worlds).line = tree.line ∧
      (tree.errors = [] → ∀ world error,
        ((Expr.afterTicks (Procedure.call family) tree worlds).evaluate
          (Procedure.call family) world).answer ≠ .error error)) ∧
    (∀ sim script stage run world, start family registry script stage = (.ok run, world) →
      ∀ events now world', afterAll family sim (run, world) events = (now, world') →
        now.errors = now.success.errors ++ now.failure.errors ∧
        (now.errors = [] → ∀ world'' error,
          (evaluate family now.failure world'').answer ≠ .error error ∧
          (evaluate family now.success world'').answer ≠ .error error)) := by
  constructor
  · intro node tree hread worlds
    have hshape := Expr.shape_afterTicks (Procedure.label_call family) worlds tree
    have herrors := Expr.errors_eq_of_shape hshape
    refine ⟨herrors, Expr.line_eq_of_shape hshape, fun hnone world error => ?_⟩
    exact Expr.answer_ne_error (herrors.trans hnone) family world error
  · intro sim script stage run world hstart events now world' hnow
    obtain ⟨_, _, hfirst, _, _⟩ := read_of_start hstart
    have hstanding := (Standing.refl run).afterAll family sim events world
    rw [hnow] at hstanding
    have herrors := hstanding.errors_eq hfirst
    refine ⟨herrors, fun hnone world'' error => ?_⟩
    obtain ⟨hs, hf⟩ := List.append_eq_nil_iff.1 (herrors.symm.trans hnone)
    exact ⟨Expr.answer_ne_error hf family world'' error,
      Expr.answer_ne_error hs family world'' error⟩

/-- a scenario without errors, after two updates -/
theorem configuration_stands_stayGreen :
    let family := conditions Offline.simulator (fun _ => false) bare
    let sim := Offline.simulator.recorded fun _ => false
    let stage : Stage (Recorder Offline) := ⟨⟨Offline.start 0.0, []⟩, #[]⟩
    let events : List (Event (Recorder Offline)) := [.update, .outside id, .update]
    ∃ world now world',
      Expr.read family everyone stayGreen.success = .ok stayingGreen.success ∧
      (Expr.afterTicks (Procedure.call family) stayingGreen.success [world, world']).line =
        stayingGreen.success.line ∧
      (∀ error, ((Expr.afterTicks (Procedure.call family) stayingGreen.success
        [world, world']).evaluate (Procedure.call family) world).answer ≠ .error error) ∧
      start family everyone stayGreen stage = (.ok stayingGreen, world) ∧
      afterAll family sim (stayingGreen, world) events = (now, world') ∧
      now.errors = [] ∧ ∀ error, (evaluate family now.success world').answer ≠ .error error := by
  intro family sim stage events
  obtain ⟨world, hstart, _⟩ := start_of_read _ stage
    (read_stayGreen Offline.simulator fun _ => false) (readFailure_stayGreen _ _)
  rcases hnow : afterAll family sim (stayingGreen, world) events with ⟨now, world'⟩
  obtain ⟨htrees, hruns⟩ := configuration_stands family everyone
  obtain ⟨_, hline, htree⟩ := htrees _ _ (read_stayGreen _ _) [world, world']
  obtain ⟨herrors, hanswers⟩ := hruns sim stayGreen stage _ world hstart events now world' hnow
  have hstanding := (Standing.refl stayingGreen).afterAll family sim events world
  rw [hnow] at hstanding
  have hnone : now.errors = [] := hstanding.errors
  exact ⟨world, now, world', read_stayGreen _ _, hline, htree rfl world, hstart, hnow, hnone,
    fun error => (hanswers hnone world' error).2⟩

end Run

end SignalScript
