import SignalScript.Decimal.Places
import SignalScript.Expr.Read
import SignalScript.Intersection.Network
import SignalScript.Scenario.Script

/-!
# A run of a scenario

A run keeps the two trees of the end condition and its verdict. At every tick the failure tree is
evaluated first; the first verdict that is final is kept.

* `Run.start`   builds the network and reads the end condition;
* `Run.tick`    one tick of a run that has no verdict yet;
* `Run.update`  one tick of any run.
-/

namespace SignalScript

/-- the end condition of a scenario, what is wrong with it, and the verdict so far -/
structure Run (π : Type) where
  success : Expr (Procedure π)
  failure : Expr (Procedure π)
  errors : List ConfigurationError
  status : Status

namespace Run

variable {π S : Type}

/-- the failure tree: without a node it never fails -/
def readFailure (family : Condition π (World S)) (registry : Registry π) :
    Option Node → Except ScenarioError (Expr (Procedure π))
  | some node => Expr.read family registry node
  | none => .ok (.bool false)

/-- what is logged while the failure tree is read -/
def readFailureLog (family : Condition π (World S)) (registry : Registry π) :
    Option Node → List Record
  | some node => Expr.readLog family registry node
  | none => []

/-- build the network and read the end condition; nothing is sent to the simulator -/
def start (family : Condition π (World S)) (registry : Registry π) (script : Script)
    (stage : Stage S) : Except ScenarioError (Run π) × World S :=
  let (network, built) := Network.ofBlocks script.intersections
  let world : World S := ⟨stage.noteAll (.info "Intersection:" :: built), network⟩
  let world := world.noteAll (Expr.readLog family registry script.success)
  match Expr.read family registry script.success with
  | .error error => (.error error, world)
  | .ok success =>
    let world := world.noteAll (readFailureLog family registry script.failure)
    match readFailure family registry script.failure with
    | .error error => (.error error, world)
    | .ok failure =>
      (.ok ⟨success, failure, success.errors ++ failure.errors, .ongoing⟩,
        world.noteAll
          [.info ("Success: " ++ success.line), .info ("Failure: " ++ failure.line)])

def isConfigured (run : Run π) : Bool := run.errors.isEmpty

/-- one tick of a tree of the end condition -/
def evaluate (family : Condition π (World S)) (e : Expr (Procedure π)) (world : World S) :
    Turn (Except EvaluationError Value) (Expr (Procedure π)) (World S) :=
  e.evaluate (Procedure.call family) world

/-- what is logged about a tree that has not become true -/
def pendingLine (label : String) (e : Expr (Procedure π)) (v : Value) : Record :=
  .debug (label ++ ": " ++ e.line ++ " -> " ++ v.text)

/-- what is logged about a tree that could not be evaluated -/
def faultLine (label : String) (error : EvaluationError) : Record :=
  .error (label ++ " condition: " ++ error.message)

/-- the success tree: it decides between success and one more tick -/
def tickSuccess (family : Condition π (World S)) (run : Run π) (world : World S) :
    Status × Run π × World S :=
  let turn := evaluate family run.success world
  let after := { run with success := turn.after }
  match turn.answer with
  | .ok v =>
    if v.isTruthy then (.succeeded, after, turn.world)
    else (.ongoing, after, turn.world.note (pendingLine "Success" turn.after v))
  | .error error => (.failed, after, turn.world.note (faultLine "Success" error))

/-- one tick: errors of the configuration, the network, the failure tree, the success tree -/
def tick (family : Condition π (World S)) (run : Run π) (world : World S) :
    Status × Run π × World S :=
  match run.errors with
  | first :: _ =>
    (.failed, run, world.note (.error ("Scenario is not configured (" ++
      toString run.errors.length ++ " error(s)), first: " ++ first.message)))
  | [] =>
    if world.network.update = .failed then (.failed, run, world)
    else
      let turn := evaluate family run.failure world
      let after := { run with failure := turn.after }
      match turn.answer with
      | .ok v =>
        if v.isTruthy then (.failed, after, turn.world)
        else tickSuccess family after (turn.world.note (pendingLine "Failure" turn.after v))
      | .error error => (.failed, after, turn.world.note (faultLine "Failure" error))

/-- the line logged with the verdict -/
def verdictLine (sim : Simulator S) (status : Status) (world : World S) : Record :=
  .info ("Scenario " ++ status.word ++ " after " ++
    Places.write 2 (sim.clock world.simulator).toSeconds ++ "s, " ++
    Places.write 2 (sim.distance world.simulator) ++ "m")

/-- one tick of a run; a final verdict is kept and nothing happens any more -/
def update (family : Condition π (World S)) (sim : Simulator S) (run : Run π) (world : World S) :
    Run π × World S :=
  if run.status.isTerminal then (run, world)
  else
    let (status, after, world) := tick family run world
    ({ after with status },
      if status.isTerminal then world.note (verdictLine sim status world) else world)

/-! ## how a tick can go -/

section
variable {family : Condition π (World S)} {run : Run π} {world : World S} {v : Value}

theorem tickSuccess_of_true (ha : (evaluate family run.success world).answer = .ok v)
    (hv : v.isTruthy = true) :
    tickSuccess family run world =
      (.succeeded, { run with success := (evaluate family run.success world).after },
        (evaluate family run.success world).world) := by
  simp only [tickSuccess, ha, hv, if_true]

theorem tickSuccess_of_false (ha : (evaluate family run.success world).answer = .ok v)
    (hv : v.isTruthy = false) :
    tickSuccess family run world =
      (.ongoing, { run with success := (evaluate family run.success world).after },
        (evaluate family run.success world).world.note
          (pendingLine "Success" (evaluate family run.success world).after v)) := by
  simp only [tickSuccess, ha, hv, Bool.false_eq_true, if_false]

theorem tickSuccess_of_error {error : EvaluationError}
    (ha : (evaluate family run.success world).answer = .error error) :
    tickSuccess family run world =
      (.failed, { run with success := (evaluate family run.success world).after },
        (evaluate family run.success world).world.note (faultLine "Success" error)) := by
  simp only [tickSuccess, ha]

theorem tick_of_not_configured {first : ConfigurationError} {others : List ConfigurationError}
    (h : run.errors = first :: others) :
    tick family run world =
      (.failed, run, world.note (.error ("Scenario is not configured (" ++
        toString run.errors.length ++ " error(s)), first: " ++ first.message))) := by
  unfold tick
  rw [h]

theorem tick_of_network_failed (h : run.errors = []) (hn : world.network.update = .failed) :
    tick family run world = (.failed, run, world) := by
  unfold tick
  rw [h]
  exact if_pos hn

/-- a failure tree that is true decides, and the success tree is not asked -/
theorem tick_of_failing (h : run.errors = []) (hn : world.network.update ≠ .failed)
    (ha : (evaluate family run.failure world).answer = .ok v) (hv : v.isTruthy = true) :
    tick family run world =
      (.failed, { run with failure := (evaluate family run.failure world).after },
        (evaluate family run.failure world).world) := by
  unfold tick
  rw [h]
  simp only [hn, if_false, ha, hv, if_true]

theorem tick_of_failure_error {error : EvaluationError} (h : run.errors = [])
    (hn : world.network.update ≠ .failed)
    (ha : (evaluate family run.failure world).answer = .error error) :
    tick family run world =
      (.failed, { run with failure := (evaluate family run.failure world).after },
        (evaluate family run.failure world).world.note (faultLine "Failure" error)) := by
  unfold tick
  rw [h]
  simp only [hn, if_false, ha]

/-- a failure tree that is false leaves the verdict to the success tree -/
theorem tick_of_not_failing (h : run.errors = []) (hn : world.network.update ≠ .failed)
    (ha : (evaluate family run.failure world).answer = .ok v) (hv : v.isTruthy = false) :
    tick family run world =
      tickSuccess family { run with failure := (evaluate family run.failure world).after }
        ((evaluate family run.failure world).world.note
          (pendingLine "Failure" (evaluate family run.failure world).after v)) := by
  unfold tick
  rw [h]
  simp only [hn, if_false, ha, hv, Bool.false_eq_true]

theorem update_of_terminal (h : run.status.isTerminal = true) (sim : Simulator S) :
    run.update family sim world = (run, world) := by
  rw [update, if_pos h]

theorem update_of_ongoing (h : run.status.isTerminal = false) (sim : Simulator S) :
    run.update family sim world =
      ({ (tick family run world).2.1 with status := (tick family run world).1 },
        if (tick family run world).1.isTerminal then
          (tick family run world).2.2.note
            (verdictLine sim (tick family run world).1 (tick family run world).2.2)
        else (tick family run world).2.2) := by
  rw [update, if_neg (by rw [h]; exact Bool.false_ne_true)]

end

end Run

end SignalScript
