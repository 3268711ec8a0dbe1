import SignalScript.Proofs.Scenario.Events

/-!
# Which conditions are updated

To see which conditions are updated, and in which order, a list is kept beside the simulator: every
condition that is updated is written into it as it was before. Apart from the list, everything is
as it would be without it.

* `Traced`               a simulator, and the conditions that were updated so far;
* `Condition.traced`     conditions whose updates are written down;
* `Run.updatedIn`        the conditions that a tick of a tree updates, in order;
* `Run.evaluate_traced`  writing them down changes nothing about the tick;
* `Run.updatedBy`        the conditions that an update of a run updates.
-/

namespace SignalScript

variable {π S : Type}

/-- a simulator, and the conditions that were updated so far -/
structure Traced (π S : Type) where
  simulator : S
  updated : List π

namespace World

def traced (world : World S) (updated : List π) : World (Traced π S) :=
  ⟨⟨⟨world.simulator, updated⟩, world.journal⟩, world.network⟩

def untraced (world : World (Traced π S)) : World S :=
  ⟨⟨world.simulator.simulator, world.journal⟩, world.network⟩

end World

/-- the list is none of the simulator's business -/
def Simulator.traced (sim : Simulator S) : Simulator (Traced π S) where
  command c s :=
    let reply := sim.command c s.simulator
    ⟨reply.accepted, ⟨reply.state, s.updated⟩, reply.log⟩
  clock s := sim.clock s.simulator
  distance s := sim.distance s.simulator
  speed s := sim.speed s.simulator

/-- a condition that is updated is written down -/
def Condition.traced (family : Condition π (World S)) : Condition π (World (Traced π S)) where
  typeName := family.typeName
  name := family.name
  configure := family.configure
  update c world :=
    let turn := family.update c world.untraced
    ⟨turn.answer, turn.after, turn.world.traced (world.simulator.updated ++ [c])⟩

namespace Run

variable (family : Condition π (World S))

/-- the conditions that a tick of the tree updates, in order -/
def updatedIn (e : Expr (Procedure π)) (world : World S) : List π :=
  (evaluate family.traced e (world.traced [])).world.simulator.updated

/-- the conditions that an update of the run updates, in order -/
def updatedBy (sim : Simulator S) (run : Run π) (world : World S) : List π :=
  (run.update family.traced sim.traced (world.traced [])).2.simulator.updated

/-- a call in a world with a list does what it does without, and adds to the list -/
theorem call_traced (p : Procedure π) (world : World S) :
    ∃ more, ∀ seen, Procedure.call family.traced p (world.traced seen) =
      ⟨(Procedure.call family p world).answer, (Procedure.call family p world).after,
        (Procedure.call family p world).world.traced (seen ++ more)⟩ := by
  obtain ⟨role, typeName, binding⟩ := p
  cases binding with
  | ready c => exact ⟨[c], fun _ => rfl⟩
  | rejected c error =>
    refine ⟨[], fun seen => ?_⟩
    rw [List.append_nil]
    rfl
  | missing name =>
    refine ⟨[], fun seen => ?_⟩
    rw [List.append_nil]
    rfl

/-- **Keeping the list changes nothing about a tick**: the answer, the tree and the world are as
they would be without it, and the tick adds what it updates to what was there before. -/
theorem evaluate_traced (e : Expr (Procedure π)) (world : World S) (seen : List π) :
    evaluate family.traced e (world.traced seen) =
      ⟨(evaluate family e world).answer, (evaluate family e world).after,
        (evaluate family e world).world.traced (seen ++ updatedIn family e world)⟩ := by
  -- side by side: the tick that starts with `seen` and the one that starts with nothing
  have hlists : (evaluate family.traced e (world.traced seen)).Alike Eq
      (fun w w' => ∃ (u : World S) (more : List π),
        w = u.traced (seen ++ more) ∧ w' = u.traced more)
      (evaluate family.traced e (world.traced [])) := by
    refine Expr.evaluate_alike ?_ e ⟨world, [], by rw [List.append_nil], rfl⟩
    rintro p w w' ⟨u, more, rfl, rfl⟩
    obtain ⟨most, hcall⟩ := call_traced family p u
    rw [hcall, hcall]
    exact ⟨rfl, rfl, _, more ++ most, by rw [List.append_assoc], rfl⟩
  -- and the one that starts with nothing beside the tick without a list
  have hplain : (evaluate family.traced e (world.traced [])).Alike Eq (fun w u => w.untraced = u)
      (evaluate family e world) := by
    refine Expr.evaluate_alike ?_ e rfl
    rintro p w u rfl
    obtain ⟨most, hcall⟩ := call_traced family p w.untraced
    have hw : w = w.untraced.traced w.simulator.updated := rfl
    rw [hw, hcall]
    exact ⟨rfl, rfl, rfl⟩
  obtain ⟨u, more, hseen, hnone⟩ := hlists.world
  have hmore : updatedIn family e world = more := congrArg (fun w => w.simulator.updated) hnone
  have hu : u = (evaluate family e world).world := by
    rw [← hplain.world, hnone]
    rfl
  rw [hmore, ← hu, ← hseen, ← hplain.answer, ← hplain.after, ← hlists.answer, ← hlists.after]

end Run

end SignalScript
