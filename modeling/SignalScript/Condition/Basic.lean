import SignalScript.Config.Field
import SignalScript.Simulation.Basic

/-!
# Conditions

A condition is created without a configuration, reads its configuration off a script node once,
and then answers true or false at every tick. Any type of states can be a family of conditions.

* `Turn`       the answer of a step, what took the step, and the world after it;
* `Condition`  how the states of a family are named, configured and updated.
-/

namespace SignalScript

/-- a step of something in a world: its answer, what it has become, and the world after it -/
structure Turn (ρ τ σ : Type) where
  answer : ρ
  after : τ
  world : σ

/-- a family of conditions with states `π` in a world `σ` -/
structure Condition (π σ : Type) where
  /-- the type under which a script asks for the condition -/
  typeName : π → String
  /-- the name given by the script, or the type -/
  name : π → String
  /-- read the configuration off a node; what was read before an error is kept -/
  configure : Node → π → Except ConfigurationError Unit × π
  /-- answer for this tick; asked only after a configuration without error -/
  update : π → σ → Turn Bool π σ

namespace Condition

variable {π ρ σ : Type}

/-- two families side by side -/
def sum (left : Condition π σ) (right : Condition ρ σ) : Condition (π ⊕ ρ) σ where
  typeName := Sum.elim left.typeName right.typeName
  name := Sum.elim left.name right.name
  configure node
    | .inl p => let (result, after) := left.configure node p; (result, .inl after)
    | .inr p => let (result, after) := right.configure node p; (result, .inr after)
  update
    | .inl p, world => let turn := left.update p world; ⟨turn.answer, .inl turn.after, turn.world⟩
    | .inr p, world => let turn := right.update p world; ⟨turn.answer, .inr turn.after, turn.world⟩

end Condition

end SignalScript
