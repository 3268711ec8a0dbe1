import SignalScript.Proofs.Expr.Lockstep

/-!
# Calls written down

To see which leaves a tick calls, and in which order, every call is written down. The tick itself
stays what it is.

* `Call.journaled`           a call that is written down;
* `Expr.evaluate_journaled`  writing calls down changes nothing else;
* `Expr.Sight`, `Expr.sights`  what can be seen of a tick and of a run: answers, calls, leaves and
                             worlds.
-/

namespace SignalScript

namespace Expr

variable {α σ : Type}

/-- a call of a leaf; the leaf is written down as it was called -/
def Call.journaled (call : Call α σ) : Call α (σ × List α) := fun a world =>
  let turn := call a world.1
  ⟨turn.answer, turn.after, (turn.world, world.2 ++ [a])⟩

/-- writing calls down changes nothing else -/
theorem evaluate_journaled (call : Call α σ) (e : Expr α) (world : σ) (seen : List α) :
    (e.evaluate call world).Alike Eq (fun w w' => w = w'.1)
      (e.evaluate call.journaled (world, seen)) := by
  refine evaluate_alike ?_ e rfl
  rintro a w w' rfl
  exact ⟨rfl, rfl, rfl⟩

/-- what can be seen of one tick: its answer, the leaves that were called in order, all leaves
afterwards and the world afterwards -/
structure Sight (α σ : Type) where
  answer : Except EvaluationError Value
  calls : List α
  leaves : List α
  world : σ

/-- the sights of a run in which the world changes before each tick -/
def sights (call : Call α σ) (e : Expr α) (world : σ) : List (σ → σ) → List (Sight α σ)
  | [] => []
  | change :: changes =>
    let turn := e.evaluate call (change world)
    ⟨turn.answer, (e.evaluate call.journaled (change world, [])).world.2, turn.after.leaves,
      turn.world⟩ :: sights call turn.after turn.world changes

end Expr

end SignalScript
