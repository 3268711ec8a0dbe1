import SignalScript.Condition.Basic
import SignalScript.Expr.Basic

/-!
# Evaluating an expression for one tick

Evaluation goes through the tree in reading order. Every leaf that is reached is called in the
world that the earlier ones have left, and both the tree and the world come out changed.

* `Expr.evaluate`       one tick of a tree;
* `Expr.evaluateUntil`  operands of a junction, until one decides it;
* `Expr.evaluateOn`     children of a sequential expression, until one does not pass;
* `Expr.evaluateAll`    children of a parallel expression, every one of them.

An error ends the evaluation where it arises; what was done before it stays done.
-/

namespace SignalScript

namespace Expr

variable {α σ : Type}

/-- the answer of a leaf, or the error of one that was never configured -/
abbrev Call (α σ : Type) := α → σ → Turn (Except EvaluationError Bool) α σ

mutual

/-- one tick of a tree; a value evaluates to itself, everything else to a boolean -/
def evaluate (call : Call α σ) : Expr α → σ → Turn (Except EvaluationError Value) (Expr α) σ
  | .value v, world => ⟨.ok v, .value v, world⟩
  | .junction j operands, world =>
    let turn := evaluateUntil call j operands world
    ⟨turn.answer.map .bool, .junction j turn.after, turn.world⟩
  | .not operand, world =>
    let turn := evaluate call operand world
    ⟨turn.answer.map fun v => .bool !v.isTruthy, .not turn.after, turn.world⟩
  | .leaf a, world =>
    let turn := call a world
    ⟨turn.answer.map .bool, .leaf turn.after, turn.world⟩
  | .sequential passed pending, world =>
    let turn := evaluateOn call pending world
    ⟨turn.answer.map .bool, .sequential (passed ++ turn.after.1) turn.after.2, turn.world⟩
  | .parallel policy children, world =>
    let turn := evaluateAll call children world
    ⟨turn.answer.map fun votes => .bool (policy.combine votes), .parallel policy turn.after,
      turn.world⟩

/-- operands up to the first whose truth differs from the identity of the junction -/
def evaluateUntil (call : Call α σ) (j : Junction) :
    List (Expr α) → σ → Turn (Except EvaluationError Bool) (List (Expr α)) σ
  | [], world => ⟨.ok j.identity, [], world⟩
  | e :: rest, world =>
    let turn := evaluate call e world
    match turn.answer with
    | .error error => ⟨.error error, turn.after :: rest, turn.world⟩
    | .ok v =>
      if v.isTruthy = j.identity then
        let others := evaluateUntil call j rest turn.world
        ⟨others.answer, turn.after :: others.after, others.world⟩
      else ⟨.ok !j.identity, turn.after :: rest, turn.world⟩

/-- children up to the first that does not pass: those that passed, and the others -/
def evaluateOn (call : Call α σ) :
    List (Expr α) → σ → Turn (Except EvaluationError Bool) (List (Expr α) × List (Expr α)) σ
  | [], world => ⟨.ok true, ([], []), world⟩
  | e :: rest, world =>
    let turn := evaluate call e world
    match turn.answer with
    | .error error => ⟨.error error, ([], turn.after :: rest), turn.world⟩
    | .ok v =>
      if v.isTruthy then
        let others := evaluateOn call rest turn.world
        ⟨others.answer, (turn.after :: others.after.1, others.after.2), others.world⟩
      else ⟨.ok false, ([], turn.after :: rest), turn.world⟩

/-- every child, and the truth of each -/
def evaluateAll (call : Call α σ) :
    List (Expr α) → σ → Turn (Except EvaluationError (List Bool)) (List (Expr α)) σ
  | [], world => ⟨.ok [], [], world⟩
  | e :: rest, world =>
    let turn := evaluate call e world
    match turn.answer with
    | .error error => ⟨.error error, turn.after :: rest, turn.world⟩
    | .ok v =>
      let others := evaluateAll call rest turn.world
      ⟨others.answer.map (v.isTruthy :: ·), turn.after :: others.after, others.world⟩

end

/-! ## one tick of each kind of tree -/

section
variable (call : Call α σ) (world : σ)

theorem evaluate_junction (j : Junction) (operands : List (Expr α)) :
    evaluate call (.junction j operands) world =
      ⟨(evaluateUntil call j operands world).answer.map .bool,
        .junction j (evaluateUntil call j operands world).after,
        (evaluateUntil call j operands world).world⟩ := rfl

theorem evaluate_not (operand : Expr α) :
    evaluate call (.not operand) world =
      ⟨(evaluate call operand world).answer.map fun v => .bool !v.isTruthy,
        .not (evaluate call operand world).after, (evaluate call operand world).world⟩ := rfl

theorem evaluate_leaf (a : α) :
    evaluate call (.leaf a) world =
      ⟨(call a world).answer.map .bool, .leaf (call a world).after, (call a world).world⟩ := rfl

theorem evaluate_sequential (passed pending : List (Expr α)) :
    evaluate call (.sequential passed pending) world =
      ⟨(evaluateOn call pending world).answer.map .bool,
        .sequential (passed ++ (evaluateOn call pending world).after.1)
          (evaluateOn call pending world).after.2,
        (evaluateOn call pending world).world⟩ := rfl

theorem evaluate_parallel (policy : Policy) (children : List (Expr α)) :
    evaluate call (.parallel policy children) world =
      ⟨(evaluateAll call children world).answer.map fun votes => .bool (policy.combine votes),
        .parallel policy (evaluateAll call children world).after,
        (evaluateAll call children world).world⟩ := rfl

theorem evaluateUntil_nil (j : Junction) :
    evaluateUntil call j [] world = ⟨.ok j.identity, [], world⟩ := rfl
theorem evaluateOn_nil : evaluateOn call [] world = ⟨.ok true, ([], []), world⟩ := rfl

end

/-! ## one tick of a list, by the answer of its first tree -/

section
variable {call : Call α σ} {e : Expr α} {world : σ} {error : EvaluationError} {v : Value}
  {j : Junction}

theorem evaluateUntil_cons_of_error (h : (evaluate call e world).answer = .error error)
    (rest : List (Expr α)) :
    evaluateUntil call j (e :: rest) world =
      ⟨.error error, (evaluate call e world).after :: rest, (evaluate call e world).world⟩ := by
  rw [evaluateUntil]
  simp only [h]

/-- an operand that agrees with the identity leaves the junction open -/
theorem evaluateUntil_cons_of_open (h : (evaluate call e world).answer = .ok v)
    (hv : v.isTruthy = j.identity) (rest : List (Expr α)) :
    evaluateUntil call j (e :: rest) world =
      ⟨(evaluateUntil call j rest (evaluate call e world).world).answer,
        (evaluate call e world).after ::
          (evaluateUntil call j rest (evaluate call e world).world).after,
        (evaluateUntil call j rest (evaluate call e world).world).world⟩ := by
  rw [evaluateUntil]
  simp only [h, hv, if_true]

theorem evaluateUntil_cons_of_decided (h : (evaluate call e world).answer = .ok v)
    (hv : v.isTruthy ≠ j.identity) (rest : List (Expr α)) :
    evaluateUntil call j (e :: rest) world =
      ⟨.ok !j.identity, (evaluate call e world).after :: rest, (evaluate call e world).world⟩ := by
  rw [evaluateUntil]
  simp only [h, hv, if_false]

theorem evaluateOn_cons_of_error (h : (evaluate call e world).answer = .error error)
    (rest : List (Expr α)) :
    evaluateOn call (e :: rest) world =
      ⟨.error error, ([], (evaluate call e world).after :: rest),
        (evaluate call e world).world⟩ := by
  rw [evaluateOn]
  simp only [h]

theorem evaluateOn_cons_of_passed (h : (evaluate call e world).answer = .ok v)
    (hv : v.isTruthy = true) (rest : List (Expr α)) :
    evaluateOn call (e :: rest) world =
      ⟨(evaluateOn call rest (evaluate call e world).world).answer,
        ((evaluate call e world).after ::
            (evaluateOn call rest (evaluate call e world).world).after.1,
          (evaluateOn call rest (evaluate call e world).world).after.2),
        (evaluateOn call rest (evaluate call e world).world).world⟩ := by
  rw [evaluateOn]
  simp only [h, hv, if_true]

theorem evaluateOn_cons_of_stopped (h : (evaluate call e world).answer = .ok v)
    (hv : v.isTruthy = false) (rest : List (Expr α)) :
    evaluateOn call (e :: rest) world =
      ⟨.ok false, ([], (evaluate call e world).after :: rest), (evaluate call e world).world⟩ := by
  rw [evaluateOn]
  simp only [h, hv, Bool.false_eq_true, if_false]

theorem evaluateAll_cons_of_error (h : (evaluate call e world).answer = .error error)
    (rest : List (Expr α)) :
    evaluateAll call (e :: rest) world =
      ⟨.error error, (evaluate call e world).after :: rest, (evaluate call e world).world⟩ := by
  rw [evaluateAll]
  simp only [h]

theorem evaluateAll_cons_of_ok (h : (evaluate call e world).answer = .ok v)
    (rest : List (Expr α)) :
    evaluateAll call (e :: rest) world =
      ⟨(evaluateAll call rest (evaluate call e world).world).answer.map (v.isTruthy :: ·),
        (evaluate call e world).after ::
          (evaluateAll call rest (evaluate call e world).world).after,
        (evaluateAll call rest (evaluate call e world).world).world⟩ := by
  rw [evaluateAll]
  simp only [h]

end

end Expr

end SignalScript
