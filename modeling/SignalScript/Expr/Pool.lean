import SignalScript.Expr.Evaluate

/-!
# Shared expressions

An expression may stand in several places at once. A pool keeps every shared expression once, and a
leaf can name an expression of the pool instead of being a leaf of its own. An expression names
only earlier ones, so there are no cycles.

* `Part`           a leaf of its own, or an expression of the pool;
* `Pool.add`       a new expression and the key it is kept under;
* `Pool.unfold`    an expression with everything it names written out;
* `Pool.evaluate`  one tick of an expression of the pool; whatever it names moves on with it.
-/

namespace SignalScript

/-- a leaf of its own, or the expression kept under a key -/
inductive Part (α : Type) where
  | own (a : α)
  | shared (key : Nat)

/-- the shared expressions, by their keys; each names only earlier ones -/
structure Pool (α : Type) where
  exprs : List (Expr (Part α)) := []

namespace Pool

variable {α σ : Type}

def find? (key : Nat) (pool : Pool α) : Option (Expr (Part α)) := pool.exprs[key]?

/-- keep a new expression under the next key -/
def add (e : Expr (Part α)) (pool : Pool α) : Nat × Pool α :=
  (pool.exprs.length, ⟨pool.exprs ++ [e]⟩)

def set (key : Nat) (e : Expr (Part α)) (pool : Pool α) : Pool α := ⟨pool.exprs.set key e⟩

/-- the leaf of a part, with names written out up to a depth -/
def unfoldPart (pool : Pool α) : Nat → Part α → Expr α
  | _, .own a => .leaf a
  | 0, .shared _ => .nil
  | depth + 1, .shared key =>
    match pool.find? key with
    | some e => e.expand (unfoldPart pool depth)
    | none => .nil

/-- the expression under a key with everything it names written out; a chain of names is shorter
than the pool -/
def unfold (key : Nat) (pool : Pool α) : Expr α :=
  unfoldPart pool pool.exprs.length (.shared key)

/-- call a part: a leaf of its own is called, a named expression has one tick; names are followed
up to a depth -/
def callPart (call : Expr.Call α σ) : Nat → Expr.Call (Part α) (Pool α × σ)
  | _, .own a, (pool, world) =>
    let turn := call a world
    ⟨turn.answer, .own turn.after, (pool, turn.world)⟩
  | 0, .shared key, state => ⟨.ok true, .shared key, state⟩
  | depth + 1, .shared key, (pool, world) =>
    match pool.find? key with
    | some e =>
      let turn := e.evaluate (callPart call depth) (pool, world)
      ⟨turn.answer.map Value.isTruthy, .shared key,
        (turn.world.1.set key turn.after, turn.world.2)⟩
    | none => ⟨.ok true, .shared key, (pool, world)⟩

/-- one tick of the expression under a key -/
def evaluate (call : Expr.Call α σ) (key : Nat) (pool : Pool α) (world : σ) :
    Except EvaluationError Value × Pool α × σ :=
  match pool.find? key with
  | some e =>
    let turn := e.evaluate (callPart call pool.exprs.length) (pool, world)
    (turn.answer, turn.world.1.set key turn.after, turn.world.2)
  | none => (.ok .nil, pool, world)

/-- start a sequential expression over -/
def reset (key : Nat) (pool : Pool α) : Pool α :=
  match pool.find? key with
  | some e => pool.set key e.reset
  | none => pool

end Pool

end SignalScript
