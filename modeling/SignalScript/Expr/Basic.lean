import SignalScript.Decimal.NumberStyle
import SignalScript.Node.Describe

/-!
# Expressions

An expression is a tree over leaves of any type. A sequential expression keeps apart the children
that have passed and those that have not, so the tree carries its own progress.

* `Value`        what an expression evaluates to; everything but false counts as true;
* `Junction`     and, or;   `Policy`  how the votes of parallel children are counted;
* `Expr`         the trees;
* `Expr.leaves`  the leaves in reading order;
* `Expr.map`, `Expr.expand`  other leaves, or whole trees, in the place of leaves;
* `Expr.text`    the tree on one line, every node between parentheses.
-/

namespace SignalScript

/-! ## values -/

inductive Value where
  | nil
  | bool (b : Bool)
  | number (x : Float)
  deriving Inhabited

namespace Value

/-- everything but false counts as true -/
def isTruthy : Value → Bool
  | .bool b => b
  | _ => true

def text : Value → String
  | .nil => "()"
  | .bool b => "(Bool " ++ boolText b ++ ")"
  | .number x => "(Number " ++ NumberStyle.plain.write x ++ ")"

theorem isTruthy_bool (b : Bool) : (bool b).isTruthy = b := rfl

end Value

/-! ## connectives -/

inductive Junction where
  | and
  | or
  deriving DecidableEq

namespace Junction

/-- the result over no operands; an operand that differs from it decides -/
def identity : Junction → Bool
  | .and => true
  | .or => false

def word : Junction → String
  | .and => "And"
  | .or => "Or"

end Junction

/-- how the votes of parallel children are counted -/
inductive Policy where
  | all
  | any
  | majority
  deriving DecidableEq

namespace Policy

/-- a majority is strictly more than half of the votes -/
def combine : Policy → List Bool → Bool
  | .all, votes => votes.all id
  | .any, votes => votes.any id
  | .majority, votes => votes.length < votes.count true * 2

def word : Policy → String
  | .all => "All"
  | .any => "Any"
  | .majority => "Majority"

/-- the names of the policies in a script -/
def known : List (String × Policy) := [("All", .all), ("Any", .any), ("Majority", .majority)]

end Policy

/-! ## trees -/

/-- expressions with leaves `α`; the children of a sequential expression that have passed stand
apart from the others -/
inductive Expr (α : Type) where
  | value (v : Value)
  | junction (j : Junction) (operands : List (Expr α))
  | not (operand : Expr α)
  | leaf (a : α)
  | sequential (passed pending : List (Expr α))
  | parallel (policy : Policy) (children : List (Expr α))
  deriving Inhabited

namespace Expr

variable {α β : Type}

def nil : Expr α := .value .nil
def bool (b : Bool) : Expr α := .value (.bool b)

mutual

/-- the leaves in reading order -/
def leaves : Expr α → List α
  | .value _ => []
  | .junction _ operands => leavesOf operands
  | .not operand => leaves operand
  | .leaf a => [a]
  | .sequential passed pending => leavesOf passed ++ leavesOf pending
  | .parallel _ children => leavesOf children

def leavesOf : List (Expr α) → List α
  | [] => []
  | e :: rest => leaves e ++ leavesOf rest

end

mutual

/-- a tree in the place of every leaf -/
def expand (f : α → Expr β) : Expr α → Expr β
  | .value v => .value v
  | .junction j operands => .junction j (expandAll f operands)
  | .not operand => .not (expand f operand)
  | .leaf a => f a
  | .sequential passed pending => .sequential (expandAll f passed) (expandAll f pending)
  | .parallel policy children => .parallel policy (expandAll f children)

def expandAll (f : α → Expr β) : List (Expr α) → List (Expr β)
  | [] => []
  | e :: rest => expand f e :: expandAll f rest

end

/-- another leaf in the place of every leaf -/
def map (f : α → β) (e : Expr α) : Expr β := e.expand fun a => .leaf (f a)

mutual

/-- the tree on one line -/
def text (leafText : α → String) : Expr α → String
  | .value v => v.text
  | .junction j operands => "(" ++ j.word ++ textOf leafText operands ++ ")"
  | .not operand => "(Not " ++ text leafText operand ++ ")"
  | .leaf a => leafText a
  | .sequential passed pending =>
    "(Sequential" ++ textOf leafText passed ++ textOf leafText pending ++ ")"
  | .parallel policy children => "(Parallel " ++ policy.word ++ textOf leafText children ++ ")"

/-- a blank before each of a list of trees -/
def textOf (leafText : α → String) : List (Expr α) → String
  | [] => ""
  | e :: rest => " " ++ text leafText e ++ textOf leafText rest

end

/-! ## progress of a sequential expression -/

/-- how many children have passed and how many there are, for a sequential expression -/
def progress? : Expr α → Option (Nat × Nat)
  | .sequential passed pending => some (passed.length, passed.length + pending.length)
  | _ => none

/-- start over -/
def reset : Expr α → Expr α
  | .sequential passed pending => .sequential [] (passed ++ pending)
  | e => e

theorem leavesOf_nil : leavesOf ([] : List (Expr α)) = [] := rfl
theorem leavesOf_cons (e : Expr α) (es : List (Expr α)) :
    leavesOf (e :: es) = e.leaves ++ leavesOf es := rfl

theorem leavesOf_append (xs ys : List (Expr α)) :
    leavesOf (xs ++ ys) = leavesOf xs ++ leavesOf ys := by
  induction xs with
  | nil => rfl
  | cons e xs ih => simp [leavesOf_cons, ih]

theorem expandAll_cons (f : α → Expr β) (e : Expr α) (es : List (Expr α)) :
    expandAll f (e :: es) = e.expand f :: expandAll f es := rfl

theorem textOf_nil (leafText : α → String) : textOf leafText [] = "" := rfl
theorem textOf_cons (leafText : α → String) (e : Expr α) (es : List (Expr α)) :
    textOf leafText (e :: es) = " " ++ e.text leafText ++ textOf leafText es := rfl

theorem textOf_append (leafText : α → String) (xs ys : List (Expr α)) :
    textOf leafText (xs ++ ys) = textOf leafText xs ++ textOf leafText ys := by
  induction xs with
  | nil => simp [textOf_nil]
  | cons e xs ih => simp [textOf_cons, ih, String.append_assoc]

end Expr

end SignalScript
