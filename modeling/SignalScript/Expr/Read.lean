import SignalScript.Expr.Outline
import SignalScript.Expr.Procedure

/-!
# Reading an expression

The outline of a node gives the tree; each procedure node of it is then loaded by itself.

* `Expr.read`      the tree with its procedures loaded, or the first offence;
* `Expr.readLog`   what is logged meanwhile, in reading order.
-/

namespace SignalScript

namespace Expr

variable {π σ : Type}

/-- load the procedure of a node, in the role that the node gives it -/
def loadLeaf (family : Condition π σ) (registry : Registry π) (node : Node) :
    Procedure π × Record :=
  Procedure.load family registry (Procedure.roleOf node) node

/-- the expression that a node describes -/
def read (family : Condition π σ) (registry : Registry π) (node : Node) :
    Except ScenarioError (Expr (Procedure π)) :=
  match node.outline with
  | .ok shape => .ok (shape.map fun leaf => (loadLeaf family registry leaf).1)
  | .error offence => .error offence.fault.error

/-- one record for each procedure that was met, and the complaint about an offence -/
def readLog (family : Condition π σ) (registry : Registry π) (node : Node) : List Record :=
  match node.outline with
  | .ok shape => shape.leaves.map fun leaf => (loadLeaf family registry leaf).2
  | .error offence =>
    (offence.met.map fun leaf => (loadLeaf family registry leaf).2) ++
      offence.fault.complaint?.toList

end Expr

end SignalScript
