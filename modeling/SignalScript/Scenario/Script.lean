import SignalScript.Node.Basic

/-!
# Scenario scripts

* `Script`  the blocks of the intersections and the nodes of the end condition.
-/

namespace SignalScript

/-- the blocks of the intersections, what makes the scenario succeed, and what makes it fail -/
structure Script where
  intersections : List Node
  success : Node
  failure : Option Node

end SignalScript
