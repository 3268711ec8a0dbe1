import SignalScript.Config.Field

/-!
# Comparing a measured quantity with a threshold

* `Rule`          greater, less or equal up to a tolerance;
* `Rule.compare`  the comparison itself;
* `Rule.known`    the names of the rules in a script.
-/

namespace SignalScript

inductive Rule where
  | greaterThan
  | lessThan
  | equalTo
  deriving DecidableEq

namespace Rule

/-- how far apart two equal quantities may be -/
def tolerance : Float := 1e-6

def compare : Rule → Float → Float → Bool
  | .greaterThan, measured, threshold => threshold < measured
  | .lessThan, measured, threshold => measured < threshold
  | .equalTo, measured, threshold => (measured - threshold).abs < tolerance

/-- the names of the rules in a script -/
def known : List (String × Rule) :=
  [("greaterThan", .greaterThan), ("lessThan", .lessThan), ("equalTo", .equalTo)]

/-- a rule as the log shows it -/
def word : Rule → String
  | .greaterThan => "GreaterThan"
  | .lessThan => "LessThan"
  | .equalTo => "EqualTo"

def ofNode? (node : Node) : Except Mismatch Rule := node.asName known

end Rule

end SignalScript
