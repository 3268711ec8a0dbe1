import SignalScript.Node.Decode

/-!
# What can be wrong with a script

* `ConfigurationError`  a key is missing or mistyped, a condition is unknown or rejects its node;
* `ScenarioError`       a configuration error, or a node that is no expression;
* `EvaluationError`     a procedure that was never configured is evaluated.

Each has a `message`, the one place where its wording stands.
-/

namespace SignalScript

inductive ConfigurationError where
  | missingKey (key context : String) (node : Node)
  | invalidValue (key : String) (reason : Mismatch)
  | unknownCondition (name : String)
  | rejected (name reason : String)
  deriving Inhabited

namespace ConfigurationError

def message : ConfigurationError → String
  | .missingKey key context node => context ++ " requires key '" ++ key ++ "': " ++ node.describe
  | .invalidValue key reason => "Invalid value for key '" ++ key ++ "': " ++ reason.message
  | .unknownCondition name =>
    "Failed to load procedure '" ++ name ++ "': no condition registered under that name"
  | .rejected name reason => "Condition '" ++ name ++ "' failed to configure: " ++ reason

end ConfigurationError

inductive ScenarioError where
  | configuration (error : ConfigurationError)
  | unrecognized (node : Node)
  | unsupported (node : Node)
  deriving Inhabited

namespace Node

/-- the kind of a node that is no expression -/
def shape : Node → String
  | .sequence _ => "sequence"
  | .mapping _ => "map"
  | .null => "null"
  | .tagged _ _ => "tagged"
  | _ => "scalar"

end Node

namespace ScenarioError

def message : ScenarioError → String
  | .configuration error => "Configuration error: " ++ error.message
  | .unrecognized node =>
    "Unrecognized expression (expected one of All, Any, Not, Sequential, Parallel, Type): " ++
      node.describe
  | .unsupported node =>
    "Unsupported " ++ node.shape ++ " node where an expression map is required: " ++ node.describe

end ScenarioError

inductive EvaluationError where
  | notConfigured (typeName : String)
  deriving DecidableEq

namespace EvaluationError

def message : EvaluationError → String
  | .notConfigured typeName => "Procedure '" ++ typeName ++ "' is not configured"

end EvaluationError

end SignalScript
