import SignalScript.Node.Describe

/-!
# Reading values off nodes

A node is read as the kind of value that a key of the script asks for. What is no such value is
answered with the reason.

* `Mismatch`                     why a node is not the value wanted, and `Mismatch.message`;
* `asFloat`, `asNatural`, `asNaturals`, `asText`  scalars and lists, looked for under tags;
* `asName`                       one of a list of names, as a text or as a tag.
-/

namespace SignalScript

/-- why a node is not the value wanted -/
inductive Mismatch where
  | kind (found : Node) (wanted : String)
  | negative (found : Int) (wanted : String)
  | unknownName (name : String) (known : List String)
  | repeatedField (name : String)
  | noLights
  | noStateList

namespace Node

/-- the kind of a node, and its value if it is a scalar -/
def found : Node → String
  | .null => "unit value"
  | .bool b => "boolean `" ++ boolText b ++ "`"
  | .number (.int i) => "integer `" ++ toString i ++ "`"
  | .number (.float x) => "floating point `" ++ NumberStyle.pointedPlain.write x ++ "`"
  | .text s => "string " ++ Text.quoteVisible s
  | .sequence _ => "sequence"
  | .mapping _ => "map"
  | .tagged _ _ => "enum"

end Node

namespace Mismatch

def message : Mismatch → String
  | .kind node wanted => "invalid type: " ++ node.found ++ ", expected " ++ wanted
  | .negative i wanted => "invalid value: integer `" ++ toString i ++ "`, expected " ++ wanted
  | .unknownName name known =>
    "unknown variant `" ++ name ++ "`, expected one of " ++
      enclosed "" "" ", " (known.map fun each => "`" ++ each ++ "`")
  | .repeatedField name => "duplicate field `" ++ name ++ "`"
  | .noLights => "must list at least one traffic light id"
  | .noStateList => "expected a list of control states"

end Mismatch

namespace Number

/-- the nearest double -/
def toFloat : Number → Float
  | .int i => Float.ofInt i
  | .float x => x

end Number

namespace Node

/-- whole numbers count as doubles -/
def asFloat (node : Node) : Except Mismatch Float :=
  match node.untag with
  | .number n => .ok n.toFloat
  | other => .error (.kind other "f64")

/-- a whole number that is not negative; a double never counts as one -/
def asNatural (node : Node) : Except Mismatch Nat :=
  match node.untag with
  | .number (.int i) => if i < 0 then .error (.negative i "u64") else .ok i.toNat
  | other => .error (.kind other "u64")

def asText (node : Node) : Except Mismatch String :=
  match node.untag with
  | .text s => .ok s
  | other => .error (.kind other "a string")

/-- a list of whole numbers; null is the empty list -/
def asNaturals (node : Node) : Except Mismatch (List Nat) :=
  match node.untag with
  | .sequence items => items.mapM asNatural
  | .null => .ok []
  | other => .error (.kind other "a sequence")

/-- one of the known names, as a text or as the only tag of null -/
def asName {α : Type} (known : List (String × α)) (node : Node) : Except Mismatch α :=
  match node with
  | .text name =>
    match known.lookup name with
    | some a => .ok a
    | none => .error (.unknownName name (known.map (·.1)))
  | .tagged name value =>
    match known.lookup name with
    | some a =>
      match value with
      | .null => .ok a
      | other => .error (.kind other "unit")
    | none => .error (.unknownName name (known.map (·.1)))
  | other => .error (.kind other "a Value::Tagged enum")

end Node

end SignalScript
