import SignalScript.Config.Error

/-!
# Typed access to the keys of a node

* `Node.required`  a missing key is an error;
* `Node.optional`  a missing key has a default.

In both a value of the wrong type is an error that names the key.
-/

namespace SignalScript

namespace Node

/-- a mistyped value is blamed on its key -/
def decodeAt {α : Type} (key : String) (decode : Node → Except Mismatch α) (value : Node) :
    Except ConfigurationError α :=
  match decode value with
  | .ok a => .ok a
  | .error reason => .error (.invalidValue key reason)

def required {α : Type} (decode : Node → Except Mismatch α) (key context : String) (node : Node) :
    Except ConfigurationError α :=
  match node.get? key with
  | some value => decodeAt key decode value
  | none => .error (.missingKey key context node)

def optional {α : Type} (decode : Node → Except Mismatch α) (key : String) (default : α)
    (node : Node) : Except ConfigurationError α :=
  match node.get? key with
  | some value => decodeAt key decode value
  | none => .ok default

section
variable {α : Type} {decode : Node → Except Mismatch α} {key context : String}
  {node value : Node}

theorem required_of_get?_none (h : node.get? key = none) :
    node.required decode key context = .error (.missingKey key context node) := by
  rw [required, h]

theorem required_of_get?_some (h : node.get? key = some value) :
    node.required decode key context = decodeAt key decode value := by
  rw [required, h]

theorem decodeAt_eq_ok_iff {a : α} : decodeAt key decode value = .ok a ↔ decode value = .ok a := by
  unfold decodeAt
  cases decode value <;> simp

/-- a required value was found under its key, and could be read -/
theorem required_eq_ok_iff {a : α} :
    node.required decode key context = .ok a ↔
      ∃ value, node.get? key = some value ∧ decode value = .ok a := by
  cases h : node.get? key with
  | none => simp [required_of_get?_none h]
  | some value => simp [required_of_get?_some h, decodeAt_eq_ok_iff]

end

end Node

end SignalScript
