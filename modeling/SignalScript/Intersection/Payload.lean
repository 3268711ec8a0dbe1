import SignalScript.Config.Field
import SignalScript.Simulation.Basic

/-!
# What the lights of an intersection show in a state

A `Control` entry of the script names a state, and perhaps a colour and an arrow. Its other keys
are kept as they were written.

* `Payload`          a named state with its colour, its arrow and the whole entry;
* `Payload.blank`    both aspects off, for every name that the script does not define;
* `Payload.ofNode?`  reads an entry.
-/

namespace SignalScript

/-- a named state: its colour, its arrow and the script entry it was read from -/
structure Payload where
  name : String
  color : String
  arrow : String
  raw : Node

namespace Payload

/-- both aspects are off -/
def blank : Payload := ⟨SignalScript.blank, SignalScript.blank, SignalScript.blank, .null⟩

/-- the fields of an entry that were met so far -/
structure Fields where
  name : Option String := none
  color : Option String := none
  arrow : Option String := none

/-- a field is met at most once and is a text -/
def readField (name : String) (seen : Option String) (value : Node) : Except Mismatch String :=
  match seen with
  | some _ => .error (.repeatedField name)
  | none => value.asText

/-- the fields of the entries of a mapping, in order; every key has to be a text, and the values
of unknown keys are passed over -/
def readFields : List (Node × Node) → Fields → Except Mismatch Fields
  | [], fields => .ok fields
  | (key, value) :: rest, fields =>
    match key.untag with
    | .text "StateName" =>
      match readField "StateName" fields.name value with
      | .ok name => readFields rest { fields with name := some name }
      | .error reason => .error reason
    | .text "Color" =>
      match readField "Color" fields.color value with
      | .ok color => readFields rest { fields with color := some color }
      | .error reason => .error reason
    | .text "Arrow" =>
      match readField "Arrow" fields.arrow value with
      | .ok arrow => readFields rest { fields with arrow := some arrow }
      | .error reason => .error reason
    | .text _ => readFields rest fields
    | other => .error (.kind other "field identifier")

/-- a `Control` entry; what it does not say about its lights is off -/
def ofNode? (node : Node) : Except ConfigurationError Payload :=
  match node.get? "StateName", node.untag with
  | some _, .mapping entries =>
    match readFields entries {} with
    | .ok fields =>
      .ok ⟨fields.name.getD "", fields.color.getD SignalScript.blank,
        fields.arrow.getD SignalScript.blank, node⟩
    | .error reason => .error (.invalidValue "Control" reason)
  | _, _ => .error (.missingKey "StateName" "Control" node)

/-- the commands that make one light show the payload -/
def commands (payload : Payload) (id : Nat) : List Command :=
  [⟨.color, id, payload.color⟩, ⟨.arrow, id, payload.arrow⟩]

end Payload

end SignalScript
