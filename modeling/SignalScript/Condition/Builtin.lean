import SignalScript.Condition.Basic
import SignalScript.Condition.Rule
import SignalScript.Intersection.Network

/-!
# The built-in conditions

* `Constant`     always true or always false;
* `Measurement`  a quantity reported by the simulator against a threshold;
* `LightState`   changes the state of an intersection, or checks it;
* `Builtin`      any of them, and `Builtin.condition` as a family of conditions.
-/

namespace SignalScript

/-! ## constants -/

/-- a condition with a fixed answer -/
structure Constant where
  result : Bool
  name : String

namespace Constant

def typeName (c : Constant) : String := if c.result then "AlwaysTrue" else "AlwaysFalse"

def start (result : Bool) : Constant := ⟨result, typeName ⟨result, ""⟩⟩

def configure (node : Node) (c : Constant) : Except ConfigurationError Unit × Constant :=
  match node.optional Node.asText "Name" c.name with
  | .ok name => (.ok (), { c with name })
  | .error error => (.error error, c)

end Constant

/-! ## measurements -/

/-- what a simulator can be asked for -/
inductive Quantity where
  | elapsedTime
  | travelDistance
  | speed
  deriving DecidableEq

namespace Quantity

def typeName : Quantity → String
  | .elapsedTime => "ElapsedTime"
  | .travelDistance => "TravelDistance"
  | .speed => "Speed"

/-- seconds, metres, or metres per second -/
def measure {S : Type} (sim : Simulator S) (s : S) : Quantity → Float
  | .elapsedTime => (sim.clock s).toSeconds
  | .travelDistance => sim.distance s
  | .speed => sim.speed s

end Quantity

/-- a quantity against a threshold; it measures only once it was configured without error -/
structure Measurement where
  quantity : Quantity
  name : String
  threshold : Float
  rule : Rule
  connected : Bool

namespace Measurement

def typeName (m : Measurement) : String := m.quantity.typeName

def start (quantity : Quantity) : Measurement :=
  ⟨quantity, quantity.typeName, 0.0, .greaterThan, false⟩

def configure (node : Node) (m : Measurement) : Except ConfigurationError Unit × Measurement :=
  match node.optional Node.asText "Name" m.name with
  | .error error => (.error error, m)
  | .ok name =>
    match node.required Node.asFloat "Value" m.typeName with
    | .error error => (.error error, { m with name })
    | .ok threshold =>
      match node.optional Rule.ofNode? "Rule" .greaterThan with
      | .error error => (.error error, { m with name, threshold })
      | .ok rule => (.ok (), { m with name, threshold, rule, connected := true })

/-- the line logged for a comparison -/
def line (m : Measurement) (measured : Float) (result : Bool) : String :=
  m.name ++ ": " ++ NumberStyle.plain.write measured ++ " " ++ m.rule.word ++ " " ++
    NumberStyle.plain.write m.threshold ++ " -> " ++ boolText result

def update {S : Type} (sim : Simulator S) (m : Measurement) (world : World S) : Bool × World S :=
  if m.connected then
    let measured := m.quantity.measure sim world.simulator
    let result := m.rule.compare measured m.threshold
    (result, world.note (.debug (m.line measured result)))
  else (false, world)

end Measurement

/-! ## light states -/

/-- change the state of an intersection, or check it -/
inductive Mode where
  | change
  | check
  deriving DecidableEq

/-- the state of the intersection that controls a light -/
structure LightState where
  name : String
  mode : Mode
  light : Nat
  state : String

namespace LightState

def typeName : String := "TrafficLightState"

def start : LightState := ⟨typeName, .check, 0, ""⟩

/-- where light and state are named: under `Params` if it is there, and then they are entered -/
def target (node : Node) : Mode × Node :=
  match node.get? "Params" with
  | some params => (.change, params)
  | none => (.check, node)

def configure (node : Node) (c : LightState) : Except ConfigurationError Unit × LightState :=
  match node.optional Node.asText "Name" c.name with
  | .error error => (.error error, c)
  | .ok name =>
    let (mode, place) := target node
    match place.required Node.asNatural "TrafficLightId" typeName with
    | .error error => (.error error, { c with name, mode })
    | .ok light =>
      match place.required Node.asText "StateName" typeName with
      | .error error => (.error error, { c with name, mode, light })
      | .ok state => (.ok (), { name, mode, light, state })

/-- a check changes nothing -/
def update {S : Type} (sim : Simulator S) (c : LightState) (world : World S) : Bool × World S :=
  match c.mode with
  | .change => world.changeTo sim c.light c.state
  | .check => ((world.network.find? c.light).any (·.current == c.state), world)

end LightState

/-! ## all of them -/

inductive Builtin where
  | constant (c : Constant)
  | measurement (m : Measurement)
  | lightState (c : LightState)

namespace Builtin

def typeName : Builtin → String
  | .constant c => c.typeName
  | .measurement m => m.typeName
  | .lightState _ => LightState.typeName

def name : Builtin → String
  | .constant c => c.name
  | .measurement m => m.name
  | .lightState c => c.name

def configure (node : Node) : Builtin → Except ConfigurationError Unit × Builtin
  | .constant c => let (result, after) := c.configure node; (result, .constant after)
  | .measurement m => let (result, after) := m.configure node; (result, .measurement after)
  | .lightState c => let (result, after) := c.configure node; (result, .lightState after)

/-- the answer for this tick; a built-in condition keeps its state -/
def answer {S : Type} (sim : Simulator S) : Builtin → World S → Bool × World S
  | .constant c, world => (c.result, world)
  | .measurement m, world => m.update sim world
  | .lightState c, world => c.update sim world

/-- the built-in conditions as a family -/
def condition {S : Type} (sim : Simulator S) : Condition Builtin (World S) where
  typeName := typeName
  name := name
  configure := configure
  update c world := ⟨(c.answer sim world).1, c, (c.answer sim world).2⟩

/-- one of each, in the order in which they are registered -/
def all : List Builtin :=
  [.constant (.start true), .constant (.start false), .measurement (.start .elapsedTime),
    .measurement (.start .travelDistance), .measurement (.start .speed), .lightState .start]

end Builtin

end SignalScript
