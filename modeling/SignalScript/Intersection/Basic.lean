import SignalScript.Intersection.Payload

/-!
# Intersections

An intersection is a group of traffic lights that changes its state as one. The states come from
the script; every other name stands for the state in which all lights are off.

* `Intersection.ofNode`    builds an intersection whatever the node is, and says what is wrong;
* `Intersection.state`     the payload of a state name;
* `Intersection.changeTo`  enters a state and commands every light.
-/

namespace SignalScript

/-- a list of numbers between brackets -/
def bracketed (ids : List Nat) : String := enclosed "[" "]" ", " (ids.map toString)

/-- a group of traffic lights; `states` holds one payload for each name, in script order -/
structure Intersection where
  ids : List Nat
  states : List Payload
  current : String
  errors : List ConfigurationError

namespace Intersection

def controls (id : Nat) (i : Intersection) : Bool := i.ids.contains id

/-- the payload that the script defines for a name -/
def defined? (name : String) (states : List Payload) : Option Payload :=
  states.find? (·.name == name)

def hasState (name : String) (i : Intersection) : Bool := (defined? name i.states).isSome

/-- the payload of a name, off when it is undefined -/
def state (name : String) (i : Intersection) : Payload := (defined? name i.states).getD .blank

/-! ## building -/

/-- the ids of a block, its error if they are missing, mistyped or none, and what is logged -/
def readIds (block : Node) : List Nat × List ConfigurationError × List Record :=
  match block.required Node.asNaturals "TrafficLightId" "Intersection" with
  | .ok [] => ([], [.invalidValue "TrafficLightId" .noLights], [])
  | .ok ids => (ids, [], [.info ("    TrafficLightId: " ++ bracketed ids)])
  | .error error => ([], [error], [])

/-- what the entries of a state list amount to -/
structure StateList where
  states : List Payload
  errors : List ConfigurationError
  log : List Record

/-- the states of a list of entries after those already known; the first of a name counts -/
def readStates : List Node → List Payload → StateList
  | [], known => ⟨known, [], []⟩
  | entry :: rest, known =>
    match Payload.ofNode? entry with
    | .ok payload =>
      let named := Record.info ("      - StateName: " ++ payload.name)
      if (defined? payload.name known).isSome then
        let others := readStates rest known
        let warning := Record.warn
          ("Duplicate StateName '" ++ payload.name ++ "' ignored, keeping the first")
        { others with log := named :: warning :: others.log }
      else
        let others := readStates rest (known ++ [payload])
        { others with log := named :: others.log }
    | .error error =>
      let others := readStates rest known
      { others with errors := error :: others.errors }

/-- the states of a block; they stand in a list without a tag -/
def readControl (block : Node) : StateList :=
  match block.get? "Control" with
  | some (.sequence entries) =>
    let list := readStates entries []
    { list with log := .info "    Control:" :: list.log }
  | some _ => ⟨[], [.invalidValue "Control" .noStateList], []⟩
  | none => ⟨[], [.missingKey "Control" "Intersection" block], []⟩

/-- an intersection, and what is logged while it is built; every error is logged at the end -/
def ofNode (block : Node) : Intersection × List Record :=
  let (ids, idErrors, idLog) := readIds block
  let control := readControl block
  let errors := idErrors ++ control.errors
  ({ ids, states := control.states, current := blank, errors },
    idLog ++ control.log ++ errors.map fun error => .error error.message)

/-! ## changing -/

/-- the line logged when a state is entered -/
def changeLine (i : Intersection) (name : String) : String :=
  let payload := i.state name
  "Intersection " ++ bracketed i.ids ++ " -> " ++ name ++ " (Color: " ++ payload.color ++
    ", Arrow: " ++ payload.arrow ++ ")"

/-- colour and arrow of every light, in the order of the ids -/
def changeCommands (i : Intersection) (name : String) : List Command :=
  i.ids.flatMap (i.state name).commands

/-- enter a state and command every light; true if every command was accepted -/
def changeTo {S : Type} (sim : Simulator S) (name : String) (i : Intersection) (stage : Stage S) :
    Bool × Intersection × Stage S :=
  let sent := Stage.sendAll sim (i.changeCommands name) (stage.note (.info (i.changeLine name)))
  let after :=
    if sent.1 then sent.2
    else sent.2.note
      (.warn ("Simulator rejected state '" ++ name ++ "' for " ++ bracketed i.ids))
  (sent.1, { i with current := name }, after)

/-- states are changed from outside only, so a group never finishes by itself -/
def update (_ : Intersection) : Status := .ongoing

end Intersection

end SignalScript
