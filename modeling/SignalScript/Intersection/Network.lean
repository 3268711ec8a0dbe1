import SignalScript.Intersection.Basic

/-!
# The intersections of a scenario

* `Network`           the intersections, in the order in which they were added;
* `Network.find?`     the first intersection that controls a light;
* `Network.ofBlocks`  builds one intersection for each block of the script;
* `World`             the network with the simulator and the log;
* `World.changeTo`    changes the state of the intersection that controls a light.
-/

namespace SignalScript

abbrev Network := List Intersection

namespace Network

def find? (id : Nat) (network : Network) : Option Intersection :=
  List.find? (·.controls id) network

/-- one warning for each id of the new intersection that is already controlled -/
def overlapWarnings (network : Network) (ids : List Nat) : List Record :=
  (ids.filter fun id => (network.find? id).isSome).map fun id =>
    .warn ("Traffic light " ++ toString id ++
      " is already controlled by another intersection; lookups resolve to the first")

/-- a new intersection comes last -/
def add (network : Network) (i : Intersection) : Network × List Record :=
  (network ++ [i], network.overlapWarnings i.ids)

/-- add one intersection for each block, numbering the blocks from `index` -/
def addBlocks (network : Network) : List Node → Nat → Network × List Record
  | [], _ => (network, [])
  | block :: rest, index =>
    let (i, built) := Intersection.ofNode block
    let (larger, warnings) := network.add i
    let (all, others) := addBlocks larger rest (index + 1)
    (all, .info ("  Intersection[" ++ toString index ++ "]:") :: built ++ warnings ++ others)

def ofBlocks (blocks : List Node) : Network × List Record := addBlocks [] blocks 0

/-- every configuration error, intersection by intersection -/
def errors (network : Network) : List ConfigurationError := network.flatMap (·.errors)

/-- the first verdict that is final -/
def update (network : Network) : Status :=
  ((network.map (·.update)).find? (·.isTerminal)).getD .ongoing

/-- no intersection ever finishes by itself, so neither does the network -/
theorem update_eq_ongoing (network : Network) : network.update = .ongoing := by
  have hnone : (network.map (·.update)).find? (·.isTerminal) = none := by
    rw [List.find?_eq_none]
    intro status hstatus
    obtain ⟨i, _, rfl⟩ := List.mem_map.1 hstatus
    exact Bool.false_ne_true
  rw [update, hnone]
  rfl

variable {S : Type}

/-- change the state of the first intersection that controls a light, if there is one -/
def changeTo? (sim : Simulator S) (id : Nat) (name : String) :
    Network → Stage S → Option (Bool × Network × Stage S)
  | [], _ => none
  | i :: rest, stage =>
    if i.controls id then
      let (applied, changed, after) := i.changeTo sim name stage
      some (applied, changed :: rest, after)
    else
      (changeTo? sim id name rest stage).map fun (applied, others, after) =>
        (applied, i :: others, after)

/-! ### the first intersection decides, or is passed over -/

section
variable {id : Nat} {i : Intersection}

theorem find?_cons_of_controls (h : i.controls id = true) (rest : Network) :
    find? id (i :: rest) = some i := List.find?_cons_of_pos h

theorem find?_cons_of_not_controls (h : i.controls id = false) (rest : Network) :
    find? id (i :: rest) = find? id rest := List.find?_cons_of_neg (by simp [h])

theorem changeTo?_cons_of_controls (h : i.controls id = true) (sim : Simulator S) (name : String)
    (rest : Network) (stage : Stage S) :
    changeTo? sim id name (i :: rest) stage =
      some ((i.changeTo sim name stage).1, (i.changeTo sim name stage).2.1 :: rest,
        (i.changeTo sim name stage).2.2) := by
  rw [changeTo?, if_pos h]

theorem changeTo?_cons_of_not_controls (h : i.controls id = false) (sim : Simulator S)
    (name : String) (rest : Network) (stage : Stage S) :
    changeTo? sim id name (i :: rest) stage =
      (changeTo? sim id name rest stage).map fun result =>
        (result.1, i :: result.2.1, result.2.2) := by
  rw [changeTo?, if_neg (by simp [h])]

end

end Network

/-- the network with the simulator and the log -/
structure World (S : Type) extends Stage S where
  network : Network

namespace World

variable {S : Type}

/-- write records into the log, in order -/
def noteAll (world : World S) (records : List Record) : World S :=
  { world with toStage := world.toStage.noteAll records }

def note (world : World S) (record : Record) : World S :=
  { world with toStage := world.toStage.note record }

/-- build an intersection and add it -/
def add (world : World S) (block : Node) : World S :=
  let (i, built) := Intersection.ofNode block
  let (network, warnings) := world.network.add i
  { world.noteAll (built ++ warnings) with network }

/-- change the state of the intersection that controls a light, if there is one -/
def changeTo? (sim : Simulator S) (id : Nat) (name : String) (world : World S) :
    Option (Bool × World S) :=
  (world.network.changeTo? sim id name world.toStage).map fun (applied, network, stage) =>
    (applied, ⟨stage, network⟩)

/-- change the state of the intersection that controls a light; false if there is none -/
def changeTo (sim : Simulator S) (id : Nat) (name : String) (world : World S) : Bool × World S :=
  match world.changeTo? sim id name with
  | some result => result
  | none => (false, world.note (.warn ("No intersection controls traffic light " ++ toString id)))

end World

end SignalScript
