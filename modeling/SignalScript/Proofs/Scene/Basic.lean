import SignalScript.Intersection.Network

/-!
# The scene

The world is a scene and a log: the scene is the simulator with the intersections. What is done in
the world depends on the scene alone, however much was logged before.

* `Simulator.perform`     the simulator after a list of commands, and whether all were accepted;
* `Network.enter`         the first intersection that controls a light enters a state;
* `Scene.changeTo`        a change of the intersection that controls a light;
* `World.changeTo_scene`  a change in the world is the change of its scene.
-/

namespace SignalScript

variable {S : Type}

/-- the simulator and the intersections -/
structure Scene (S : Type) where
  simulator : S
  network : Network

/-! ## commands without a log -/

namespace Simulator

/-- the simulator after the commands; true if every one was accepted -/
def perform (sim : Simulator S) : List Command → S → Bool × S
  | [], s => (true, s)
  | command :: rest, s =>
    ((sim.command command s).accepted && (sim.perform rest (sim.command command s).state).1,
      (sim.perform rest (sim.command command s).state).2)

theorem perform_cons (sim : Simulator S) (command : Command) (rest : List Command) (s : S) :
    sim.perform (command :: rest) s =
      ((sim.command command s).accepted && (sim.perform rest (sim.command command s).state).1,
        (sim.perform rest (sim.command command s).state).2) := rfl

end Simulator

theorem Stage.sendAll_perform (sim : Simulator S) (commands : List Command) (stage : Stage S) :
    ((stage.sendAll sim commands).1, (stage.sendAll sim commands).2.simulator) =
      sim.perform commands stage.simulator := by
  induction commands generalizing stage with
  | nil => rfl
  | cons command rest ih =>
    have h := ih (stage.send sim command).2
    rw [Simulator.perform_cons]
    show ((stage.send sim command).1 && (sendAll sim rest (stage.send sim command).2).1,
      (sendAll sim rest (stage.send sim command).2).2.simulator) = _
    obtain ⟨haccepted, hsimulator⟩ := Prod.mk.inj h
    rw [haccepted, hsimulator]
    rfl

theorem Intersection.changeTo_perform (sim : Simulator S) (name : String) (i : Intersection)
    (stage : Stage S) :
    ((i.changeTo sim name stage).1, (i.changeTo sim name stage).2.2.simulator) =
      sim.perform (i.changeCommands name) stage.simulator := by
  have h := Stage.sendAll_perform sim (i.changeCommands name)
    (stage.note (.info (i.changeLine name)))
  rw [Stage.note_simulator] at h
  rw [← h]
  unfold Intersection.changeTo
  by_cases hsent : (Stage.sendAll sim (i.changeCommands name)
      (stage.note (.info (i.changeLine name)))).1
  · simp only [hsent, if_true]
  · simp only [hsent, Bool.false_eq_true, if_false, Stage.note_simulator]

/-! ## changes of the network -/

/-- the first intersection that controls the light enters the state -/
def Network.enter (id : Nat) (name : String) : Network → Network
  | [] => []
  | i :: rest =>
    if i.controls id then { i with current := name } :: rest else i :: enter id name rest

theorem Network.enter_cons_of_controls {id : Nat} {i : Intersection} (h : i.controls id = true)
    (name : String) (rest : Network) :
    enter id name (i :: rest) = { i with current := name } :: rest := by
  rw [enter, if_pos h]

theorem Network.enter_cons_of_not_controls {id : Nat} {i : Intersection}
    (h : i.controls id = false) (name : String) (rest : Network) :
    enter id name (i :: rest) = i :: enter id name rest := by
  rw [enter, if_neg (by simp [h])]

/-- a change is made by the intersection that the look-up finds, if there is one -/
theorem Network.changeTo?_perform (sim : Simulator S) (id : Nat) (name : String)
    (network : Network) (stage : Stage S) :
    ((network.changeTo? sim id name stage).map fun result =>
        (result.1, result.2.1, result.2.2.simulator)) =
      (network.find? id).map fun i =>
        ((sim.perform (i.changeCommands name) stage.simulator).1, network.enter id name,
          (sim.perform (i.changeCommands name) stage.simulator).2) := by
  induction network with
  | nil => rfl
  | cons i rest ih =>
    cases hi : i.controls id with
    | true =>
      rw [changeTo?_cons_of_controls hi, find?_cons_of_controls hi, enter_cons_of_controls hi,
        Option.map_some, Option.map_some, ← Intersection.changeTo_perform]
      rfl
    | false =>
      rw [changeTo?_cons_of_not_controls hi, find?_cons_of_not_controls hi,
        enter_cons_of_not_controls hi, Option.map_map]
      have h := congrArg (Option.map fun r => (r.1, i :: r.2.1, r.2.2)) ih
      rw [Option.map_map, Option.map_map] at h
      exact h

/-! ## the scene of a world -/

namespace Scene

/-- change the state of the intersection that controls a light; false if there is none -/
def changeTo (sim : Simulator S) (id : Nat) (name : String) (scene : Scene S) : Bool × Scene S :=
  match scene.network.find? id with
  | some i =>
    ((sim.perform (i.changeCommands name) scene.simulator).1,
      ⟨(sim.perform (i.changeCommands name) scene.simulator).2, scene.network.enter id name⟩)
  | none => (false, scene)

section
variable {id : Nat} {scene : Scene S}

theorem changeTo_of_some {i : Intersection} (h : scene.network.find? id = some i)
    (sim : Simulator S) (name : String) :
    scene.changeTo sim id name =
      ((sim.perform (i.changeCommands name) scene.simulator).1,
        ⟨(sim.perform (i.changeCommands name) scene.simulator).2,
          scene.network.enter id name⟩) := by
  rw [changeTo, h]

theorem changeTo_of_none (h : scene.network.find? id = none) (sim : Simulator S) (name : String) :
    scene.changeTo sim id name = (false, scene) := by
  rw [changeTo, h]

end

end Scene

namespace World

/-- what there is besides the log -/
def scene (world : World S) : Scene S := ⟨world.simulator, world.network⟩

theorem scene_note (world : World S) (record : Record) : (world.note record).scene = world.scene :=
  rfl

/-- the log has no say in a change -/
theorem changeTo_scene (sim : Simulator S) (id : Nat) (name : String) (world : World S) :
    ((world.changeTo sim id name).1, (world.changeTo sim id name).2.scene) =
      world.scene.changeTo sim id name := by
  have h := Network.changeTo?_perform sim id name world.network world.toStage
  unfold changeTo changeTo?
  cases hi : world.network.find? id with
  | some i =>
    rw [hi, Option.map_some] at h
    obtain ⟨⟨accepted, network, stage⟩, hresult, heq⟩ := Option.map_eq_some_iff.mp h
    simp only [Prod.mk.injEq] at heq
    obtain ⟨haccepted, hnetwork, hsimulator⟩ := heq
    have hscene : world.scene.network.find? id = some i := hi
    rw [hresult, Scene.changeTo_of_some hscene]
    show (accepted, (⟨stage.simulator, network⟩ : Scene S)) = _
    rw [haccepted, hnetwork, hsimulator]
    rfl
  | none =>
    rw [hi, Option.map_none, Option.map_eq_none_iff] at h
    have hscene : world.scene.network.find? id = none := hi
    rw [h, Scene.changeTo_of_none hscene]
    rfl

theorem scene_changeTo (sim : Simulator S) (id : Nat) (name : String) (world : World S) :
    (world.changeTo sim id name).2.scene = (world.scene.changeTo sim id name).2 :=
  congrArg Prod.snd (changeTo_scene sim id name world)

end World

end SignalScript
