import SignalScript.Proofs.Scenario.Trace
import SignalScript.Proofs.Scene.Lights

/-!
# Lights under operations

The intersections of a script stand on a fresh offline simulator. From outside, intersections are
changed, trees over the built-in conditions are evaluated, and time and speed move on. Whatever the
order of all this, the lights show the last change that reached them.

* `Operation`                  what is done from outside;
* `Operation.demands`          what an operation asks of the intersections;
* `Lit.evaluate`, `Lit.runAll` a tick of a tree, and any operations, keep a scene lit;
* `Operation.lights_show`      what the lights show after any operations.
-/

namespace SignalScript

open Offline (simulator)

/-- what is done with intersections and simulator from outside -/
inductive Operation where
  | change (light : Nat) (state : String)
  | evaluate (e : Expr (Procedure Builtin))
  | advance (dt : Duration)
  | setSpeed (speed : Float)

namespace Operation

/-- the world after an operation -/
def run : Operation → World Offline → World Offline
  | change light state, world => (world.changeTo simulator light state).2
  | evaluate e, world => (Run.evaluate (Builtin.condition simulator) e world).world
  | advance dt, world => { world with simulator := world.simulator.advance dt }
  | setSpeed speed, world => { world with simulator := world.simulator.setSpeed speed }

/-- what an operation asks of the intersections; a tree asks by the conditions that it updates -/
def demands : Operation → World Offline → List Demand
  | change light state, _ => [⟨light, state⟩]
  | evaluate e, world =>
    (Run.updatedIn (Builtin.condition simulator) e world).filterMap Builtin.demand?
  | advance _, _ => []
  | setSpeed _, _ => []

/-- the world after operations -/
def runAll : List Operation → World Offline → World Offline
  | [], world => world
  | operation :: rest, world => runAll rest (operation.run world)

/-- what operations ask of the intersections, in order -/
def demandsOf : List Operation → World Offline → List Demand
  | [], _ => []
  | operation :: rest, world => operation.demands world ++ demandsOf rest (operation.run world)

end Operation

/-! ## lit scenes -/

/-- the conditions that a world lists asked for states beyond the demands, and the scene is lit -/
def LitBeside (network : Network) (demands : List Demand)
    (world : World (Traced Builtin Offline)) : Prop :=
  Lit network (demands ++ world.simulator.updated.filterMap Builtin.demand?) world.untraced.scene

/-- a procedure asks for what its condition asks for, if it is configured -/
theorem LitBeside.call {network : Network} {demands : List Demand}
    {world : World (Traced Builtin Offline)} (h : LitBeside network demands world)
    (p : Procedure Builtin) :
    LitBeside network demands
      (Procedure.call (Builtin.condition simulator).traced p world).world := by
  obtain ⟨role, typeName, binding⟩ := p
  cases binding with
  | rejected c error => exact h
  | missing name => exact h
  | ready c =>
    have hdemands : (world.simulator.updated ++ [c]).filterMap Builtin.demand? =
        world.simulator.updated.filterMap Builtin.demand? ++ c.demand?.toList := by
      rw [List.filterMap_append, filterMap_cons_toList, List.filterMap_nil, List.append_nil]
    have hact := Lit.act h c
    rw [← Builtin.scene_answer, List.append_assoc, ← hdemands] at hact
    exact hact

namespace Lit

variable {network : Network} {demands : List Demand} {world : World Offline}

/-- **A tick of a tree** asks for what the conditions ask for that it updates, and keeps the scene
lit. -/
theorem evaluate (h : Lit network demands world.scene) (e : Expr (Procedure Builtin)) :
    Lit network
      (demands ++ (Run.updatedIn (Builtin.condition simulator) e world).filterMap Builtin.demand?)
      (Run.evaluate (Builtin.condition simulator) e world).world.scene := by
  have hstart : LitBeside network demands (world.traced []) := by
    show Lit network (demands ++ []) world.scene
    rw [List.append_nil]
    exact h
  have hcall : ∀ p (w : World (Traced Builtin Offline)), True → LitBeside network demands w →
      True ∧ LitBeside network demands
        (Procedure.call (Builtin.condition simulator).traced p w).world :=
    fun p _ _ hw => ⟨trivial, hw.call p⟩
  have hkept : LitBeside network demands
      (Run.evaluate (Builtin.condition simulator).traced e (world.traced [])).world :=
    (Expr.evaluate_keeps hcall (fun _ _ => trivial) hstart).2
  have hscene : (Run.evaluate (Builtin.condition simulator).traced e
        (world.traced [])).world.untraced.scene =
      (Run.evaluate (Builtin.condition simulator) e world).world.scene := by
    rw [Run.evaluate_traced]
    rfl
  rw [← hscene]
  exact hkept

theorem run (h : Lit network demands world.scene) (operation : Operation) :
    Lit network (demands ++ operation.demands world) (operation.run world).scene := by
  cases operation with
  | change light state =>
    show Lit network (demands ++ [⟨light, state⟩]) (world.changeTo simulator light state).2.scene
    rw [World.scene_changeTo]
    exact h.changeTo light state
  | evaluate e => exact h.evaluate e
  | advance dt =>
    rw [Operation.demands, List.append_nil]
    exact ⟨h.met, h.lights⟩
  | setSpeed speed =>
    rw [Operation.demands, List.append_nil]
    exact ⟨h.met, h.lights⟩

theorem runAll (h : Lit network demands world.scene) (operations : List Operation) :
    Lit network (demands ++ Operation.demandsOf operations world)
      (Operation.runAll operations world).scene := by
  induction operations generalizing demands world with
  | nil =>
    rw [Operation.demandsOf, List.append_nil]
    exact h
  | cons operation rest ih =>
    rw [Operation.demandsOf, ← List.append_assoc]
    exact ih (h.run operation)

/-- before any demand the scene of a fresh simulator is lit -/
theorem start (speed : Float) (journal : Array Record) (blocks : List Node) :
    Lit (Network.ofBlocks blocks).1 []
      (World.ofBlocks blocks ⟨Offline.start speed, journal⟩).scene :=
  ⟨rfl, fun _ => rfl⟩

end Lit

/-! ## any operations -/

namespace Operation

/-- the changes that operations bring about in the intersections of a script -/
def changesOf (operations : List Operation) (world : World Offline) : List Change :=
  world.network.changes (demandsOf operations world)

/-- **What the lights show.** Let intersections be built from any blocks on a fresh simulator, and
let any operations follow. A light is unset exactly if no intersection that controls it was
changed. Otherwise its colour and its arrow are those of the last change among the intersections
that control it. If no light belongs to two intersections, then every light of an intersection that
was changed shows the current state of the intersection that the look-up finds for it. -/
theorem lights_show (speed : Float) (journal : Array Record) (blocks : List Node)
    (operations : List Operation) :
    let world := World.ofBlocks blocks ⟨Offline.start speed, journal⟩
    let after := runAll operations world
    let changes := changesOf operations world
    (∀ id,
      (after.simulator.light? id = none ↔
        ∀ change ∈ changes, change.intersection.controls id = false) ∧
      ∀ change, (changes.filter (·.intersection.controls id)).getLast? = some change →
        after.simulator.light? id =
          some ⟨(change.intersection.state change.state).color,
            (change.intersection.state change.state).arrow⟩) ∧
    (world.network.Apart → ∀ change ∈ changes, ∀ id ∈ change.intersection.ids,
      ∃ i, after.network.find? id = some i ∧
        after.simulator.light? id =
          some ⟨(i.state i.current).color, (i.state i.current).arrow⟩) := by
  intro world after changes
  have hlit : Lit world.network (demandsOf operations world) after.scene :=
    (Lit.start speed journal blocks).runAll operations
  refine ⟨fun id => ⟨?_, fun change hlast => ?_⟩, fun hapart change hchange id hid => ?_⟩
  · have hlight : after.simulator.light? id = Change.shown? id changes := hlit.lights id
    rw [hlight]
    exact Change.shown?_eq_none_iff
  · have hlight : after.simulator.light? id = Change.shown? id changes := hlit.lights id
    rw [hlight, Change.shown?, hlast]
    rfl
  · exact hlit.light?_of_apart hapart hchange (List.contains_iff_mem.mpr hid)

/-- the lights 1 and 2, which can stop and go, and the light 3 by itself -/
def twoGroups : List Node :=
  [.mapping [(.text "TrafficLightId", .sequence [.number (.int 1), .number (.int 2)]),
      (.text "Control", .sequence [
        .mapping [(.text "StateName", .text "Stop"), (.text "Color", .text "Red")],
        .mapping [(.text "StateName", .text "Go"), (.text "Color", .text "Green"),
          (.text "Arrow", .text "Left")]])],
    .mapping [(.text "TrafficLightId", .sequence [.number (.int 3)]),
      (.text "Control", .sequence [])]]

/-- light 2 is stopped and some time later a tree lets light 1 go -/
def stopAndGo : List Operation :=
  [.change 2 "Stop", .advance (.ofSecs 1),
    .evaluate (.leaf ⟨.action, "TrafficLightState", .ready (.lightState ⟨"Go", .change, 1, "Go"⟩)⟩)]

theorem lights_show_twoGroups :
    let world := World.ofBlocks twoGroups ⟨Offline.start 0.0, #[]⟩
    let after := runAll stopAndGo world
    after.simulator.light? 3 = none ∧ after.simulator.light? 2 = some ⟨"Green", "Left"⟩ ∧
      world.network.Apart ∧
      ∀ change ∈ changesOf stopAndGo world, ∀ id ∈ change.intersection.ids,
        ∃ i, after.network.find? id = some i ∧
          after.simulator.light? id =
            some ⟨(i.state i.current).color, (i.state i.current).arrow⟩ := by
  intro world after
  obtain ⟨hlights, hcurrent⟩ := lights_show 0.0 #[] twoGroups stopAndGo
  have hapart : world.network.Apart := by decide
  have hnever : ∀ change ∈ changesOf stopAndGo world, change.intersection.controls 3 = false := by
    have hall : (changesOf stopAndGo world).all (!·.intersection.controls 3) = true := rfl
    simpa using hall
  obtain ⟨last, hlast, hgo⟩ : ∃ last,
      ((changesOf stopAndGo world).filter (·.intersection.controls 2)).getLast? = some last ∧
        last.light = ⟨"Green", "Left"⟩ := ⟨_, rfl, rfl⟩
  refine ⟨(hlights 3).1.mpr hnever, ?_, hapart, hcurrent hapart⟩
  rw [← hgo]
  exact (hlights 2).2 last hlast

end Operation

end SignalScript
