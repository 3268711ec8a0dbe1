import SignalScript.Simulation.Basic

/-!
# The offline simulator

A stand-in for dry runs: time moves only when it is told to, the vehicle keeps its speed, and
every light shows the last colour and the last arrow it was given.

* `Offline.advance`   moves the clock and the distance;
* `Offline.light?`    what a light shows, if anything was ever applied to it;
* `Offline.apply`     applies a command; it is always accepted;
* `Offline.simulator` the stand-in as a simulator.
-/

namespace SignalScript

/-- what a traffic light shows -/
structure Light where
  color : String := blank
  arrow : String := blank
  deriving DecidableEq

namespace Light

/-- the light with one aspect replaced -/
def set (light : Light) : Aspect → String → Light
  | .color, value => { light with color := value }
  | .arrow, value => { light with arrow := value }

end Light

structure Offline where
  clock : Duration := .zero
  distance : Float := 0.0
  speed : Float := 0.0
  lights : List (Nat × Light) := []

namespace Offline

/-- a fresh simulator whose vehicle has a speed -/
def start (speed : Float) : Offline := { speed }

/-- move the clock on and add up the distance -/
def advance (dt : Duration) (sim : Offline) : Offline :=
  { sim with
    clock := sim.clock.add dt
    distance := sim.distance + sim.speed * dt.toSeconds }

def setSpeed (speed : Float) (sim : Offline) : Offline := { sim with speed }

/-- what a light shows, if anything was ever applied to it -/
def light? (id : Nat) (sim : Offline) : Option Light := sim.lights.lookup id

/-- change the light of an id, or a dark one if it was never set -/
def updateLight (id : Nat) (change : Light → Light) : List (Nat × Light) → List (Nat × Light)
  | [] => [(id, change {})]
  | (each, light) :: rest =>
    if each = id then (each, change light) :: rest
    else (each, light) :: updateLight id change rest

def apply (command : Command) (sim : Offline) : Offline :=
  { sim with
    lights := updateLight command.light (·.set command.aspect command.value) sim.lights }

/-- the line logged for a command -/
def line : Command → String
  | ⟨.color, id, value⟩ => "Traffic light " ++ toString id ++ " color -> " ++ value
  | ⟨.arrow, id, value⟩ => "Traffic light " ++ toString id ++ " arrow -> " ++ value

/-- every command is accepted and logged -/
def simulator : Simulator Offline where
  command c sim := ⟨true, sim.apply c, [.info (line c)]⟩
  clock := clock
  distance := distance
  speed := speed

/-! ## what a change does to a look-up -/

theorem lookup_updateLight_self (id : Nat) (change : Light → Light) (lights : List (Nat × Light)) :
    (updateLight id change lights).lookup id = some (change ((lights.lookup id).getD {})) := by
  induction lights with
  | nil => simp [updateLight]
  | cons entry rest ih =>
    obtain ⟨each, light⟩ := entry
    by_cases h : each = id
    · simp [updateLight, h]
    · have h' : (id == each) = false := by simp [Ne.symm h]
      simp [updateLight, h, List.lookup_cons, h', ih]

theorem lookup_updateLight_ne {id other : Nat} (hne : other ≠ id) (change : Light → Light)
    (lights : List (Nat × Light)) :
    (updateLight id change lights).lookup other = lights.lookup other := by
  induction lights with
  | nil => simp [updateLight, hne]
  | cons entry rest ih =>
    obtain ⟨each, light⟩ := entry
    by_cases h : each = id
    · subst h
      have h' : (other == each) = false := by simp [hne]
      simp [updateLight, List.lookup_cons, h']
    · simp [updateLight, h, List.lookup_cons, ih]

end Offline

end SignalScript
