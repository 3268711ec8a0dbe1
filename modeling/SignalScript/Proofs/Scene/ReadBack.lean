import SignalScript.Proofs.Scene.Builtin
import SignalScript.Proofs.Scene.Demand
import SignalScript.Simulation.Offline
import SignalScript.Simulation.Recorder

/-!
# Light states read back

Light states that are entered and light states that are checked may be updated in any order. What a
check answers depends on the last one that was entered at the same intersection, whatever the
simulator made of its commands.

* `LightState.demands`           what some light states ask of the network;
* `LightState.updateAll`         light states updated one after the other;
* `LightState.check_iff`         when a check is true in a network that has met demands;
* `LightState.check_reads_back`  a check reads the last state entered at its intersection.
-/

namespace SignalScript

variable {S : Type}

namespace LightState

/-- a light state that is entered asks for it; a check asks for nothing -/
def demand? (c : LightState) : Option Demand :=
  match c.mode with
  | .change => some ⟨c.light, c.state⟩
  | .check => none

/-- what light states ask of the network, in order -/
def demands (steps : List LightState) : List Demand := steps.filterMap demand?

theorem demand?_of_change {c : LightState} (h : c.mode = .change) :
    c.demand? = some ⟨c.light, c.state⟩ := by
  simp only [demand?, h]

theorem demand?_of_check {c : LightState} (h : c.mode = .check) : c.demand? = none := by
  simp only [demand?, h]

theorem demands_append (first second : List LightState) :
    demands (first ++ second) = demands first ++ demands second := List.filterMap_append

/-- the world after light states, updated one after the other -/
def updateAll (sim : Simulator S) (steps : List LightState) (world : World S) : World S :=
  steps.foldl (fun world c => (c.update sim world).2) world

theorem updateAll_append (sim : Simulator S) (first second : List LightState) (world : World S) :
    updateAll sim (first ++ second) world = updateAll sim second (updateAll sim first world) :=
  List.foldl_append

/-- what a light state answers after others were updated -/
def answerAfter (sim : Simulator S) (steps : List LightState) (world : World S)
    (c : LightState) : Bool :=
  (c.update sim (updateAll sim steps world)).1

/-! ## the network -/

theorem update_network (sim : Simulator S) (c : LightState) (world : World S) :
    (c.update sim world).2.network = world.network.meet c.demand?.toList := by
  cases hmode : c.mode with
  | change =>
    rw [demand?_of_change hmode, update, hmode]
    exact World.changeTo_network sim c.light c.state world
  | check =>
    rw [demand?_of_check hmode, update, hmode]
    rfl

theorem updateAll_network (sim : Simulator S) (steps : List LightState) (world : World S) :
    (updateAll sim steps world).network = world.network.meet (demands steps) := by
  induction steps generalizing world with
  | nil => rfl
  | cons c steps ih =>
    have hdemands : demands (c :: steps) = c.demand?.toList ++ demands steps :=
      filterMap_cons_toList demand? c steps
    rw [hdemands, Network.meet_append, ← update_network]
    exact ih (c.update sim world).2

/-! ## checks -/

theorem answer_of_check (sim : Simulator S) {c : LightState} (h : c.mode = .check)
    (world : World S) :
    (c.update sim world).1 = (world.network.find? c.light).any (·.current == c.state) := by
  rw [update, h]

/-- **When a check is true**: its light has a place, and either the last demand for the place was
for exactly its state, or there was none and it checks for the state that lights start in. -/
theorem check_iff (sim : Simulator S) {c : LightState} (h : c.mode = .check) {network : Network}
    (hblank : ∀ i ∈ network, i.current = blank) {demands : List Demand} {world : World S}
    (hworld : world.network = network.meet demands) :
    (c.update sim world).1 = true ↔
      ∃ p, network.place? c.light = some p ∧
        ((∃ last, (network.demandsAt p demands).getLast? = some last ∧ last.state = c.state) ∨
          ((network.demandsAt p demands).getLast? = none ∧ c.state = blank)) := by
  rw [answer_of_check sim h, hworld, Network.find?_eq_place?, Network.place?_meet]
  cases hp : network.place? c.light with
  | none => simp
  | some p =>
    obtain ⟨i, hi, _⟩ := Network.exists_of_place? hp
    have hcurrent : i.current = blank := hblank i (List.mem_of_getElem? hi)
    rw [Option.bind_some, Network.getElem?_meet, hi]
    simp only [Option.some.injEq, exists_eq_left']
    generalize (network.demandsAt p demands).getLast? = last?
    cases last? with
    | none =>
      have hstart : blank = c.state ↔ c.state = blank := eq_comm
      simp [hcurrent, hstart]
    | some last => simp

/-! ## light states that no intersection controls -/

section
variable {c : LightState} {world : World S}

theorem update_of_stray (sim : Simulator S) (h : c.mode = .change)
    (hstray : world.network.find? c.light = none) :
    (c.update sim world).1 = false ∧ (c.update sim world).2.scene = world.scene := by
  have hact := update_scene sim c world
  have hscene : world.scene.network.find? c.light = none := hstray
  rw [act, h] at hact
  exact Prod.mk.inj (hact.trans (Scene.changeTo_of_none hscene sim c.state))

/-- without it, every later check finds the same network -/
theorem updateAll_of_stray (sim : Simulator S) (h : c.mode = .change)
    (hstray : world.network.find? c.light = none) (before later : List LightState) :
    (updateAll sim (before ++ c :: later) world).network =
      (updateAll sim (before ++ later) world).network := by
  have hdemands : demands (before ++ c :: later) =
      demands before ++ ⟨c.light, c.state⟩ :: demands later := by
    rw [demands_append, demands, demands, List.filterMap_cons_some (demand?_of_change h)]
    rfl
  rw [updateAll_network, updateAll_network, hdemands, demands_append, Network.meet_append,
    Network.meet_append, Network.meet_cons,
    Network.enter_of_find?_none (Network.find?_meet_none hstray (demands before))]

end

/-! ## any run of light states -/

/-- **A check reads the last state entered at its intersection.** Let the intersections be those of
any blocks, the simulator be any, with any commands refused, and let any light states have been
updated. A check is true exactly if an intersection controls its light and either the last state
entered at that intersection was the one it checks for, or none was entered there and it checks for
`Blank`. A light state that is entered for a light that no intersection controls answers false,
sends nothing and changes the answer of no later check. -/
theorem check_reads_back (sim : Simulator S) (refuses : Command → Bool) (blocks : List Node)
    (stage : Stage (Recorder S)) (before : List LightState) (c : LightState) :
    (c.mode = .check →
      (c.answerAfter (sim.recorded refuses) before (World.ofBlocks blocks stage) = true ↔
        ∃ p, (Network.ofBlocks blocks).1.place? c.light = some p ∧
          ((∃ last, ((Network.ofBlocks blocks).1.demandsAt p (demands before)).getLast? =
              some last ∧ last.state = c.state) ∨
            (((Network.ofBlocks blocks).1.demandsAt p (demands before)).getLast? = none ∧
              c.state = "Blank")))) ∧
    (c.mode = .change → (Network.ofBlocks blocks).1.find? c.light = none →
      c.answerAfter (sim.recorded refuses) before (World.ofBlocks blocks stage) = false ∧
      (updateAll (sim.recorded refuses) (before ++ [c])
          (World.ofBlocks blocks stage)).simulator.sent =
        (updateAll (sim.recorded refuses) before (World.ofBlocks blocks stage)).simulator.sent ∧
      ∀ (later : List LightState) (check : LightState), check.mode = .check →
        check.answerAfter (sim.recorded refuses) (before ++ c :: later)
            (World.ofBlocks blocks stage) =
          check.answerAfter (sim.recorded refuses) (before ++ later)
            (World.ofBlocks blocks stage)) := by
  refine ⟨fun hcheck => ?_, fun hchange hstray => ?_⟩
  · exact check_iff _ hcheck (Network.current_ofBlocks blocks) (updateAll_network _ before _)
  · have hworld : (World.ofBlocks blocks stage).network.find? c.light = none := hstray
    have hnowhere : (updateAll (sim.recorded refuses) before
        (World.ofBlocks blocks stage)).network.find? c.light = none := by
      rw [updateAll_network]
      exact Network.find?_meet_none hworld (demands before)
    obtain ⟨hanswer, hscene⟩ := update_of_stray (sim.recorded refuses) hchange hnowhere
    refine ⟨hanswer, ?_, fun later check hcheck => ?_⟩
    · rw [updateAll_append]
      exact congrArg (fun scene => scene.simulator.sent) hscene
    · have hnetwork := updateAll_of_stray (sim.recorded refuses) hchange hworld before later
      rw [answerAfter, answerAfter, answer_of_check _ hcheck, answer_of_check _ hcheck, hnetwork]

/-! ## two groups that share a light -/

/-- the lights 1 and 2, and the lights 2 and 3; only the first two can be green -/
def sharedLight : List Node :=
  [.mapping [(.text "TrafficLightId", .sequence [.number (.int 1), .number (.int 2)]),
      (.text "Control", .sequence [
        .mapping [(.text "StateName", .text "Go"), (.text "Color", .text "Green")]])],
    .mapping [(.text "TrafficLightId", .sequence [.number (.int 2), .number (.int 3)]),
      (.text "Control", .sequence [])]]

/-- light 3 is stopped, then light 2 goes, which is the first group's; no arrow can be set -/
theorem check_reads_back_sharedLight :
    let sim := Offline.simulator.recorded fun c => c.aspect = .arrow
    let world := World.ofBlocks sharedLight ⟨⟨Offline.start 0, []⟩, #[]⟩
    let stop : LightState := ⟨"Stop", .change, 3, "Stop"⟩
    let go : LightState := ⟨"Go", .change, 2, "Go"⟩
    let stray : LightState := ⟨"Stray", .change, 9, "Go"⟩
    let check : LightState := ⟨"Check", .check, 1, "Go"⟩
    check.answerAfter sim [stop, go] world = true ∧
      check.answerAfter sim [stop, go, stray] world = true ∧
      stray.answerAfter sim [stop, go] world = false := by
  intro sim world stop go stray check
  have hplace : (Network.ofBlocks sharedLight).1.place? 1 = some 0 := by decide
  have hlast : ((Network.ofBlocks sharedLight).1.demandsAt 0 (demands [stop, go])).getLast? =
      some ⟨2, "Go"⟩ := by decide
  have hstray : (Network.ofBlocks sharedLight).1.find? 9 = none := by rfl
  have hcheck : check.answerAfter sim [stop, go] world = true :=
    ((check_reads_back Offline.simulator _ sharedLight _ [stop, go] check).1 rfl).mpr
      ⟨0, hplace, .inl ⟨⟨2, "Go"⟩, hlast, rfl⟩⟩
  obtain ⟨hfalse, _, hlater⟩ :=
    (check_reads_back Offline.simulator _ sharedLight _ [stop, go] stray).2 rfl hstray
  exact ⟨hcheck, (hlater [] check rfl).trans hcheck, hfalse⟩

end LightState

end SignalScript
