import SignalScript.Proofs.Expr.Sequence
import SignalScript.Proofs.Scene.Lights
import SignalScript.Proofs.Scene.Predicate

/-!
# Only actions act

A tick of a tree over the built-in conditions changes the scene by the demands of its actions and
by nothing else. An action demands what stands under `Params` of its node, so one can read off the
script which intersections can change, and to which states.

* `Scene.changeAll`        a scene after demands, one after the other;
* `Scene.Framed`           what demands can change in a scene, and what they leave alone;
* `Node.Asks`              an action in a script node names a light and a state;
* `Expr.worldAfter`        the world after ticks in a row;
* `Expr.only_actions_act`  ticks change only what the actions of a tree name.
-/

namespace SignalScript

variable {S : Type}

/-! ## commands -/

namespace Simulator

theorem perform_append (sim : Simulator S) (first second : List Command) (s : S) :
    (sim.perform (first ++ second) s).2 = (sim.perform second (sim.perform first s).2).2 := by
  induction first generalizing s with
  | nil => rfl
  | cons command first ih =>
    rw [List.cons_append, perform_cons, perform_cons]
    exact ih _

/-- `log` lists the commands that were sent to the simulator, accepted or not -/
def Logs (sim : Simulator S) (log : S → List Command) : Prop :=
  ∀ command s, log (sim.command command s).state = log s ++ [command]

theorem Logs.perform {sim : Simulator S} {log : S → List Command} (h : sim.Logs log)
    (commands : List Command) (s : S) :
    log (sim.perform commands s).2 = log s ++ commands := by
  induction commands generalizing s with
  | nil => exact (List.append_nil _).symm
  | cons command rest ih =>
    rw [perform_cons]
    show log (sim.perform rest _).2 = _
    rw [ih, h, List.append_assoc]
    rfl

/-- a command reaches the lights only: it moves neither the clock nor the vehicle -/
structure LightsOnly (sim : Simulator S) : Prop where
  clock : ∀ command s, sim.clock (sim.command command s).state = sim.clock s
  distance : ∀ command s, sim.distance (sim.command command s).state = sim.distance s
  speed : ∀ command s, sim.speed (sim.command command s).state = sim.speed s

/-- what no command changes, commands in a row do not change -/
theorem perform_keeps {sim : Simulator S} {α : Type} {f : S → α}
    (h : ∀ command s, f (sim.command command s).state = f s) (commands : List Command) (s : S) :
    f (sim.perform commands s).2 = f s := by
  induction commands generalizing s with
  | nil => rfl
  | cons command rest ih =>
    rw [perform_cons, ← h command s]
    exact ih _

end Simulator

/-! ## demands on a scene -/

namespace Network

theorem length_meet (network : Network) (demands : List Demand) :
    (network.meet demands).length = network.length := by
  have hnone : ∀ p : Nat, (network.meet demands)[p]? = none ↔ network[p]? = none := by
    intro p
    rw [getElem?_meet, Option.map_eq_none_iff]
  have hlength := hnone network.length
  have hlength' := hnone (network.meet demands).length
  simp only [List.getElem?_eq_none_iff] at hlength hlength'
  omega

/-- what is sent when a demand is met: the commands of the intersection that controls the light -/
def commands (network : Network) (demand : Demand) : List Command :=
  match network.find? demand.light with
  | some i => i.changeCommands demand.state
  | none => []

/-- the commands of an intersection do not depend on the state that it is in -/
theorem commands_enter (network : Network) (id : Nat) (name : String) (demand : Demand) :
    (network.enter id name).commands demand = network.commands demand := by
  unfold commands
  rw [find?_eq_place?, find?_eq_place?, place?_enter]
  cases network.place? demand.light with
  | none => rfl
  | some p =>
    rw [Option.bind_some, Option.bind_some, getElem?_enter]
    cases network[p]? with
    | none => rfl
    | some i =>
      show Intersection.changeCommands (if _ then _ else i) _ = _
      split
      · rfl
      · rfl

/-- commands go to the lights of the intersection that the demand resolves to -/
theorem exists_of_mem_commands {network : Network} {demand : Demand} {command : Command}
    (h : command ∈ network.commands demand) :
    ∃ i, network.find? demand.light = some i ∧ command.light ∈ i.ids := by
  unfold commands at h
  cases hi : network.find? demand.light with
  | none =>
    rw [hi] at h
    exact absurd h List.not_mem_nil
  | some i =>
    rw [hi] at h
    obtain ⟨id, hid, hcommand⟩ := List.mem_flatMap.mp h
    have hlight : command.light = id := by
      rcases List.mem_cons.mp hcommand with rfl | hcommand
      · rfl
      · rw [List.mem_singleton.mp hcommand]
    exact ⟨i, rfl, hlight ▸ hid⟩

end Network

namespace Scene

/-- the scene after demands were met one after the other -/
def changeAll (sim : Simulator S) (demands : List Demand) (scene : Scene S) : Scene S :=
  demands.foldl (fun scene demand => (scene.changeTo sim demand.light demand.state).2) scene

theorem changeAll_append (sim : Simulator S) (first second : List Demand) (scene : Scene S) :
    scene.changeAll sim (first ++ second) = (scene.changeAll sim first).changeAll sim second :=
  List.foldl_append

theorem changeTo_commands (sim : Simulator S) (demand : Demand) (scene : Scene S) :
    (scene.changeTo sim demand.light demand.state).2 =
      ⟨(sim.perform (scene.network.commands demand) scene.simulator).2,
        scene.network.enter demand.light demand.state⟩ := by
  unfold Network.commands
  cases hi : scene.network.find? demand.light with
  | some i => rw [changeTo_of_some hi]
  | none =>
    rw [changeTo_of_none hi, Network.enter_of_find?_none hi]
    rfl

/-- **Many demands**: their commands are sent in order, and the network meets them in order. -/
theorem changeAll_eq (sim : Simulator S) (demands : List Demand) (scene : Scene S) :
    scene.changeAll sim demands =
      ⟨(sim.perform (demands.flatMap scene.network.commands) scene.simulator).2,
        scene.network.meet demands⟩ := by
  induction demands generalizing scene with
  | nil => rfl
  | cons demand demands ih =>
    -- the demands behind the first one find the intersections as they were, up to their states
    have hcommands : (scene.network.enter demand.light demand.state).commands =
        scene.network.commands := by
      funext other
      exact Network.commands_enter _ _ _ other
    show ((scene.changeTo sim demand.light demand.state).2).changeAll sim demands = _
    rw [ih, changeTo_commands, List.flatMap_cons, Simulator.perform_append, Network.meet_cons]
    show (⟨(sim.perform (demands.flatMap (Network.enter _ _ _).commands) _).2, _⟩ : Scene S) = _
    rw [hcommands]

/-- **What demands change in a scene**, when all of them are among those that are `asked`. -/
structure Framed (sim : Simulator S) (asked : Demand → Prop) (before after : Scene S) : Prop where
  count : after.network.length = before.network.length
  /-- lights, states and errors of an intersection stay; its current state may become one that was
  asked of it -/
  current : ∀ p i, before.network[p]? = some i → ∃ name,
    after.network[p]? = some { i with current := name } ∧
    (name = i.current ∨
      ∃ demand, asked demand ∧ before.network.place? demand.light = some p ∧ name = demand.state)
  /-- the simulator gets commands and nothing else -/
  commands : ∃ sent, after.simulator = (sim.perform sent before.simulator).2 ∧
    (∀ log, sim.Logs log → log after.simulator = log before.simulator ++ sent) ∧
    ∀ command ∈ sent, ∃ demand i, asked demand ∧ before.network.find? demand.light = some i ∧
      command.light ∈ i.ids
  motion : sim.LightsOnly → sim.clock after.simulator = sim.clock before.simulator ∧
    sim.distance after.simulator = sim.distance before.simulator ∧
    sim.speed after.simulator = sim.speed before.simulator

theorem framed_changeAll (sim : Simulator S) {asked : Demand → Prop} {demands : List Demand}
    (h : ∀ demand ∈ demands, asked demand) (scene : Scene S) :
    Framed sim asked scene (scene.changeAll sim demands) := by
  rw [changeAll_eq]
  refine ⟨Network.length_meet _ _, fun p i hi => ?_,
    ⟨_, rfl, fun log hlog => hlog.perform _ _, fun command hcommand => ?_⟩, fun hlights => ?_⟩
  · rw [Network.getElem?_meet, hi]
    refine ⟨_, rfl, ?_⟩
    -- the last demand that resolves to the intersection decides on its state
    cases hlast : (scene.network.demandsAt p demands).getLast? with
    | none => exact .inl rfl
    | some last =>
      obtain ⟨hmem, hp⟩ := List.mem_filter.mp (List.mem_of_getLast? hlast)
      exact .inr ⟨last, h last hmem, of_decide_eq_true hp, rfl⟩
  · obtain ⟨demand, hdemand, hsent⟩ := List.mem_flatMap.mp hcommand
    obtain ⟨i, hi, hlight⟩ := Network.exists_of_mem_commands hsent
    exact ⟨demand, i, h demand hdemand, hi, hlight⟩
  · exact ⟨Simulator.perform_keeps hlights.clock _ _, Simulator.perform_keeps hlights.distance _ _,
      Simulator.perform_keeps hlights.speed _ _⟩

end Scene

/-! ## what a script asks for -/

namespace Node

/-- the procedure nodes that are read from a node, in reading order -/
def procedures (node : Node) : List Node :=
  match node.outline with
  | .ok shape => shape.leaves
  | .error offence => offence.met

/-- under `Params` the node names a light and a state -/
def Names (node : Node) (demand : Demand) : Prop :=
  ∃ params id name, node.get? "Params" = some params ∧
    params.get? "TrafficLightId" = some id ∧ id.asNatural = .ok demand.light ∧
    params.get? "StateName" = some name ∧ name.asText = .ok demand.state

/-- what a node names stands under `Params`, and a node with `Params` is an action -/
theorem Names.roleOf {node : Node} {demand : Demand} (h : node.Names demand) :
    Procedure.roleOf node = .action := by
  obtain ⟨params, _, _, hparams, _⟩ := h
  rw [Procedure.roleOf, hparams]
  rfl

/-- an action among the procedure nodes names the light and the state -/
def Asks (node : Node) (demand : Demand) : Prop :=
  ∃ leaf ∈ node.procedures, Procedure.roleOf leaf = .action ∧ leaf.Names demand

end Node

namespace Procedure

/-- what the condition of a procedure asks for, if it is configured -/
def demands (p : Procedure Builtin) : List Demand :=
  match p.binding with
  | .ready c => c.demand?.toList
  | _ => []

end Procedure

/-- a light state that was configured to be entered is the one that stands under `Params` -/
theorem LightState.names_of_configure {node : Node} {c after : LightState}
    (h : c.configure node = (.ok (), after)) {demand : Demand} (hd : after.demand? = some demand) :
    node.Names demand := by
  unfold configure at h
  cases hname : node.optional Node.asText "Name" c.name with
  | error error => simp [hname] at h
  | ok name =>
    cases hlight : (target node).2.required Node.asNatural "TrafficLightId" typeName with
    | error error => simp [hname, hlight] at h
    | ok light =>
      cases hstate : (target node).2.required Node.asText "StateName" typeName with
      | error error => simp [hname, hlight, hstate] at h
      | ok state =>
        simp only [hname, hlight, hstate] at h
        obtain ⟨_, rfl⟩ := Prod.mk.inj h
        obtain ⟨id, hid, hnatural⟩ := Node.required_eq_ok_iff.mp hlight
        obtain ⟨text, htext, hread⟩ := Node.required_eq_ok_iff.mp hstate
        cases hparams : node.get? "Params" with
        | none =>
          -- without `Params` the state is only checked
          have hcheck : (target node).1 = .check := by rw [target_of_no_params hparams]
          rw [demand?_of_check hcheck] at hd
          exact nomatch hd
        | some params =>
          have htarget : target node = (.change, params) := by rw [target, hparams]
          rw [htarget] at hd hid htext
          obtain rfl := Option.some.inj hd
          exact ⟨params, id, text, hparams, hid, hnatural, htext, hread⟩

namespace Builtin

theorem names_of_configure {node : Node} {c after : Builtin}
    (h : c.configure node = (.ok (), after)) {demand : Demand} (hd : after.demand? = some demand) :
    node.Names demand := by
  cases c with
  | constant c =>
    obtain ⟨_, rfl⟩ := Prod.mk.inj h
    exact nomatch hd
  | measurement m =>
    obtain ⟨_, rfl⟩ := Prod.mk.inj h
    exact nomatch hd
  | lightState c =>
    obtain ⟨hok, rfl⟩ := Prod.mk.inj h
    exact LightState.names_of_configure (Prod.ext hok rfl) hd

/-- a condition changes the scene by what it asks for -/
theorem act_changeAll (sim : Simulator S) (c : Builtin) (scene : Scene S) :
    (c.act sim scene).2 = scene.changeAll sim c.demand?.toList := by
  cases c with
  | constant c => rfl
  | measurement m => rfl
  | lightState c =>
    show (c.act sim scene).2 = scene.changeAll sim c.demand?.toList
    cases hmode : c.mode with
    | change =>
      rw [LightState.demand?_of_change hmode, LightState.act, hmode]
      rfl
    | check =>
      rw [LightState.demand?_of_check hmode, LightState.act, hmode]
      rfl

/-- and so does its update in a world -/
theorem update_changeAll (sim : Simulator S) (c : Builtin) (world : World S) :
    ((condition sim).update c world).world.scene =
      world.scene.changeAll sim c.demand?.toList :=
  (scene_answer sim c world).trans (act_changeAll sim c world.scene)

end Builtin

/-! ## ticks -/

namespace Expr

section
variable {α σ : Type}

/-- the world after `n` ticks of a tree in a row -/
def worldAfter (call : Call α σ) : Nat → Expr α → σ → σ
  | 0, _, world => world
  | n + 1, e, world =>
    worldAfter call n (e.evaluate call world).after (e.evaluate call world).world

end

section
variable {π σ : Type} {family : Condition π σ} {registry : Registry π} {node : Node}

/-- the leaves of a tree that was read are its procedure nodes, loaded in the roles they have -/
theorem leaves_of_read {e : Expr (Procedure π)} (h : read family registry node = .ok e) :
    e.leaves = node.procedures.map fun leaf => (loadLeaf family registry leaf).1 := by
  unfold read at h
  unfold Node.procedures
  cases hshape : node.outline with
  | error offence =>
    rw [hshape] at h
    exact nomatch h
  | ok shape =>
    rw [hshape] at h
    obtain rfl := Except.ok.inj h
    exact leaves_map _ shape

end

section
variable (sim : Simulator S) {asked : Demand → Prop}

theorem call_changeAll (p : Procedure Builtin) (world : World S) :
    (Procedure.call (Builtin.condition sim) p world).after = p ∧
      (Procedure.call (Builtin.condition sim) p world).world.scene =
        world.scene.changeAll sim p.demands := by
  obtain ⟨role, typeName, binding⟩ := p
  cases binding with
  | ready c => exact ⟨rfl, Builtin.update_changeAll sim c world⟩
  | rejected c error => exact ⟨rfl, rfl⟩
  | missing name => exact ⟨rfl, rfl⟩

/-- every leaf of the tree asks for nothing but what is `asked` -/
def AsksOnly (asked : Demand → Prop) (e : Expr (Procedure Builtin)) : Prop :=
  ∀ p ∈ e.leaves, ∀ demand ∈ p.demands, asked demand

/-- the scene is the first one after demands that are all `asked` -/
def Reached (asked : Demand → Prop) (first scene : Scene S) : Prop :=
  ∃ demands, (∀ demand ∈ demands, asked demand) ∧ scene = first.changeAll sim demands

/-- **One tick** changes the scene by demands of its leaves, and its leaves ask for no more. -/
theorem AsksOnly.evaluate {e : Expr (Procedure Builtin)} (h : e.AsksOnly asked) {first : Scene S}
    {world : World S} (hw : Reached sim asked first world.scene) :
    (e.evaluate (Procedure.call (Builtin.condition sim)) world).after.AsksOnly asked ∧
      Reached sim asked first
        (e.evaluate (Procedure.call (Builtin.condition sim)) world).world.scene := by
  have hcall : ∀ (p : Procedure Builtin) (w : World S), (∀ demand ∈ p.demands, asked demand) →
      Reached sim asked first w.scene →
      (∀ demand ∈ (Procedure.call (Builtin.condition sim) p w).after.demands, asked demand) ∧
        Reached sim asked first (Procedure.call (Builtin.condition sim) p w).world.scene := by
    rintro p w hp ⟨demands, hdemands, hscene⟩
    obtain ⟨hafter, hworld⟩ := call_changeAll sim p w
    rw [hafter, hworld, hscene, ← Scene.changeAll_append]
    exact ⟨hp, demands ++ p.demands, List.forall_mem_append.mpr ⟨hdemands, hp⟩, rfl⟩
  exact evaluate_keeps hcall h hw

/-- and so do ticks in any worlds, -/
theorem AsksOnly.afterTicks (worlds : List (World S)) :
    ∀ {e : Expr (Procedure Builtin)}, e.AsksOnly asked →
      (Expr.afterTicks (Procedure.call (Builtin.condition sim)) e worlds).AsksOnly asked := by
  induction worlds with
  | nil => intro e h; exact h
  | cons world worlds ih =>
    intro e h
    have hreached : Reached sim asked world.scene world.scene := ⟨[], nofun, rfl⟩
    exact ih (h.evaluate sim hreached).1

/-- and ticks in a row. -/
theorem AsksOnly.worldAfter {first : Scene S} (n : Nat) :
    ∀ {e : Expr (Procedure Builtin)} {world : World S}, e.AsksOnly asked →
      Reached sim asked first world.scene →
      Reached sim asked first
        (Expr.worldAfter (Procedure.call (Builtin.condition sim)) n e world).scene := by
  induction n with
  | zero => intro e world _ hw; exact hw
  | succ n ih =>
    intro e world h hw
    obtain ⟨hafter, hworld⟩ := h.evaluate sim hw
    exact ih hafter hworld

end

/-- a tree that was read asks for what the actions of its node name -/
theorem asksOnly_of_read (sim : Simulator S) {node : Node} {tree : Expr (Procedure Builtin)}
    (h : read (Builtin.condition sim) Registry.builtin node = .ok tree) :
    tree.AsksOnly node.Asks := by
  intro p hp demand hdemand
  rw [leaves_of_read h] at hp
  obtain ⟨leaf, hleaf, rfl⟩ := List.mem_map.mp hp
  cases hbinding : (loadLeaf (Builtin.condition sim) Registry.builtin leaf).1.binding with
  | rejected c error =>
    rw [Procedure.demands, hbinding] at hdemand
    exact absurd hdemand List.not_mem_nil
  | missing name =>
    rw [Procedure.demands, hbinding] at hdemand
    exact absurd hdemand List.not_mem_nil
  | ready c =>
    rw [Procedure.demands, hbinding, Option.mem_toList] at hdemand
    obtain ⟨fresh, hconfigure⟩ := Procedure.load_ready hbinding
    have hnames : leaf.Names demand := Builtin.names_of_configure hconfigure hdemand
    exact ⟨leaf, hleaf, hnames.roleOf, hnames⟩

theorem predicates_iff {π σ : Type} {family : Condition π σ} {registry : Registry π} {node : Node}
    {tree : Expr (Procedure π)} (h : read family registry node = .ok tree) :
    (∀ p ∈ tree.leaves, p.role = .predicate) ↔
      ∀ leaf ∈ node.procedures, leaf.get? "Params" = none := by
  rw [leaves_of_read h, List.forall_mem_map]
  refine forall_congr' fun leaf => imp_congr_right fun _ => ?_
  show (loadLeaf family registry leaf).1.role = _ ↔ _
  rw [loadLeaf, Procedure.role_load, Procedure.roleOf_eq_predicate_iff]

/-- **Only actions act, and only on what they name.** Take a tree that was read, after any ticks in
any worlds, and let it have any number of ticks in a row from any world, on any simulator. The
intersections stay in number and order, with their lights, states and errors. An intersection
changes its state only to one that an action of the tree names under `Params` together with a light
that the intersection is found by, and commands are sent only to the lights of such intersections.
Clock, distance and speed stay. So a tree without actions, which is a tree none of whose procedure
nodes has `Params`, leaves intersections and simulator as they are and sends no command. -/
theorem only_actions_act (sim : Simulator S) {node : Node} {tree : Expr (Procedure Builtin)}
    (hread : read (Builtin.condition sim) Registry.builtin node = .ok tree)
    (earlier : List (World S)) (n : Nat) (world : World S) :
    let family := Builtin.condition sim
    let call := Procedure.call family
    let after := worldAfter call n (afterTicks call tree earlier) world
    tree.leaves = node.procedures.map (fun leaf => (loadLeaf family Registry.builtin leaf).1) ∧
    Scene.Framed sim node.Asks world.scene after.scene ∧
    ((∀ p ∈ tree.leaves, p.role = .predicate) ↔
      ∀ leaf ∈ node.procedures, leaf.get? "Params" = none) ∧
    ((∀ p ∈ tree.leaves, p.role = .predicate) → after.scene = world.scene) := by
  intro family call after
  have hasks : (afterTicks call tree earlier).AsksOnly node.Asks :=
    (asksOnly_of_read sim hread).afterTicks sim earlier
  have hstart : Reached sim node.Asks world.scene world.scene := ⟨[], nofun, rfl⟩
  obtain ⟨demands, hdemands, hscene⟩ := hasks.worldAfter sim n hstart
  have hpredicates := predicates_iff hread
  refine ⟨leaves_of_read hread, ?_, hpredicates, fun hroles => ?_⟩
  · show Scene.Framed sim node.Asks world.scene
      (worldAfter call n (afterTicks call tree earlier) world).scene
    rw [hscene]
    exact Scene.framed_changeAll sim hdemands world.scene
  · have hnone : demands = [] := by
      rw [List.eq_nil_iff_forall_not_mem]
      intro demand hdemand
      obtain ⟨leaf, hleaf, _, params, _, _, hparams, _⟩ := hdemands demand hdemand
      rw [hpredicates.mp hroles leaf hleaf] at hparams
      exact nomatch hparams
    rw [hnone] at hscene
    exact hscene

/-- a node: light 2 goes, and then one waits for light 3 to stop -/
def goThenWait : Node :=
  .mapping [(.text "Sequential", .sequence [
    .mapping [(.text "Type", .text "TrafficLightState"),
      (.text "Params", .mapping [(.text "TrafficLightId", .number (.int 2)),
        (.text "StateName", .text "Go")])],
    .mapping [(.text "Type", .text "TrafficLightState"),
      (.text "TrafficLightId", .number (.int 3)), (.text "StateName", .text "Stop")]])]

def goingThenWaiting : Expr (Procedure Builtin) :=
  .sequential [] [
    .leaf ⟨.action, "TrafficLightState",
      .ready (.lightState ⟨"TrafficLightState", .change, 2, "Go"⟩)⟩,
    .leaf ⟨.predicate, "TrafficLightState",
      .ready (.lightState ⟨"TrafficLightState", .check, 3, "Stop"⟩)⟩]

theorem read_goThenWait {S : Type} (sim : Simulator S) :
    read (Builtin.condition sim) Registry.builtin goThenWait = .ok goingThenWaiting := by
  unfold goThenWait
  rw [read, Node.outline_of_sequential rfl, Node.outlineList_sequence,
    Node.outlineItems_cons (Node.outline_of_procedure rfl)
      (Node.outlineItems_cons (Node.outline_of_procedure rfl) Node.outlineItems_nil)]
  rfl

/-- of the two groups that share light 2 the first one goes, and the other one stays -/
theorem only_actions_act_goThenWait :
    let sim := Offline.simulator.recorded fun _ => false
    let call := Procedure.call (Builtin.condition sim)
    let world := World.ofBlocks LightState.sharedLight ⟨⟨Offline.start 0.0, []⟩, #[]⟩
    let after := worldAfter call 2 goingThenWaiting world
    Scene.Framed sim goThenWait.Asks world.scene after.scene ∧
      sim.clock after.simulator = sim.clock world.simulator ∧
      after.network.map (·.current) = ["Go", "Blank"] ∧
      after.simulator.sent.map (·.light) = [1, 1, 2, 2] := by
  intro sim call world after
  obtain ⟨_, hframed, _⟩ := only_actions_act sim (read_goThenWait sim) [] 2 world
  have hlights : sim.LightsOnly := ⟨fun _ _ => rfl, fun _ _ => rfl, fun _ _ => rfl⟩
  exact ⟨hframed, (hframed.motion hlights).1, rfl, rfl⟩

end Expr

end SignalScript
