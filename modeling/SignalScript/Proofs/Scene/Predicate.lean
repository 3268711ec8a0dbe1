import SignalScript.Expr.Read
import SignalScript.Proofs.Scene.Builtin
import SignalScript.Simulation.Offline

/-!
# Trees of predicates

A procedure is loaded as a predicate exactly when its node has no `Params`, and then none of the
built-in conditions acts. So a tree of predicates changes nothing in the scene.

* `Procedure.load_cases`       how the loading of a procedure can end;
* `Procedure.steady_call`      a procedure is as steady as its condition;
* `Expr.exists_loadLeaf`       every leaf of a tree that was read is a loaded procedure;
* `Expr.steady_of_predicates`  a tree of predicates with quiet conditions is steady in the scene;
* `Expr.evaluate_twice_of_predicates`  until the scene changes, a second tick of it gives the same
                                       answer and moves nothing.
-/

namespace SignalScript

variable {π S σ τ : Type}

namespace Procedure

variable {family : Condition π σ} {registry : Registry π} {role : Role} {node : Node}

/-- a condition is configured, or rejects the node, or is not registered -/
theorem load_cases (family : Condition π σ) (registry : Registry π) (role : Role) (node : Node) :
    (∃ fresh c, registry.create? (typeOf node ++ conditionSuffix) = some fresh ∧
        family.configure node fresh = (.ok (), c) ∧
        (load family registry role node).1 = ⟨role, typeOf node, .ready c⟩) ∨
      (∃ fresh c error, registry.create? (typeOf node ++ conditionSuffix) = some fresh ∧
        family.configure node fresh = (.error error, c) ∧
        (load family registry role node).1 = ⟨role, typeOf node, .rejected c error⟩) ∨
      (registry.create? (typeOf node ++ conditionSuffix) = none ∧
        (load family registry role node).1 =
          ⟨role, typeOf node, .missing (typeOf node ++ conditionSuffix)⟩) := by
  cases hfresh : registry.create? (typeOf node ++ conditionSuffix) with
  | none => exact .inr (.inr ⟨rfl, by rw [load_of_unknown hfresh]⟩)
  | some fresh =>
    rcases hc : family.configure node fresh with ⟨result, c⟩
    cases result with
    | ok _ => exact .inl ⟨fresh, c, rfl, hc, by rw [load_of_configured hfresh hc]⟩
    | error error =>
      exact .inr (.inl ⟨fresh, c, error, rfl, hc, by rw [load_of_rejected hfresh hc]⟩)

theorem role_load (family : Condition π σ) (registry : Registry π) (role : Role) (node : Node) :
    (load family registry role node).1.role = role := by
  obtain ⟨_, _, _, _, h⟩ | ⟨_, _, _, _, _, h⟩ | ⟨_, h⟩ := load_cases family registry role node
  all_goals rw [h]

/-- a configured procedure has its condition from the registry, configured with its node -/
theorem load_ready {c : π} (h : (load family registry role node).1.binding = .ready c) :
    ∃ fresh, family.configure node fresh = (.ok (), c) := by
  obtain ⟨fresh, c', _, hc, hload⟩ | ⟨_, _, _, _, _, hload⟩ | ⟨_, hload⟩ :=
    load_cases family registry role node
  · rw [hload] at h
    cases h
    exact ⟨fresh, hc⟩
  · rw [hload] at h
    cases h
  · rw [hload] at h
    cases h

theorem roleOf_eq_predicate_iff : roleOf node = .predicate ↔ node.get? "Params" = none := by
  unfold roleOf
  cases node.get? "Params" <;> simp

/-- an unconfigured procedure is not asked, a configured one does what its condition does -/
theorem steady_call {view : σ → τ} {p : Procedure π}
    (h : ∀ c, p.binding = .ready c → Steady view family.update c) :
    Steady view (call family) p := by
  obtain ⟨role, typeName, binding⟩ := p
  cases binding with
  | ready c =>
    have hc := h c rfl
    refine ⟨fun w => ?_, fun w => hc.unseen w, fun w w' hw => ?_⟩
    · rw [call_ready, hc.keeps]
    · rw [call_ready, call_ready, hc.determined w w' hw]
  | rejected c error => exact ⟨fun _ => rfl, fun _ => rfl, fun _ _ _ => rfl⟩
  | missing name => exact ⟨fun _ => rfl, fun _ => rfl, fun _ _ _ => rfl⟩

end Procedure

namespace Expr

variable {family : Condition π σ} {registry : Registry π} {node : Node}

/-- every leaf of a tree that was read is the procedure of some node, in the role of that node -/
theorem exists_loadLeaf {e : Expr (Procedure π)} (h : read family registry node = .ok e)
    {p : Procedure π} (hp : p ∈ e.leaves) : ∃ leaf, p = (loadLeaf family registry leaf).1 := by
  unfold read at h
  cases hshape : node.outline with
  | error offence => rw [hshape] at h; cases h
  | ok shape =>
    rw [hshape] at h
    injection h with h
    rw [← h, leaves_map] at hp
    obtain ⟨leaf, _, hleaf⟩ := List.mem_map.mp hp
    exact ⟨leaf, hleaf.symm⟩

/-- the condition of a predicate was configured with a node without `Params` -/
theorem exists_configure_of_predicate {e : Expr (Procedure π)}
    (h : read family registry node = .ok e) {p : Procedure π} (hp : p ∈ e.leaves)
    (hrole : p.role = .predicate) {c : π} (hc : p.binding = .ready c) :
    ∃ leaf fresh, family.configure leaf fresh = (.ok (), c) ∧ leaf.get? "Params" = none := by
  obtain ⟨leaf, rfl⟩ := exists_loadLeaf h hp
  obtain ⟨fresh, hconfigure⟩ := Procedure.load_ready hc
  have hleaf : Procedure.roleOf leaf = .predicate := (Procedure.role_load _ _ _ _).symm.trans hrole
  exact ⟨leaf, fresh, hconfigure, Procedure.roleOf_eq_predicate_iff.mp hleaf⟩

/-- a tree of predicates with quiet conditions is steady in the scene -/
theorem steady_of_predicates {family : Condition π (World S)} {e : Expr (Procedure π)}
    (h : read family registry node = .ok e) (hroles : ∀ p ∈ e.leaves, p.role = .predicate)
    (hquiet : ∀ p ∈ e.leaves, ∀ c, p.binding = .ready c → family.Quiet c) :
    ∀ p ∈ e.leaves, Steady World.scene (Procedure.call family) p := by
  intro p hp
  apply Procedure.steady_call
  intro c hc
  obtain ⟨leaf, fresh, hconfigure, hparams⟩ := exists_configure_of_predicate h hp (hroles p hp) hc
  exact hquiet p hp c hc leaf fresh hconfigure hparams

/-- **A second tick changes nothing.** Take a tree that was read without actions, with its cursors
anywhere, in any world. A tick of it leaves the scene as it is, and a second tick, whatever was
logged in between, gives the same answer or the same error and leaves the scene, every cursor and
every condition as they were. -/
theorem evaluate_twice_of_predicates (sim : Simulator S) {tree e : Expr (Procedure Builtin)}
    (hread : read (Builtin.condition sim) Registry.builtin node = .ok tree)
    (hroles : ∀ p ∈ tree.leaves, p.role = .predicate) (hcursors : e.rewound = tree.rewound)
    (world : World S) (journal : Array Record) :
    let call := Procedure.call (Builtin.condition sim)
    let first := e.evaluate call world
    let second := first.after.evaluate call { first.world with journal }
    first.world.scene = world.scene ∧ second.world.scene = world.scene ∧
      second.answer = first.answer ∧ second.after = first.after := by
  intro call first second
  have hsteady : ∀ p ∈ e.leaves, Steady World.scene call p := by
    rw [leaves_eq_of_rewound_eq hcursors]
    exact steady_of_predicates hread hroles fun _ _ c _ => Builtin.quiet sim c
  have hfirst : first.world.scene = world.scene := view_evaluate hsteady world
  have hagain : ({ first.world with journal } : World S).scene = world.scene := hfirst
  obtain ⟨hanswer, hafter, hscene⟩ := evaluate_again hsteady hagain
  exact ⟨hfirst, hscene, hanswer, hafter⟩

/-- a node: always true, and then the light 7 in the state `Red` -/
def waitForRed : Node :=
  .mapping [(.text "Sequential", .sequence [
    .mapping [(.text "Type", .text "AlwaysTrue")],
    .mapping [(.text "Type", .text "TrafficLightState"),
      (.text "TrafficLightId", .number (.int 7)), (.text "StateName", .text "Red")]])]

/-- its tree with the first child passed -/
def waitingForRed : Expr (Procedure Builtin) :=
  .sequential [.leaf ⟨.predicate, "AlwaysTrue", .ready (.constant ⟨true, "AlwaysTrue"⟩)⟩]
    [.leaf ⟨.predicate, "TrafficLightState",
      .ready (.lightState ⟨"TrafficLightState", .check, 7, "Red"⟩)⟩]

theorem outline_waitForRed :
    waitForRed.outline = .ok (.sequential [] [
      .leaf (.mapping [(.text "Type", .text "AlwaysTrue")]),
      .leaf (.mapping [(.text "Type", .text "TrafficLightState"),
        (.text "TrafficLightId", .number (.int 7)), (.text "StateName", .text "Red")])]) := by
  unfold waitForRed
  rw [Node.outline_of_sequential rfl, Node.outlineList_sequence,
    Node.outlineItems_cons (Node.outline_of_procedure rfl)
      (Node.outlineItems_cons (Node.outline_of_procedure rfl) Node.outlineItems_nil)]
  rfl

theorem read_waitForRed :
    read (Builtin.condition Offline.simulator) Registry.builtin waitForRed =
      .ok waitingForRed.reset := by
  rw [read, outline_waitForRed]
  rfl

/-- a light that nobody controls is not red, however often one looks -/
theorem evaluate_twice_waitingForRed :
    let call := Procedure.call (Builtin.condition Offline.simulator)
    let first := waitingForRed.evaluate call ⟨⟨Offline.start 0.0, #[]⟩, []⟩
    let second := first.after.evaluate call { first.world with journal := #[] }
    second.answer = first.answer ∧ second.after = first.after := by
  have h := evaluate_twice_of_predicates Offline.simulator (e := waitingForRed) read_waitForRed
    (by decide) rfl ⟨⟨Offline.start 0.0, #[]⟩, []⟩ #[]
  exact h.2.2

end Expr

end SignalScript
