import SignalScript.Condition.Builtin
import SignalScript.Proofs.Expr.Steady
import SignalScript.Proofs.Scene.Basic

/-!
# The built-in conditions on the scene

A built-in condition looks at the scene alone, and keeps its own state. Of all of them only a light
state that was configured under `Params` changes the scene.

* `Condition.Blind`      conditions that do not look at the log;
* `Condition.Quiet`      a condition that changes nothing if it was configured without `Params`;
* `Builtin.act`          what a condition answers in a scene, and what becomes of the scene;
* `Builtin.blind`        the built-in conditions are blind;
* `Builtin.acts`         does the condition change the state of an intersection?
* `Builtin.quiet`        without `Params` no built-in condition is configured to act.
-/

namespace SignalScript

variable {S : Type}

/-! ## families of conditions -/

namespace Condition

variable {π ρ : Type}

/-- the log has no say in what a condition does -/
def Blind (family : Condition π (World S)) : Prop :=
  ∀ c w w', w.scene = w'.scene →
    (family.update c w).Alike Eq (fun u u' => u.scene = u'.scene) (family.update c w')

/-- configured without `Params`, the condition is steady in the scene -/
def Quiet (family : Condition π (World S)) (c : π) : Prop :=
  ∀ node fresh, family.configure node fresh = (.ok (), c) → node.get? "Params" = none →
    Steady World.scene family.update c

theorem Blind.sum {left : Condition π (World S)} {right : Condition ρ (World S)}
    (hl : left.Blind) (hr : right.Blind) : (left.sum right).Blind := by
  intro c w w' hw
  cases c with
  | inl c =>
    have t := hl c w w' hw
    exact ⟨t.answer, congrArg Sum.inl t.after, t.world⟩
  | inr c =>
    have t := hr c w w' hw
    exact ⟨t.answer, congrArg Sum.inr t.after, t.world⟩

/-- a quiet condition stays quiet next to other conditions -/
theorem Quiet.inl {left : Condition π (World S)} {c : π} (h : left.Quiet c)
    (right : Condition ρ (World S)) : (left.sum right).Quiet (.inl c) := by
  intro node fresh hconfigure hparams
  cases fresh with
  | inl fresh =>
    have hsum : (left.sum right).configure node (.inl fresh) =
        ((left.configure node fresh).1, .inl (left.configure node fresh).2) := rfl
    obtain ⟨hok, hafter⟩ := Prod.mk.inj (hsum.symm.trans hconfigure)
    have hleft : left.configure node fresh = (.ok (), c) :=
      Prod.ext hok (Sum.inl.inj hafter)
    have hc := h node fresh hleft hparams
    exact ⟨fun w => congrArg Sum.inl (hc.keeps w), fun w => hc.unseen w,
      fun w w' hw => hc.determined w w' hw⟩
  | inr fresh =>
    have hsides : (Sum.inr (right.configure node fresh).2 : π ⊕ ρ) = .inl c :=
      congrArg Prod.snd hconfigure
    cases hsides

end Condition

/-! ## each built-in condition -/

namespace LightState

/-- change the scene, or look at it -/
def act (sim : Simulator S) (c : LightState) (scene : Scene S) : Bool × Scene S :=
  match c.mode with
  | .change => scene.changeTo sim c.light c.state
  | .check => ((scene.network.find? c.light).any (·.current == c.state), scene)

theorem update_scene (sim : Simulator S) (c : LightState) (world : World S) :
    ((c.update sim world).1, (c.update sim world).2.scene) = c.act sim world.scene := by
  unfold update act
  cases c.mode with
  | change => exact World.changeTo_scene sim c.light c.state world
  | check => rfl

/-- a configuration whose name is well formed takes its mode from the place of the target -/
theorem mode_configure {node : Node} {c : LightState} (h : (c.configure node).1 = .ok ()) :
    (c.configure node).2.mode = (target node).1 := by
  unfold configure at h ⊢
  cases hname : node.optional Node.asText "Name" c.name with
  | error error => simp [hname] at h
  | ok name =>
    cases hlight : (target node).2.required Node.asNatural "TrafficLightId" typeName with
    | error error => simp only [hlight]
    | ok light =>
      cases hstate : (target node).2.required Node.asText "StateName" typeName with
      | error error => simp only [hlight, hstate]
      | ok state => simp only [hlight, hstate]

theorem target_of_no_params {node : Node} (h : node.get? "Params" = none) :
    target node = (.check, node) := by
  rw [target, h]

end LightState

namespace Measurement

/-- compare a measured quantity; the scene stays as it is -/
def act (sim : Simulator S) (m : Measurement) (scene : Scene S) : Bool × Scene S :=
  (m.connected && m.rule.compare (m.quantity.measure sim scene.simulator) m.threshold, scene)

theorem update_scene (sim : Simulator S) (m : Measurement) (world : World S) :
    ((m.update sim world).1, (m.update sim world).2.scene) = m.act sim world.scene := by
  unfold update act
  cases m.connected with
  | true => rfl
  | false => rfl

end Measurement

namespace Builtin

/-- what a condition answers in a scene, and the scene after it -/
def act (sim : Simulator S) : Builtin → Scene S → Bool × Scene S
  | .constant c, scene => (c.result, scene)
  | .measurement m, scene => m.act sim scene
  | .lightState c, scene => c.act sim scene

/-- the log has no say in an answer -/
theorem answer_scene (sim : Simulator S) (c : Builtin) (world : World S) :
    ((c.answer sim world).1, (c.answer sim world).2.scene) = c.act sim world.scene := by
  cases c with
  | constant c => rfl
  | measurement m => exact Measurement.update_scene sim m world
  | lightState c => exact LightState.update_scene sim c world

theorem scene_answer (sim : Simulator S) (c : Builtin) (world : World S) :
    (c.answer sim world).2.scene = (c.act sim world.scene).2 :=
  congrArg Prod.snd (answer_scene sim c world)

/-- only a light state that is entered changes anything -/
def acts : Builtin → Bool
  | .lightState c => c.mode = .change
  | _ => false

theorem act_of_not_acts (sim : Simulator S) {c : Builtin} (h : c.acts = false) (scene : Scene S) :
    (c.act sim scene).2 = scene := by
  cases c with
  | constant c => rfl
  | measurement m => rfl
  | lightState c =>
    cases hmode : c.mode with
    | change => simp [acts, hmode] at h
    | check => simp [act, LightState.act, hmode]

/-- without `Params` no condition is configured to act -/
theorem acts_of_no_params {node : Node} {c after : Builtin}
    (h : c.configure node = (.ok (), after)) (hparams : node.get? "Params" = none) :
    after.acts = false := by
  cases c with
  | constant c =>
    obtain ⟨_, rfl⟩ := Prod.mk.inj h
    rfl
  | measurement m =>
    obtain ⟨_, rfl⟩ := Prod.mk.inj h
    rfl
  | lightState c =>
    obtain ⟨hok, rfl⟩ := Prod.mk.inj h
    have hmode := LightState.mode_configure hok
    rw [LightState.target_of_no_params hparams] at hmode
    show decide ((c.configure node).2.mode = .change) = false
    rw [hmode]
    rfl

/-- the built-in conditions do not look at the log -/
theorem blind (sim : Simulator S) : (condition sim).Blind := by
  intro c w w' hw
  have hact := (answer_scene sim c w).trans ((hw ▸ answer_scene sim c w').symm)
  obtain ⟨hanswer, hscene⟩ := Prod.mk.inj hact
  exact ⟨hanswer, rfl, hscene⟩

/-- a condition that does not act is steady in the scene -/
theorem steady_of_not_acts (sim : Simulator S) {c : Builtin} (h : c.acts = false) :
    Steady World.scene (condition sim).update c := by
  refine ⟨fun _ => rfl, fun w => ?_, fun w w' hw => (blind sim c w w' hw).answer⟩
  exact (scene_answer sim c w).trans (act_of_not_acts sim h w.scene)

/-- without `Params` no built-in condition changes the scene -/
theorem quiet (sim : Simulator S) (c : Builtin) : (condition sim).Quiet c :=
  fun _ _ hconfigure hparams => steady_of_not_acts sim (acts_of_no_params hconfigure hparams)

end Builtin

end SignalScript
