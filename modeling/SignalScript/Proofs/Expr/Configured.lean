import SignalScript.Expr.Read
import SignalScript.Proofs.Expr.Lockstep
import SignalScript.Proofs.Expr.Sweep

/-!
# Trees that are configured once

Procedures are configured when a tree is read, and a tick never goes back on that. What is known of
a tree from its configuration can be read off its shape.

* `Procedure.label`               role, type and error of a procedure; no call changes them;
* `Expr.errors_eq_of_shape`, `Expr.line_eq_of_shape`  trees of one shape have the same errors and
                                  the same text;
* `Expr.decides_of_read`          a tree that was read answers with booleans only;
* `Expr.exists_bool_of_no_errors` a tree without errors always answers.
-/

namespace SignalScript

variable {π σ : Type}

namespace Procedure

/-- what a procedure shows of itself from its configuration on -/
structure Label where
  role : Role
  typeName : String
  error? : Option ConfigurationError

def label (p : Procedure π) : Label := ⟨p.role, p.typeName, p.error?⟩

def Label.text (l : Label) : String := "(" ++ l.role.word ++ " " ++ l.typeName ++ ")"

theorem label_call (family : Condition π σ) (p : Procedure π) (world : σ) :
    (call family p world).after.label = p.label := by
  obtain ⟨role, typeName, binding⟩ := p
  cases binding <;> rfl

theorem error?_ne_none_of_call {family : Condition π σ} {p : Procedure π} {world : σ}
    {error : EvaluationError} (h : (call family p world).answer = .error error) :
    p.error? ≠ none := by
  obtain ⟨role, typeName, binding⟩ := p
  cases binding with
  | ready c => exact nomatch h
  | rejected c error => exact Option.some_ne_none _
  | missing name => exact Option.some_ne_none _

/-- only a configured procedure answers -/
theorem isConfigured_of_call {family : Condition π σ} {p : Procedure π} {world : σ} {b : Bool}
    (h : (call family p world).answer = .ok b) : p.isConfigured = true := by
  cases hp : p.isConfigured with
  | true => rfl
  | false =>
    rw [call_of_not_configured family hp] at h
    exact nomatch h

/-- and one that fails says which type it wanted -/
theorem eq_notConfigured_of_call {family : Condition π σ} {p : Procedure π} {world : σ}
    {error : EvaluationError} (h : (call family p world).answer = .error error) :
    p.isConfigured = false ∧ error = .notConfigured p.typeName := by
  cases hp : p.isConfigured with
  | true => exact absurd (p.isConfigured_iff.mp hp) (error?_ne_none_of_call h)
  | false =>
    rw [call_of_not_configured family hp] at h
    exact ⟨rfl, (Except.error.inj h).symm⟩

end Procedure

namespace Expr

/-! ## what the shape tells -/

theorem errors_shape (e : Expr (Procedure π)) :
    e.errors = (e.shape Procedure.label).leaves.filterMap Procedure.Label.error? := by
  rw [leaves_shape, List.filterMap_map]
  rfl

theorem line_shape (e : Expr (Procedure π)) :
    e.line = (e.shape Procedure.label).text Procedure.Label.text := by
  rw [text_shape]
  rfl

section
variable {e e' : Expr (Procedure π)} (h : e'.shape Procedure.label = e.shape Procedure.label)
include h

theorem errors_eq_of_shape : e'.errors = e.errors := by
  rw [errors_shape, errors_shape, h]

theorem line_eq_of_shape : e'.line = e.line := by
  rw [line_shape, line_shape, h]

end

/-! ## answers -/

/-- no procedure of the tree can fail, and nothing else can -/
theorem answer_ne_error {e : Expr (Procedure π)} (h : e.errors = []) (family : Condition π σ)
    (world : σ) (error : EvaluationError) :
    (e.evaluate (Procedure.call family) world).answer ≠ .error error := by
  intro hanswer
  obtain ⟨p, hp, _, hcall⟩ := exists_leaf_of_error e world error hanswer
  have hnone : p.error? = none := List.filterMap_eq_nil_iff.1 h p hp
  exact Procedure.error?_ne_none_of_call hcall hnone

/-- a tree without errors answers, and one that decides answers with a boolean -/
theorem exists_bool_of_no_errors {e : Expr (Procedure π)} (h : e.errors = []) (hd : e.Decides)
    (family : Condition π σ) (world : σ) :
    ∃ b, (e.evaluate (Procedure.call family) world).answer = .ok (.bool b) := by
  cases hanswer : (e.evaluate (Procedure.call family) world).answer with
  | error error => exact absurd hanswer (answer_ne_error h family world error)
  | ok v =>
    obtain ⟨b, rfl⟩ := hd.exists_bool hanswer
    exact ⟨b, rfl⟩

/-- what every update of a condition keeps of the world, a tick keeps -/
theorem evaluate_invariant {family : Condition π σ} (I : σ → Prop)
    (hkept : ∀ c world, I world → I (family.update c world).world) (e : Expr (Procedure π))
    {world : σ} (h : I world) : I (e.evaluate (Procedure.call family) world).world := by
  have hcall : ∀ (p : Procedure π) (w : σ), True → I w →
      True ∧ I (Procedure.call family p w).world := by
    intro p w _ hw
    obtain ⟨role, typeName, binding⟩ := p
    cases binding with
    | ready c => exact ⟨trivial, hkept c w hw⟩
    | rejected c error => exact ⟨trivial, hw⟩
    | missing name => exact ⟨trivial, hw⟩
  exact (evaluate_keeps hcall (fun _ _ => trivial) h).2

/-! ## trees that were read -/

/-- the grammar of scripts has no values -/
theorem outline_ne_value {node : Node} {e : Expr Node} (h : node.outline = .ok e) (v : Value) :
    e ≠ .value v := by
  rw [Node.outline] at h
  split at h
  case h_1 =>
    obtain ⟨_, _, rfl⟩ := map_eq_ok_iff.1 h
    exact nofun
  case h_2 =>
    obtain ⟨_, _, rfl⟩ := map_eq_ok_iff.1 h
    exact nofun
  case h_3 =>
    obtain ⟨_, _, rfl⟩ := map_eq_ok_iff.1 h
    exact nofun
  case h_4 =>
    cases hp : node.required (Node.asName Policy.known) "Policy" "Parallel" with
    | error error =>
      simp only [hp] at h
      exact nomatch h
    | ok policy =>
      simp only [hp] at h
      obtain ⟨_, _, rfl⟩ := map_eq_ok_iff.1 h
      exact nofun
  case h_5 =>
    obtain rfl := Except.ok.inj h
    exact nofun
  case h_6 => exact nomatch h
  case h_7 => exact nomatch h

theorem decides_of_read {family : Condition π σ} {registry : Registry π} {node : Node}
    {e : Expr (Procedure π)} (h : read family registry node = .ok e) : e.Decides := by
  unfold read at h
  cases hshape : node.outline with
  | error offence => rw [hshape] at h; exact nomatch h
  | ok shape =>
    rw [hshape] at h
    obtain rfl := Except.ok.inj h
    intro v hv
    cases shape with
    | value v' => exact absurd rfl (outline_ne_value hshape v')
    | junction | not | leaf | sequential | parallel => exact nomatch hv

end Expr

end SignalScript
