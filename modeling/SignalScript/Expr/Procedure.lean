import SignalScript.Condition.Registry
import SignalScript.Expr.Evaluate

/-!
# Procedures

A procedure is a leaf that a script describes: it asks for a condition by type, and either has a
configured one, or one that rejected its node, or none.

* `Procedure.load`   looks the condition up and configures it; this writes one line of log;
* `Procedure.error?` what went wrong, if anything;
* `Procedure.call`   asks the condition, or fails if it is not configured.
-/

namespace SignalScript

/-- predicates test, actions act -/
inductive Role where
  | predicate
  | action
  deriving DecidableEq

namespace Role

def word : Role → String
  | .predicate => "Predicate"
  | .action => "Action"

end Role

/-- the condition behind a procedure -/
inductive Binding (π : Type) where
  | ready (condition : π)
  | rejected (condition : π) (error : ConfigurationError)
  | missing (registeredName : String)

structure Procedure (π : Type) where
  role : Role
  typeName : String
  binding : Binding π

namespace Procedure

variable {π σ : Type}

/-- the type that a node asks for; numbers and booleans are taken as texts -/
def typeOf (node : Node) : String :=
  match node.get? "Type" with
  | some (.text s) => s
  | some (.number n) => n.scalarText
  | some (.bool b) => boolText b
  | _ => "(type unspecified)"

/-- a node with `Params` is an action, whatever stands there -/
def roleOf (node : Node) : Role :=
  if (node.get? "Params").isSome then .action else .predicate

/-- look the condition of a node up and configure it; what became of it is logged -/
def load (family : Condition π σ) (registry : Registry π) (role : Role) (node : Node) :
    Procedure π × Record :=
  let typeName := typeOf node
  let registered := typeName ++ conditionSuffix
  match registry.create? registered with
  | none =>
    (⟨role, typeName, .missing registered⟩,
      .error (ConfigurationError.unknownCondition registered).message)
  | some fresh =>
    match family.configure node fresh with
    | (.ok (), condition) =>
      (⟨role, typeName, .ready condition⟩,
        .debug ("Configured " ++ typeName ++ " (" ++ family.name condition ++ ")"))
    | (.error error, condition) =>
      (⟨role, typeName, .rejected condition error⟩, .error error.message)

def isConfigured (p : Procedure π) : Bool :=
  match p.binding with
  | .ready _ => true
  | _ => false

/-- why the procedure is not configured, if it is not -/
def error? (p : Procedure π) : Option ConfigurationError :=
  match p.binding with
  | .ready _ => none
  | .rejected _ error => some error
  | .missing registeredName => some (.unknownCondition registeredName)

/-- the condition, configured or not -/
def condition? (p : Procedure π) : Option π :=
  match p.binding with
  | .ready condition => some condition
  | .rejected condition _ => some condition
  | .missing _ => none

/-- the name of the condition, if there is one -/
def name? (family : Condition π σ) (p : Procedure π) : Option String :=
  p.condition?.map family.name

/-- the procedure as a node of a tree on one line -/
def text (p : Procedure π) : String := "(" ++ p.role.word ++ " " ++ p.typeName ++ ")"

/-- ask the condition; an unconfigured procedure is not asked -/
def call (family : Condition π σ) : Expr.Call (Procedure π) σ
  | ⟨role, typeName, .ready condition⟩, world =>
    let turn := family.update condition world
    ⟨.ok turn.answer, ⟨role, typeName, .ready turn.after⟩, turn.world⟩
  | p, world => ⟨.error (.notConfigured p.typeName), p, world⟩

/-! ### how loading can end -/

section
variable {family : Condition π σ} {registry : Registry π} {node : Node} {fresh condition : π}

theorem load_of_unknown (h : registry.create? (typeOf node ++ conditionSuffix) = none)
    (role : Role) :
    load family registry role node =
      (⟨role, typeOf node, .missing (typeOf node ++ conditionSuffix)⟩,
        .error (ConfigurationError.unknownCondition (typeOf node ++ conditionSuffix)).message) := by
  simp only [load, h]

theorem load_of_configured (h : registry.create? (typeOf node ++ conditionSuffix) = some fresh)
    (hc : family.configure node fresh = (.ok (), condition)) (role : Role) :
    load family registry role node =
      (⟨role, typeOf node, .ready condition⟩,
        .debug ("Configured " ++ typeOf node ++ " (" ++ family.name condition ++ ")")) := by
  simp only [load, h, hc]

theorem load_of_rejected {error : ConfigurationError}
    (h : registry.create? (typeOf node ++ conditionSuffix) = some fresh)
    (hc : family.configure node fresh = (.error error, condition)) (role : Role) :
    load family registry role node =
      (⟨role, typeOf node, .rejected condition error⟩, .error error.message) := by
  simp only [load, h, hc]

end

theorem isConfigured_iff (p : Procedure π) : p.isConfigured = true ↔ p.error? = none := by
  obtain ⟨role, typeName, binding⟩ := p
  cases binding <;> simp [isConfigured, error?]

theorem call_ready (family : Condition π σ) (role : Role) (typeName : String) (condition : π)
    (world : σ) :
    call family ⟨role, typeName, .ready condition⟩ world =
      ⟨.ok (family.update condition world).answer,
        ⟨role, typeName, .ready (family.update condition world).after⟩,
        (family.update condition world).world⟩ := rfl

theorem call_of_not_configured (family : Condition π σ) {p : Procedure π}
    (h : p.isConfigured = false) (world : σ) :
    call family p world = ⟨.error (.notConfigured p.typeName), p, world⟩ := by
  obtain ⟨role, typeName, binding⟩ := p
  cases binding with
  | ready condition => simp [isConfigured] at h
  | rejected condition error => rfl
  | missing registeredName => rfl

end Procedure

namespace Expr

variable {π : Type}

/-- the tree on one line -/
def line (e : Expr (Procedure π)) : String := e.text Procedure.text

/-- the errors of the procedures of a tree, in reading order -/
def errors (e : Expr (Procedure π)) : List ConfigurationError := e.leaves.filterMap Procedure.error?

end Expr

end SignalScript
