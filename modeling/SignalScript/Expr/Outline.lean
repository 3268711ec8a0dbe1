import SignalScript.Config.Field
import SignalScript.Expr.Basic
import SignalScript.Simulation.Basic

/-!
# The outline of a script node

The shape of an expression depends on its node alone. The outline of a node is the tree it
describes, with the nodes of its procedures as leaves; or the first offence against the grammar.

* `Form`          what the keys of a node say about it, in the order of their priority;
* `Node.outline`  the tree with procedure nodes as leaves, or the first offence in reading order;
* `Offence`       what is wrong, and the procedure nodes that were met before.
-/

namespace SignalScript

/-- what a node is, by the first of the keys of the grammar that it has -/
inductive Form where
  | junction (j : Junction) (operands : Node)
  | negation (operand : Node)
  | sequential (children : Node)
  | parallel (children : Node)
  | procedure
  | unrecognized
  | unsupported

/-- what can be wrong with a node as an expression -/
inductive Fault where
  | notMapping (node : Node)
  | notList (key : String) (operand : Node)
  | policy (error : ConfigurationError)
  | unrecognized (node : Node)

namespace Fault

def error : Fault → ScenarioError
  | .notMapping node => .unsupported node
  | .notList _ operand => .unsupported operand
  | .policy error => .configuration error
  | .unrecognized node => .unrecognized node

/-- some faults are logged before they are reported -/
def complaint? : Fault → Option Record
  | .notMapping node => some (.error ("Expected an expression map, got: " ++ node.spelled))
  | .notList key operand =>
    some (.error (key ++ " expects a list of expressions, got: " ++ operand.spelled))
  | _ => none

end Fault

/-- the first fault, and the procedure nodes met before it -/
structure Offence where
  met : List Node
  fault : Fault

namespace Junction

/-- the key of a junction in a script -/
def key : Junction → String
  | .and => "All"
  | .or => "Any"

end Junction

namespace Node

/-- `All`, `Any`, `Not`, `Sequential`, `Parallel` and `Type`, in this order of priority -/
def form (node : Node) : Form :=
  if !node.isMapping then .unsupported
  else match node.get? "All" with
  | some operands => .junction .and operands
  | none =>
    match node.get? "Any" with
    | some operands => .junction .or operands
    | none =>
      match node.get? "Not" with
      | some operand => .negation operand
      | none =>
        match node.get? "Sequential" with
        | some children => .sequential children
        | none =>
          match node.get? "Parallel" with
          | some children => .parallel children
          | none => if (node.get? "Type").isSome then .procedure else .unrecognized

theorem sizeOf_of_form_junction {node operands : Node} {j : Junction}
    (h : node.form = .junction j operands) : sizeOf operands < sizeOf node := by
  unfold form at h
  repeat' split at h
  all_goals (cases h; try exact sizeOf_get? ‹_›)

theorem sizeOf_of_form_negation {node operand : Node}
    (h : node.form = .negation operand) : sizeOf operand < sizeOf node := by
  unfold form at h
  repeat' split at h
  all_goals (cases h; try exact sizeOf_get? ‹_›)

theorem sizeOf_of_form_sequential {node children : Node}
    (h : node.form = .sequential children) : sizeOf children < sizeOf node := by
  unfold form at h
  repeat' split at h
  all_goals (cases h; try exact sizeOf_get? ‹_›)

theorem sizeOf_of_form_parallel {node children : Node}
    (h : node.form = .parallel children) : sizeOf children < sizeOf node := by
  unfold form at h
  repeat' split at h
  all_goals (cases h; try exact sizeOf_get? ‹_›)

mutual

/-- the tree that a node describes, or the first offence in reading order -/
def outline (node : Node) : Except Offence (Expr Node) :=
  match h : node.form with
  | .junction j operands =>
    have := sizeOf_of_form_junction h
    (outlineList j.key operands).map (.junction j)
  | .negation operand =>
    have := sizeOf_of_form_negation h
    (outline operand).map .not
  | .sequential children =>
    have := sizeOf_of_form_sequential h
    (outlineList "Sequential" children).map (.sequential [])
  | .parallel children =>
    have := sizeOf_of_form_parallel h
    match node.required (asName Policy.known) "Policy" "Parallel" with
    | .ok policy => (outlineList "Parallel" children).map (.parallel policy)
    | .error error => .error ⟨[], .policy error⟩
  | .procedure => .ok (.leaf node)
  | .unrecognized => .error ⟨[], .unrecognized node⟩
  | .unsupported => .error ⟨[], .notMapping node⟩
termination_by sizeOf node

/-- the trees of a list of operands; the list stands without a tag -/
def outlineList (key : String) (operand : Node) : Except Offence (List (Expr Node)) :=
  match operand with
  | .sequence items => outlineItems items
  | other => .error ⟨[], .notList key other⟩
termination_by sizeOf operand

def outlineItems (items : List Node) : Except Offence (List (Expr Node)) :=
  match items with
  | [] => .ok []
  | item :: rest =>
    match outline item with
    | .error offence => .error offence
    | .ok first =>
      match outlineItems rest with
      | .error offence => .error { offence with met := first.leaves ++ offence.met }
      | .ok others => .ok (first :: others)
termination_by sizeOf items

end

/-! ## one step of the outline -/

theorem outline_eq (node : Node) :
    node.outline = match node.form with
      | .junction j operands => (outlineList j.key operands).map (.junction j)
      | .negation operand => operand.outline.map .not
      | .sequential children => (outlineList "Sequential" children).map (.sequential [])
      | .parallel children =>
        match node.required (asName Policy.known) "Policy" "Parallel" with
        | .ok policy => (outlineList "Parallel" children).map (.parallel policy)
        | .error error => .error ⟨[], .policy error⟩
      | .procedure => .ok (.leaf node)
      | .unrecognized => .error ⟨[], .unrecognized node⟩
      | .unsupported => .error ⟨[], .notMapping node⟩ := by
  rw [outline]
  split <;> simp only [*]

theorem outline_of_procedure {node : Node} (h : node.form = .procedure) :
    node.outline = .ok (.leaf node) := by
  rw [outline_eq, h]

theorem outline_of_sequential {node children : Node} (h : node.form = .sequential children) :
    node.outline = (outlineList "Sequential" children).map (.sequential []) := by
  rw [outline_eq, h]

theorem outlineList_sequence (key : String) (items : List Node) :
    outlineList key (.sequence items) = outlineItems items := by
  rw [outlineList]

theorem outlineItems_nil : outlineItems [] = .ok [] := by
  rw [outlineItems]

theorem outlineItems_cons {item : Node} {first : Expr Node} (h : item.outline = .ok first)
    {rest : List Node} {others : List (Expr Node)} (hs : outlineItems rest = .ok others) :
    outlineItems (item :: rest) = .ok (first :: others) := by
  rw [outlineItems, h]
  simp only [hs]

end Node

end SignalScript
