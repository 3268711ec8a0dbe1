import SignalScript.Proofs.Expr.Sequence
import SignalScript.Proofs.Scene.Predicate

/-!
# The reader

A node is read by the first key of the grammar that it has. Here is one step of the reader for each
of these keys. What conditions there are, and what they do, shows in none of it.

* `Node.heading?`      the first key of the grammar that a node has, and what stands under it;
* `Listing`            the kinds of expressions over a list of others;
* `Node.Lists`         a node is headed by the key of a list;
* `Expr.read_of_lists`, `Expr.read_of_negation`, …  one step of the reader;
* `Expr.read_agrees`   with other conditions a script is read as the same tree or gives the same error.
-/

namespace SignalScript

/-! ## headings -/

namespace Node

/-- the keys of the grammar in the order of their priority -/
def grammarKeys : List String := ["All", "Any", "Not", "Sequential", "Parallel", "Type"]

/-- the first key of the grammar that the node has, and what stands under it -/
def heading? (node : Node) : Option (String × Node) :=
  grammarKeys.findSome? fun key => (node.get? key).map fun operand => (key, operand)

section
variable {node operand : Node} {key : String}

theorem heading?_spec (h : node.heading? = some (key, operand)) :
    key ∈ grammarKeys ∧ node.get? key = some operand := by
  obtain ⟨k, hk, hfound⟩ := List.exists_of_findSome?_eq_some h
  obtain ⟨x, hx, hpair⟩ := Option.map_eq_some_iff.mp hfound
  obtain ⟨rfl, rfl⟩ := Prod.mk.inj hpair
  exact ⟨hk, hx⟩

theorem get?_of_heading (h : node.heading? = some (key, operand)) : node.get? key = some operand :=
  (heading?_spec h).2

theorem isMapping_of_heading (h : node.heading? = some (key, operand)) : node.isMapping = true :=
  isMapping_of_get? (get?_of_heading h)

theorem sizeOf_of_heading (h : node.heading? = some (key, operand)) :
    sizeOf operand < sizeOf node :=
  sizeOf_get? (get?_of_heading h)

end

end Node

/-- the form of a node that is headed by a key -/
def Form.under (operand : Node) : String → Form
  | "All" => .junction .and operand
  | "Any" => .junction .or operand
  | "Not" => .negation operand
  | "Sequential" => .sequential operand
  | "Parallel" => .parallel operand
  | _ => .procedure

namespace Node

/-- the form of a mapping is that of its heading -/
theorem form_eq_under {node : Node} (h : node.isMapping = true) :
    node.form = match node.heading? with
      | some (key, operand) => Form.under operand key
      | none => .unrecognized := by
  unfold form heading? grammarKeys
  simp only [h, List.findSome?_cons, List.findSome?_nil]
  -- as long as a key is missing, both sides go on to the next one
  cases node.get? "All"
  case some => rfl
  cases node.get? "Any"
  case some => rfl
  cases node.get? "Not"
  case some => rfl
  cases node.get? "Sequential"
  case some => rfl
  cases node.get? "Parallel"
  case some => rfl
  cases node.get? "Type" <;> rfl

theorem form_of_heading {node operand : Node} {key : String}
    (h : node.heading? = some (key, operand)) : node.form = Form.under operand key := by
  rw [form_eq_under (isMapping_of_heading h), h]

theorem form_of_no_heading {node : Node} (h : node.heading? = none) :
    node.form = if node.isMapping then .unrecognized else .unsupported := by
  cases hmapping : node.isMapping with
  | true => rw [form_eq_under hmapping, h]; rfl
  | false => rw [form, hmapping]; rfl

end Node

/-! ## lists of expressions -/

/-- the kinds of expressions over a list of others -/
inductive Listing where
  | junction (j : Junction)
  | sequential
  | parallel (policy : Policy)

namespace Listing

variable {α β : Type}

def key : Listing → String
  | .junction j => j.key
  | .sequential => "Sequential"
  | .parallel _ => "Parallel"

/-- the tree over its children; a sequential one starts with the first of them -/
def build : Listing → List (Expr α) → Expr α
  | .junction j, children => .junction j children
  | .sequential, children => .sequential [] children
  | .parallel policy, children => .parallel policy children

theorem map_build (f : α → β) (kind : Listing) (children : List (Expr α)) :
    (kind.build children).map f = kind.build (children.map (Expr.map f)) := by
  have hmap : Expr.expandAll (fun a => .leaf (f a)) children = children.map (Expr.map f) :=
    Expr.expandAll_eq_map _ children
  cases kind with
  | junction j => exact congrArg (Expr.junction j) hmap
  | sequential => exact congrArg (Expr.sequential []) hmap
  | parallel policy => exact congrArg (Expr.parallel policy) hmap

end Listing

/-- the name of a policy, as a text or as the tag of nothing -/
def Policy.Spelled (policy : Policy) (spelling : Node) : Prop :=
  spelling = .text policy.word ∨ spelling = .tagged policy.word .null

theorem Policy.spelled_iff {policy : Policy} {spelling : Node} :
    policy.Spelled spelling ↔ Node.asName Policy.known spelling = .ok policy := by
  have hknown : ∀ name, Policy.known.lookup name = some policy ↔ name = policy.word := by
    intro name
    unfold Policy.known
    simp only [List.lookup_cons, List.lookup_nil]
    cases policy <;> grind [Policy.word]
  unfold Policy.Spelled
  constructor
  · rintro (rfl | rfl)
    · rw [Node.asName, (hknown _).mpr rfl]
    · rw [Node.asName, (hknown _).mpr rfl]
  · intro h
    unfold Node.asName at h
    cases spelling with
    | text name =>
      cases hname : known.lookup name with
      | none => simp [hname] at h
      | some found =>
        simp only [hname, Except.ok.injEq] at h
        subst h
        exact .inl (congrArg Node.text ((hknown name).mp hname))
    | tagged name value =>
      cases hname : known.lookup name with
      | none => simp [hname] at h
      | some found =>
        cases value with
        | null =>
          simp only [hname, Except.ok.injEq] at h
          subst h
          exact .inr (congrArg (Node.tagged · .null) ((hknown name).mp hname))
        | bool | number | text | sequence | mapping | tagged => simp [hname] at h
    | null | bool | number | sequence | mapping => cases h

namespace Node

/-- the node is headed by the key of a list, and what stands under it is `operand`; beside the key
of a parallel list the policy is spelled out -/
inductive Lists (node : Node) : Listing → Node → Prop
  | junction {j : Junction} {operand : Node} (h : node.heading? = some (j.key, operand)) :
      node.Lists (.junction j) operand
  | sequential {operand : Node} (h : node.heading? = some ("Sequential", operand)) :
      node.Lists .sequential operand
  | parallel {policy : Policy} {operand spelling : Node}
      (h : node.heading? = some ("Parallel", operand)) (hpolicy : node.get? "Policy" = some spelling)
      (hspelled : policy.Spelled spelling) : node.Lists (.parallel policy) operand

section
variable {node operand : Node} {kind : Listing}

theorem Lists.heading (h : node.Lists kind operand) : node.heading? = some (kind.key, operand) := by
  cases h <;> assumption

theorem outline_of_lists (h : node.Lists kind operand) :
    node.outline = (outlineList kind.key operand).map kind.build := by
  have hform := form_of_heading h.heading
  rw [outline_eq, hform]
  cases h with
  | @junction j _ h => cases j <;> rfl
  | sequential h => rfl
  | @parallel policy _ _ h hpolicy hspelled =>
    have hrequired : node.required (asName Policy.known) "Policy" "Parallel" = .ok policy :=
      required_eq_ok_iff.mpr ⟨_, hpolicy, Policy.spelled_iff.mp hspelled⟩
    simp only [Listing.key, Form.under, hrequired]
    rfl

end

end Node

/-! ## one step of the reader -/

namespace Expr

section
variable {π σ : Type} (family : Condition π σ) (registry : Registry π)

/-- the procedure that a node is loaded as -/
def loaded (leaf : Node) : Procedure π := (loadLeaf family registry leaf).1

theorem read_eq (node : Node) :
    read family registry node =
      (node.outline.mapError (·.fault.error)).map (map (loaded family registry)) := by
  rw [read]
  cases node.outline <;> rfl

/-- the items of a list are read one after the other, up to the first that is no expression -/
theorem mapM_read (items : List Node) :
    items.mapM (read family registry) =
      ((Node.outlineItems items).mapError (·.fault.error)).map
        (List.map (map (loaded family registry))) := by
  induction items with
  | nil => rw [Node.outlineItems_nil]; rfl
  | cons item rest ih =>
    rw [List.mapM_cons, ih, read_eq, Node.outlineItems]
    cases item.outline with
    | error offence => rfl
    | ok first => cases Node.outlineItems rest <;> rfl

variable {family registry} {node operand : Node}

theorem read_of_lists {kind : Listing} {items : List Node}
    (h : node.Lists kind (.sequence items)) :
    read family registry node = (items.mapM (read family registry)).map kind.build := by
  rw [read_eq, Node.outline_of_lists h, Node.outlineList_sequence, mapM_read]
  cases Node.outlineItems items with
  | error offence => rfl
  | ok children =>
    show Except.ok ((kind.build children).map _) = _
    rw [Listing.map_build]
    rfl

/-- what stands under the key of a list is a list, without a tag -/
theorem read_of_no_list {kind : Listing} (h : node.Lists kind operand)
    (hother : ∀ items, operand ≠ .sequence items) :
    read family registry node = .error (.unsupported operand) := by
  have houtline : Node.outlineList kind.key operand = .error ⟨[], .notList kind.key operand⟩ := by
    rw [Node.outlineList]
    exact hother
  rw [read_eq, Node.outline_of_lists h, houtline]
  rfl

theorem read_of_negation (h : node.heading? = some ("Not", operand)) :
    read family registry node = (read family registry operand).map .not := by
  have hform : node.form = .negation operand := Node.form_of_heading h
  rw [read_eq, read_eq, Node.outline_eq, hform]
  show Except.map _ (Except.mapError _ (Except.map _ operand.outline)) = _
  cases operand.outline <;> rfl

theorem read_of_procedure (h : node.heading? = some ("Type", operand)) :
    read family registry node = .ok (.leaf (loaded family registry node)) := by
  rw [read_eq, Node.outline_of_procedure (Node.form_of_heading h)]
  rfl

/-- the policy is read before the children -/
theorem read_of_policy_error (h : node.heading? = some ("Parallel", operand))
    {error : ConfigurationError}
    (hpolicy : node.required (Node.asName Policy.known) "Policy" "Parallel" = .error error) :
    read family registry node = .error (.configuration error) := by
  have hform : node.form = .parallel operand := Node.form_of_heading h
  have houtline : node.outline = .error ⟨[], .policy error⟩ := by
    rw [Node.outline_eq, hform]
    simp only [hpolicy]
  rw [read_eq, houtline]
  rfl

theorem read_of_no_heading (h : node.heading? = none) :
    read family registry node =
      .error (if node.isMapping then .unrecognized node else .unsupported node) := by
  have hform := Node.form_of_no_heading h
  rw [read_eq, Node.outline_eq, hform]
  cases node.isMapping <;> rfl

end

/-! ## other conditions -/

theorem expandAll_map {α β γ : Type} {f : α → β} {g : β → γ} {es : List (Expr α)}
    (ih : ∀ e ∈ es, (e.map f).map g = e.map fun a => g (f a)) :
    expandAll (fun b => .leaf (g b)) (expandAll (fun a => .leaf (f a)) es) =
      expandAll (fun a => .leaf (g (f a))) es := by
  induction es with
  | nil => rfl
  | cons e es ihs =>
    have hrest := ihs fun e' he' => ih e' (List.mem_cons_of_mem _ he')
    rw [expandAll_cons, expandAll_cons, expandAll_cons, hrest]
    exact congrArg (· :: _) (ih e List.mem_cons_self)

theorem map_map {α β γ : Type} (f : α → β) (g : β → γ) (e : Expr α) :
    (e.map f).map g = e.map fun a => g (f a) := by
  induction e with
  | value v => rfl
  | junction j operands ih => exact congrArg (Expr.junction j) (expandAll_map ih)
  | not operand ih => exact congrArg Expr.not ih
  | leaf a => rfl
  | sequential passed pending ihp ihq =>
    show sequential (expandAll _ (expandAll _ passed)) (expandAll _ (expandAll _ pending)) = _
    rw [expandAll_map ihp, expandAll_map ihq]
    rfl
  | parallel policy children ih => exact congrArg (Expr.parallel policy) (expandAll_map ih)

end Expr

namespace Procedure

variable {π σ : Type}

/-- what a procedure shows of itself whether it is configured or not -/
def title (p : Procedure π) : Role × String := (p.role, p.typeName)

def titleText (title : Role × String) : String := "(" ++ title.1.word ++ " " ++ title.2 ++ ")"

theorem title_load (family : Condition π σ) (registry : Registry π) (role : Role) (node : Node) :
    (load family registry role node).1.title = (role, typeOf node) := by
  obtain ⟨_, _, _, _, h⟩ | ⟨_, _, _, _, _, h⟩ | ⟨_, h⟩ := load_cases family registry role node
  all_goals rw [h]; rfl

end Procedure

namespace Expr

variable {π π' σ σ' : Type}

/-- the titles of the procedures tell the text of a tree -/
theorem line_eq_of_titles {tree : Expr (Procedure π)} {tree' : Expr (Procedure π')}
    (h : tree.map Procedure.title = tree'.map Procedure.title) : tree.line = tree'.line := by
  have hline : ∀ {π : Type} (tree : Expr (Procedure π)),
      tree.line = (tree.map Procedure.title).rewound.text Procedure.titleText := by
    intro π tree
    exact (text_shape Procedure.title Procedure.titleText tree).symm
  rw [hline tree, h, ← hline tree']

/-- **Reading does not depend on the conditions.** Whatever conditions are registered, and whatever
they make of their nodes, a script gives the same error, or else the same tree up to what is behind
its procedures: the same nodes with the same policies and children in the same order, the same
roles and types, and the same text. -/
theorem read_agrees (family : Condition π σ) (registry : Registry π) (family' : Condition π' σ')
    (registry' : Registry π') (node : Node) :
    (∃ error, read family registry node = .error error ∧
      read family' registry' node = .error error) ∨
    (∃ tree tree', read family registry node = .ok tree ∧ read family' registry' node = .ok tree' ∧
      tree.map Procedure.title = tree'.map Procedure.title ∧ tree.line = tree'.line) := by
  rw [read_eq, read_eq]
  cases node.outline with
  | error offence => exact .inl ⟨_, rfl, rfl⟩
  | ok shape =>
    have htitles : (shape.map (loaded family registry)).map Procedure.title =
        (shape.map (loaded family' registry')).map Procedure.title := by
      rw [map_map, map_map]
      simp only [loaded, loadLeaf, Procedure.title_load]
    exact .inr ⟨_, _, rfl, rfl, htitles, line_eq_of_titles htitles⟩

end Expr

end SignalScript
