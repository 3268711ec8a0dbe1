import SignalScript.Expr.Evaluate

/-!
# The shape of an expression

What holds of a tree as soon as it holds of its children holds of every tree. The shape of a tree
forgets how far its sequential expressions have come.

* `Expr.childInduction`  induction on trees, with a hypothesis for every child;
* `Expr.leaves_map`      other leaves stand where the leaves stood;
* `Expr.rewound`         the tree with every sequential expression in it at its start: trees that
                         differ in their cursors alone are the same when rewound;
* `Expr.shape`           the rewound tree with something that is known of every leaf in its place;
* `Expr.text_shape`      a text that needs nothing else of the leaves can be read off the shape.
-/

namespace SignalScript

namespace Expr

variable {α β : Type}

/-- **Induction on trees**: in each case the claim is known of every child. -/
@[elab_as_elim, induction_eliminator]
theorem childInduction {motive : Expr α → Prop}
    (value : ∀ v, motive (.value v))
    (junction : ∀ j operands, (∀ e ∈ operands, motive e) → motive (.junction j operands))
    (not : ∀ operand, motive operand → motive (.not operand))
    (leaf : ∀ a, motive (.leaf a))
    (sequential : ∀ passed pending, (∀ e ∈ passed, motive e) → (∀ e ∈ pending, motive e) →
      motive (.sequential passed pending))
    (parallel : ∀ policy children, (∀ e ∈ children, motive e) →
      motive (.parallel policy children)) :
    ∀ e, motive e := by
  intro e
  have none : ∀ e ∈ ([] : List (Expr α)), motive e := fun e he => absurd he List.not_mem_nil
  have more : ∀ (first : Expr α) (rest : List (Expr α)), motive first → (∀ e ∈ rest, motive e) →
      ∀ e ∈ first :: rest, motive e := by
    intro first rest hfirst hrest e he
    rcases List.mem_cons.mp he with rfl | he'
    · exact hfirst
    · exact hrest e he'
  exact Expr.rec (motive_1 := motive) (motive_2 := fun es => ∀ e ∈ es, motive e)
    value junction not leaf sequential parallel none more e

/-! ## leaves -/

theorem mem_leavesOf {es : List (Expr α)} {a : α} :
    a ∈ leavesOf es ↔ ∃ e ∈ es, a ∈ e.leaves := by
  induction es with
  | nil => simp [leavesOf_nil]
  | cons e es ih => simp [leavesOf_cons, ih]

theorem leavesOf_map {f : α → β} {es : List (Expr α)}
    (ih : ∀ e ∈ es, (e.map f).leaves = e.leaves.map f) :
    leavesOf (expandAll (fun a => .leaf (f a)) es) = (leavesOf es).map f := by
  induction es with
  | nil => rfl
  | cons e es ihs =>
    have hrest := ihs fun e' he' => ih e' (List.mem_cons_of_mem _ he')
    have hfirst : (e.expand fun a => .leaf (f a)).leaves = e.leaves.map f := ih e List.mem_cons_self
    rw [expandAll_cons, leavesOf_cons, leavesOf_cons, hrest, hfirst, List.map_append]

/-- other leaves stand where the leaves stood -/
theorem leaves_map (f : α → β) (e : Expr α) : (e.map f).leaves = e.leaves.map f := by
  induction e with
  | value v => rfl
  | junction j operands ih => exact leavesOf_map ih
  | not operand ih => exact ih
  | leaf a => rfl
  | sequential passed pending ihp ihq =>
    show leavesOf (expandAll _ passed) ++ leavesOf (expandAll _ pending) = _
    rw [leavesOf_map ihp, leavesOf_map ihq, ← List.map_append]
    rfl
  | parallel policy children ih => exact leavesOf_map ih

/-! ## cursors -/

mutual

/-- every sequential expression in the tree at its start -/
def rewound : Expr α → Expr α
  | .value v => .value v
  | .junction j operands => .junction j (rewoundAll operands)
  | .not operand => .not (rewound operand)
  | .leaf a => .leaf a
  | .sequential passed pending => .sequential [] (rewoundAll passed ++ rewoundAll pending)
  | .parallel policy children => .parallel policy (rewoundAll children)

def rewoundAll : List (Expr α) → List (Expr α)
  | [] => []
  | e :: rest => rewound e :: rewoundAll rest

end

theorem leavesOf_rewoundAll {es : List (Expr α)} (ih : ∀ e ∈ es, e.rewound.leaves = e.leaves) :
    leavesOf (rewoundAll es) = leavesOf es := by
  induction es with
  | nil => rfl
  | cons e es ihs =>
    have hrest := ihs fun e' he' => ih e' (List.mem_cons_of_mem _ he')
    rw [rewoundAll, leavesOf_cons, leavesOf_cons, hrest, ih e List.mem_cons_self]

theorem leaves_rewound (e : Expr α) : e.rewound.leaves = e.leaves := by
  induction e with
  | value v => rfl
  | junction j operands ih => exact leavesOf_rewoundAll ih
  | not operand ih => exact ih
  | leaf a => rfl
  | sequential passed pending ihp ihq =>
    show [] ++ leavesOf (rewoundAll passed ++ rewoundAll pending) = _
    rw [List.nil_append, leavesOf_append, leavesOf_rewoundAll ihp, leavesOf_rewoundAll ihq]
    rfl
  | parallel policy children ih => exact leavesOf_rewoundAll ih

/-- trees that differ in their cursors alone have the same leaves -/
theorem leaves_eq_of_rewound_eq {e f : Expr α} (h : e.rewound = f.rewound) :
    e.leaves = f.leaves := by
  rw [← leaves_rewound e, h, leaves_rewound]

/-! ## shapes -/

/-- the tree with every cursor at its start, and with what `f` tells of every leaf in its place -/
def shape (f : α → β) (e : Expr α) : Expr β := (e.map f).rewound

theorem expandAll_eq_map (f : α → Expr β) (es : List (Expr α)) :
    expandAll f es = es.map (expand f) := by
  induction es with
  | nil => rfl
  | cons e es ih => rw [expandAll_cons, ih, List.map_cons]

theorem rewoundAll_eq_map (es : List (Expr α)) : rewoundAll es = es.map rewound := by
  induction es with
  | nil => rfl
  | cons e es ih => rw [rewoundAll, ih, List.map_cons]

theorem rewoundAll_expandAll (f : α → β) (es : List (Expr α)) :
    rewoundAll (expandAll (fun a => .leaf (f a)) es) = es.map (shape f) := by
  rw [expandAll_eq_map, rewoundAll_eq_map, List.map_map]
  rfl

section
variable (f : α → β)

theorem shape_value (v : Value) : (Expr.value v : Expr α).shape f = .value v := rfl

theorem shape_junction (j : Junction) (operands : List (Expr α)) :
    (Expr.junction j operands).shape f = .junction j (operands.map (shape f)) :=
  congrArg (Expr.junction j) (rewoundAll_expandAll f operands)

theorem shape_not (operand : Expr α) : (Expr.not operand).shape f = .not (operand.shape f) := rfl

theorem shape_leaf (a : α) : (Expr.leaf a).shape f = .leaf (f a) := rfl

/-- the shape of a sequence does not tell who has passed -/
theorem shape_sequential (passed pending : List (Expr α)) :
    (Expr.sequential passed pending).shape f =
      .sequential [] ((passed ++ pending).map (shape f)) := by
  rw [List.map_append, ← rewoundAll_expandAll, ← rewoundAll_expandAll]
  rfl

theorem shape_parallel (policy : Policy) (children : List (Expr α)) :
    (Expr.parallel policy children).shape f = .parallel policy (children.map (shape f)) :=
  congrArg (Expr.parallel policy) (rewoundAll_expandAll f children)

theorem leaves_shape (e : Expr α) : (e.shape f).leaves = e.leaves.map f := by
  rw [shape, leaves_rewound, leaves_map]

theorem textOf_shape (leafText : β → String) {es : List (Expr α)}
    (ih : ∀ e ∈ es, (e.shape f).text leafText = e.text fun a => leafText (f a)) :
    textOf leafText (es.map (shape f)) = textOf (fun a => leafText (f a)) es := by
  induction es with
  | nil => rfl
  | cons e es ihs =>
    have hrest := ihs fun e' he' => ih e' (List.mem_cons_of_mem _ he')
    rw [List.map_cons, textOf_cons, textOf_cons, hrest, ih e List.mem_cons_self]

/-- the text of a tree is the text of its shape, if the shape tells enough of the leaves -/
theorem text_shape (leafText : β → String) (e : Expr α) :
    (e.shape f).text leafText = e.text fun a => leafText (f a) := by
  induction e with
  | value v => rfl
  | junction j operands ih =>
    rw [shape_junction, text, text, textOf_shape f leafText ih]
  | not operand ih => rw [shape_not, text, text, ih]
  | leaf a => rfl
  | sequential passed pending ihp ihq =>
    rw [shape_sequential, text, text, List.map_append, textOf_append, textOf_shape f leafText ihp,
      textOf_shape f leafText ihq, textOf_nil, String.append_empty, ← String.append_assoc]
  | parallel policy children ih =>
    rw [shape_parallel, text, text, textOf_shape f leafText ih]

/-- a value can be told from every other tree by its shape -/
theorem shape_eq_value_iff {e : Expr α} {v : Value} : e.shape f = .value v ↔ e = .value v := by
  constructor
  · intro h
    cases e with
    | value v' => exact congrArg Expr.value (Expr.value.inj h)
    | junction => rw [shape_junction] at h; exact nomatch h
    | not => rw [shape_not] at h; exact nomatch h
    | leaf => rw [shape_leaf] at h; exact nomatch h
    | sequential => rw [shape_sequential] at h; exact nomatch h
    | parallel => rw [shape_parallel] at h; exact nomatch h
  · rintro rfl
    rfl

end

end Expr

end SignalScript
