import SignalScript.Proofs.Expr.Steady
import SignalScript.Proofs.Expr.Sweep

/-!
# What a tree comes down to

Let every leaf have a truth that nothing changes. Then a tree has a value that does not depend on
how it is evaluated: which operands are skipped does not matter, and neither do the cursors, since
they only move past children that are true.

* `Value.Holds`            when a value counts as true;
* `Policy.Carries`         what a policy asks of the number of children that are;
* `Expr.upshot`             the value of a tree; of a sequence the children count that are pending;
* `Expr.meaning`            the value when all children of a sequence count, said without votes;
* `Expr.upshot_rewound`     at its start a tree comes down to what it means;
* `Expr.Fixed`              a leaf that answers with its truth and changes nothing that matters;
* `Expr.evaluate_fixed`     a tick of a tree of such leaves answers with its upshot and keeps it;
* `Expr.evaluate_leafless`  a tree without leaves has its upshot in every world;
* `Expr.Agreement`          and, or and the three policies over the same children;
* `Expr.agreement_of_fixed` over fixed leaves they agree, in any order of the children.
-/

namespace SignalScript

namespace Junction

/-- every one of the votes, or some of them -/
def combine : Junction → List Bool → Bool
  | .and, votes => votes.all id
  | .or, votes => votes.any id

theorem combine_nil (j : Junction) : j.combine [] = j.identity := by
  cases j <;> rfl

/-- the identity has no say -/
theorem combine_cons_of_open {j : Junction} {b : Bool} (h : b = j.identity) (votes : List Bool) :
    j.combine (b :: votes) = j.combine votes := by
  subst h
  cases j <;> rfl

/-- and everything else decides -/
theorem combine_cons_of_decided {j : Junction} {b : Bool} (h : b ≠ j.identity)
    (votes : List Bool) : j.combine (b :: votes) = !j.identity := by
  rw [Bool.eq_not_of_ne h]
  cases j <;> rfl

end Junction

/-! ## truth and policies, as they are meant -/

/-- everything counts as true but the boolean that is false -/
def Value.Holds (v : Value) : Prop := v ≠ .bool false

instance : DecidablePred Value.Holds
  | .bool true => isTrue nofun
  | .bool false => isFalse fun h => h rfl
  | .nil => isTrue nofun
  | .number _ => isTrue nofun

theorem Value.isTruthy_eq_decide (v : Value) : v.isTruthy = decide v.Holds := by
  rcases v with _ | (_ | _) | _ <;> rfl

/-- what a policy asks of the number of children that are true -/
def Policy.Carries (policy : Policy) (passed total : Nat) : Prop :=
  match policy with
  | .all => passed = total
  | .any => 0 < passed
  | .majority => total < 2 * passed

instance (passed total : Nat) : (policy : Policy) → Decidable (policy.Carries passed total)
  | .all => inferInstanceAs (Decidable (passed = total))
  | .any => inferInstanceAs (Decidable (0 < passed))
  | .majority => inferInstanceAs (Decidable (total < 2 * passed))

/-- which of a list of values are true -/
def verdicts (values : List Value) : List Bool := values.map fun v => decide v.Holds

theorem verdicts_append (values more : List Value) :
    verdicts (values ++ more) = verdicts values ++ verdicts more := List.map_append

theorem all_verdicts (values : List Value) :
    (verdicts values).all id = decide (∀ v ∈ values, v.Holds) := by
  rw [Bool.eq_iff_iff, decide_eq_true_iff, verdicts, List.all_map, List.all_eq_true]
  simp only [Function.comp_apply, id_eq, decide_eq_true_eq]

theorem any_verdicts (values : List Value) :
    (verdicts values).any id = decide (∃ v ∈ values, v.Holds) := by
  rw [Bool.eq_iff_iff, decide_eq_true_iff, verdicts, List.any_map, List.any_eq_true]
  simp only [Function.comp_apply, id_eq, decide_eq_true_eq]

/-- how many of a list of things have a property, counted over the booleans that tell -/
theorem count_true_map {β : Type} (p : β → Bool) (l : List β) :
    (l.map p).count true = l.countP p := by
  rw [List.count_eq_countP, List.countP_map]
  congr 1
  funext b
  exact beq_true (p b)

/-- votes are counted as the policy asks -/
theorem Policy.combine_verdicts (policy : Policy) (values : List Value) :
    policy.combine (verdicts values) =
      decide (policy.Carries (values.countP fun v => v.Holds) values.length) := by
  have hall : (∀ v ∈ values, v.Holds) ↔ values.countP (fun v => v.Holds) = values.length := by
    simp only [List.countP_eq_length, decide_eq_true_eq]
  have hany : (∃ v ∈ values, v.Holds) ↔ 0 < values.countP fun v => v.Holds := by
    simp only [List.countP_pos_iff, decide_eq_true_eq]
  cases policy with
  | all =>
    rw [combine, all_verdicts]
    exact decide_eq_decide.mpr hall
  | any =>
    rw [combine, any_verdicts]
    exact decide_eq_decide.mpr hany
  | majority =>
    rw [combine, verdicts, count_true_map, List.length_map, Nat.mul_comm]
    exact decide_eq_decide.mpr Iff.rfl

namespace Expr

variable {α β σ τ : Type}

/-! ## upshots -/

mutual

/-- the value of a tree whose leaves have a fixed truth; a sequence is true when every child that is
pending is -/
def upshot (truth : α → Bool) : Expr α → Value
  | .value v => v
  | .junction j operands => .bool (j.combine (votes truth operands))
  | .not operand => .bool !(upshot truth operand).isTruthy
  | .leaf a => .bool (truth a)
  | .sequential _ pending => .bool ((votes truth pending).all id)
  | .parallel policy children => .bool (policy.combine (votes truth children))

/-- the truth of each of a list of trees -/
def votes (truth : α → Bool) : List (Expr α) → List Bool
  | [] => []
  | e :: rest => (upshot truth e).isTruthy :: votes truth rest

end

section
variable {truth : α → Bool}

theorem votes_cons (e : Expr α) (es : List (Expr α)) :
    votes truth (e :: es) = (e.upshot truth).isTruthy :: votes truth es := rfl

theorem votes_eq_map (es : List (Expr α)) :
    votes truth es = es.map fun e => (e.upshot truth).isTruthy := by
  induction es with
  | nil => rfl
  | cons e es ih => rw [votes_cons, ih, List.map_cons]

end

/-! ## meanings -/

mutual

/-- the value of a tree when every child of a sequence counts, the passed ones too -/
def meaning (truth : α → Bool) : Expr α → Value
  | .value v => v
  | .junction .and operands => .bool (∀ v ∈ meanings truth operands, v.Holds)
  | .junction .or operands => .bool (∃ v ∈ meanings truth operands, v.Holds)
  | .not operand => .bool ¬(meaning truth operand).Holds
  | .leaf a => .bool (truth a)
  | .sequential passed pending =>
    .bool (∀ v ∈ meanings truth passed ++ meanings truth pending, v.Holds)
  | .parallel policy children =>
    .bool (policy.Carries ((meanings truth children).countP fun v => v.Holds)
      (meanings truth children).length)

/-- what each of a list of trees means -/
def meanings (truth : α → Bool) : List (Expr α) → List Value
  | [] => []
  | e :: rest => meaning truth e :: meanings truth rest

end

section
variable (truth : α → Bool)

theorem votes_rewoundAll {es : List (Expr α)}
    (ih : ∀ e ∈ es, e.rewound.upshot truth = e.meaning truth) :
    votes truth (rewoundAll es) = verdicts (meanings truth es) := by
  induction es with
  | nil => rfl
  | cons e es ihs =>
    rw [rewoundAll, votes_cons, ih e List.mem_cons_self, Value.isTruthy_eq_decide,
      ihs fun e' he' => ih e' (List.mem_cons_of_mem _ he')]
    rfl

/-- at its start a tree comes down to what it means -/
theorem upshot_rewound (e : Expr α) : e.rewound.upshot truth = e.meaning truth := by
  induction e with
  | value v => rfl
  | junction j operands ih =>
    rw [rewound, upshot, votes_rewoundAll truth ih]
    cases j with
    | and => rw [Junction.combine, all_verdicts, meaning]
    | or => rw [Junction.combine, any_verdicts, meaning]
  | not operand ih => rw [rewound, upshot, meaning, ih, Value.isTruthy_eq_decide, decide_not]
  | leaf a => rfl
  | sequential passed pending ihp ihq =>
    rw [rewound, upshot, meaning, votes_eq_map, List.map_append, ← votes_eq_map, ← votes_eq_map,
      votes_rewoundAll truth ihp, votes_rewoundAll truth ihq, ← verdicts_append, all_verdicts]
  | parallel policy children ih =>
    rw [rewound, upshot, meaning, votes_rewoundAll truth ih, Policy.combine_verdicts]

theorem meaning_of_rewound {e : Expr α} (h : e.rewound = e) : e.meaning truth = e.upshot truth := by
  rw [← upshot_rewound, h]

end

/-! ## one tick with fixed truths -/

/-- a tick of a tree, with the truths of its leaves, answers with the upshot and keeps it -/
structure Answers (truth : α → Bool) (e : Expr α) : Prop where
  answer : (e.evaluate (still fun a => .ok (truth a)) ()).answer = .ok (e.upshot truth)
  after : (e.evaluate (still fun a => .ok (truth a)) ()).after.upshot truth = e.upshot truth

section
variable {truth : α → Bool} {es : List (Expr α)}

theorem evaluateUntil_upshot (j : Junction) (ih : ∀ e ∈ es, e.Answers truth) :
    (evaluateUntil (still fun a => .ok (truth a)) j es ()).answer =
        .ok (j.combine (votes truth es)) ∧
      votes truth (evaluateUntil (still fun a => .ok (truth a)) j es ()).after =
        votes truth es := by
  induction es with
  | nil => exact ⟨congrArg Except.ok j.combine_nil.symm, rfl⟩
  | cons e es ihs =>
    obtain ⟨hanswer, hvotes⟩ := ihs fun e' he' => ih e' (List.mem_cons_of_mem _ he')
    obtain ⟨ha, hafter⟩ := ih e List.mem_cons_self
    by_cases hv : (e.upshot truth).isTruthy = j.identity
    · rw [evaluateUntil_cons_of_open ha hv, votes_cons, votes_cons, hafter, hvotes,
        Junction.combine_cons_of_open hv]
      exact ⟨hanswer, rfl⟩
    · rw [evaluateUntil_cons_of_decided ha hv, votes_cons, votes_cons, hafter,
        Junction.combine_cons_of_decided hv]
      exact ⟨rfl, rfl⟩

/-- the children that pass are true, so those that remain tell the same -/
theorem evaluateOn_upshot (ih : ∀ e ∈ es, e.Answers truth) :
    (evaluateOn (still fun a => .ok (truth a)) es ()).answer =
        .ok ((votes truth es).all id) ∧
      (votes truth (evaluateOn (still fun a => .ok (truth a)) es ()).after.2).all id =
        (votes truth es).all id := by
  induction es with
  | nil => exact ⟨rfl, rfl⟩
  | cons e es ihs =>
    obtain ⟨hanswer, hvotes⟩ := ihs fun e' he' => ih e' (List.mem_cons_of_mem _ he')
    obtain ⟨ha, hafter⟩ := ih e List.mem_cons_self
    cases hv : (e.upshot truth).isTruthy with
    | true =>
      rw [evaluateOn_cons_of_passed ha hv, votes_cons, hv, List.all_cons]
      exact ⟨hanswer, hvotes⟩
    | false =>
      rw [evaluateOn_cons_of_stopped ha hv, votes_cons, votes_cons, hafter, hv, List.all_cons]
      exact ⟨rfl, rfl⟩

theorem evaluateAll_upshot (ih : ∀ e ∈ es, e.Answers truth) :
    (evaluateAll (still fun a => .ok (truth a)) es ()).answer = .ok (votes truth es) ∧
      votes truth (evaluateAll (still fun a => .ok (truth a)) es ()).after = votes truth es := by
  induction es with
  | nil => exact ⟨rfl, rfl⟩
  | cons e es ihs =>
    obtain ⟨hanswer, hvotes⟩ := ihs fun e' he' => ih e' (List.mem_cons_of_mem _ he')
    obtain ⟨ha, hafter⟩ := ih e List.mem_cons_self
    rw [evaluateAll_cons_of_ok ha, votes_cons, votes_cons, hafter, hvotes, hanswer]
    exact ⟨rfl, rfl⟩

/-- **With fixed truths a tree has its upshot**, before and after every tick. -/
theorem answers_upshot (truth : α → Bool) (e : Expr α) : e.Answers truth := by
  induction e with
  | value v => exact ⟨rfl, rfl⟩
  | junction j operands ih =>
    obtain ⟨hanswer, hvotes⟩ := evaluateUntil_upshot j ih
    constructor
    · rw [evaluate_junction, hanswer]
      rfl
    · rw [evaluate_junction, upshot, hvotes, upshot]
  | not operand ih =>
    constructor
    · rw [evaluate_not, ih.answer]
      rfl
    · rw [evaluate_not, upshot, ih.after, upshot]
  | leaf a => exact ⟨rfl, rfl⟩
  | sequential passed pending _ ih =>
    obtain ⟨hanswer, hvotes⟩ := evaluateOn_upshot ih
    constructor
    · rw [evaluate_sequential, hanswer]
      rfl
    · rw [evaluate_sequential, upshot, hvotes, upshot]
  | parallel policy children ih =>
    obtain ⟨hanswer, hvotes⟩ := evaluateAll_upshot ih
    constructor
    · rw [evaluate_parallel, hanswer]
      rfl
    · rw [evaluate_parallel, upshot, hvotes, upshot]

end

/-! ## fixed leaves -/

/-- as long as something is the case with the world, the leaf answers with its truth, stays as it is
and leaves this the case -/
structure Fixed (I : σ → Prop) (call : Call α σ) (truth : α → Bool) (a : α) : Prop where
  answer : ∀ w, I w → (call a w).answer = .ok (truth a)
  after : ∀ w, I w → (call a w).after = a
  world : ∀ w, I w → I (call a w).world

/-- what ticks do not change about a tree of fixed leaves -/
def aspect (truth : α → Bool) (e : Expr α) : Value × List α := (e.upshot truth, e.leaves)

/-- a step that answers with the upshot of a tree, and leaves a tree of the same upshot over the
same leaves -/
structure Reveals (I : σ → Prop) (truth : α → Bool) (e : Expr α)
    (turn : Turn (Except EvaluationError Value) (Expr α) σ) : Prop where
  answer : turn.answer = .ok (e.upshot truth)
  aspect : turn.after.aspect truth = e.aspect truth
  world : I turn.world

section
variable {I : σ → Prop} {call : Call α σ} {truth : α → Bool}

/-- **A tick of a tree of fixed leaves** answers with its upshot and keeps it. -/
theorem evaluate_fixed {e : Expr α} (he : ∀ a ∈ e.leaves, Fixed I call truth a) {w : σ}
    (hw : I w) : Reveals I truth e (e.evaluate call w) := by
  have alike : ∀ a w (u : Unit), Fixed I call truth a → I w →
      (call a w).Alike (Same (Fixed I call truth)) (fun w _ => I w)
        (still (fun a => .ok (truth a)) a u) := fun _ w _ ha hw =>
    ⟨ha.answer w hw, ⟨ha.after w hw, (ha.after w hw).symm ▸ ha⟩, ha.world w hw⟩
  have t : (e.evaluate call w).Alike (fun f f' => f = f' ∧ ∀ a ∈ f.leaves, Fixed I call truth a)
      (fun w _ => I w) (e.evaluate (still fun a => .ok (truth a)) ()) :=
    evaluate_agree alike he hw
  obtain ⟨hanswer, hafter⟩ := answers_upshot truth e
  constructor
  case answer => rw [t.answer, hanswer]
  case aspect =>
    have hshape : (e.evaluate (still fun a => .ok (truth a)) ()).after.shape id = e.shape id :=
      shape_evaluate (fun _ _ => rfl) e ()
    have hleaves := congrArg leaves hshape
    rw [leaves_shape, leaves_shape, List.map_id, List.map_id] at hleaves
    rw [Expr.aspect, t.after.1, hafter, hleaves]
    rfl
  case world => exact t.world

/-- a steady leaf is fixed as long as one view of the world lasts -/
theorem fixed_of_steady {view : σ → τ} {a : α} (h : Steady view call a) {w₀ : σ}
    (htruth : (call a w₀).answer = .ok (truth a)) :
    Fixed (fun w => view w = view w₀) call truth a :=
  ⟨fun w hw => (h.determined w w₀ hw).trans htruth, fun w _ => h.keeps w,
    fun w hw => (h.unseen w).trans hw⟩

/-- **A tree without leaves** has its upshot in every world, and leaves the world alone. -/
theorem evaluate_leafless {e : Expr α} (h : e.leaves = []) (call : Call α σ) (truth : α → Bool)
    (world : σ) : Reveals (· = world) truth e (e.evaluate call world) :=
  evaluate_fixed (fun _ ha => absurd (h ▸ ha) List.not_mem_nil) rfl

/-- and so it does at any time of a run -/
theorem aspect_afterTicks {e : Expr α} (h : e.leaves = []) (call : Call α σ) (truth : α → Bool)
    (worlds : List σ) : (afterTicks call e worlds).aspect truth = e.aspect truth := by
  induction worlds generalizing e with
  | nil => rfl
  | cons world worlds ih =>
    have t := (evaluate_leafless h call truth world).aspect
    have hleaves : (e.evaluate call world).after.leaves = [] := (Prod.mk.inj t).2.trans h
    rw [afterTicks_cons, ih hleaves, t]

end

/-! ## and, or and the policies -/

/-- the truth of each child alone, and what the connectives answer over these children in the same
world, in whatever order the children stand -/
structure Agreement (call : Call α σ) (children : List (Expr α)) (world : σ)
    (truth : Expr α → Bool) : Prop where
  alone : ∀ e ∈ children, (e.evaluate call world).answer.map Value.isTruthy = .ok (truth e)
  all : ∀ es, es.Perm children →
    ((Expr.junction .and es).evaluate call world).answer = .ok (.bool (children.all truth)) ∧
    ((Expr.parallel .all es).evaluate call world).answer = .ok (.bool (children.all truth))
  any : ∀ es, es.Perm children →
    ((Expr.junction .or es).evaluate call world).answer = .ok (.bool (children.any truth)) ∧
    ((Expr.parallel .any es).evaluate call world).answer = .ok (.bool (children.any truth))
  majority : ∀ es, es.Perm children →
    ((Expr.parallel .majority es).evaluate call world).answer =
      .ok (.bool (children.length < 2 * children.countP truth))

section
variable (truth : α → Bool) {es children : List (Expr α)}

theorem all_votes (h : es.Perm children) :
    (votes truth es).all id = children.all fun e => (e.upshot truth).isTruthy := by
  rw [votes_eq_map, List.all_map]
  exact h.all_eq

theorem any_votes (h : es.Perm children) :
    (votes truth es).any id = children.any fun e => (e.upshot truth).isTruthy := by
  rw [votes_eq_map, List.any_map]
  exact h.any_eq

theorem count_votes (h : es.Perm children) :
    (votes truth es).count true = children.countP fun e => (e.upshot truth).isTruthy := by
  rw [votes_eq_map, count_true_map, h.countP_eq]

theorem length_votes (h : es.Perm children) : (votes truth es).length = children.length := by
  rw [votes_eq_map, List.length_map, h.length_eq]

end

section
variable {I : σ → Prop} {call : Call α σ} {truth : α → Bool} {children : List (Expr α)} {world : σ}

/-- **And, or and the policies agree** over trees of fixed leaves. -/
theorem agreement_of_fixed (h : ∀ a ∈ leavesOf children, Fixed I call truth a) (hworld : I world) :
    Agreement call children world fun e => (e.upshot truth).isTruthy := by
  have hperm : ∀ es, es.Perm children → ∀ a ∈ leavesOf es, Fixed I call truth a := by
    intro es hes a ha
    obtain ⟨e, he, hae⟩ := mem_leavesOf.mp ha
    exact h a (mem_leavesOf.mpr ⟨e, hes.mem_iff.mp he, hae⟩)
  -- the leaves of each of these trees are those of its children
  have hanswer : ∀ e : Expr α, (∀ a ∈ e.leaves, Fixed I call truth a) →
      (e.evaluate call world).answer = .ok (e.upshot truth) :=
    fun e he => (evaluate_fixed he hworld).answer
  constructor
  case alone =>
    intro e he
    rw [hanswer e fun a ha => h a (mem_leavesOf.mpr ⟨e, he, ha⟩)]
    rfl
  case all =>
    intro es hes
    rw [hanswer (.junction .and es) (hperm es hes), hanswer (.parallel .all es) (hperm es hes),
      ← all_votes truth hes]
    exact ⟨rfl, rfl⟩
  case any =>
    intro es hes
    rw [hanswer (.junction .or es) (hperm es hes), hanswer (.parallel .any es) (hperm es hes),
      ← any_votes truth hes]
    exact ⟨rfl, rfl⟩
  case majority =>
    intro es hes
    rw [hanswer (.parallel .majority es) (hperm es hes), ← count_votes truth hes,
      ← length_votes truth hes, Nat.mul_comm]
    rfl

end

end Expr

end SignalScript
