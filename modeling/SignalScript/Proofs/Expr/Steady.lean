import SignalScript.Proofs.Expr.Lockstep

/-!
# Trees that change nothing they look at

A leaf is steady when its answer depends on a view of the world alone, and when its calls change
neither the leaf nor that view. A tree of steady leaves still moves its cursors, but only once: as
long as the view is the same, further ticks find every cursor where they would leave it.

* `Steady`                     what changes nothing it looks at;
* `Expr.still`                 leaves with fixed answers, in a world that is nothing at all;
* `Expr.evaluate_still_again`  a tick of such a tree, repeated, changes nothing more;
* `Expr.evaluate_steady`       steady leaves might as well be still;
* `Expr.evaluate_again`        a second tick answers as the first and leaves the tree as it was.
-/

namespace SignalScript

/-- what a step answers depends on the view alone, and the step changes neither what takes it nor
the view -/
structure Steady {ρ α σ τ : Type} (view : σ → τ) (step : α → σ → Turn ρ α σ) (a : α) : Prop where
  keeps : ∀ w, (step a w).after = a
  unseen : ∀ w, view (step a w).world = view w
  determined : ∀ w w', view w = view w' → (step a w).answer = (step a w').answer

namespace Expr

variable {α σ τ : Type}

/-! ## fixed answers -/

/-- every leaf keeps the answer that the oracle gives it -/
def still (oracle : α → Except EvaluationError Bool) : Call α Unit := fun a _ => ⟨oracle a, a, ()⟩

section
variable (oracle : α → Except EvaluationError Bool)

/-- a second tick of the tree is the first one over again -/
def Settles (e : Expr α) : Prop :=
  (e.evaluate (still oracle) ()).after.evaluate (still oracle) () = e.evaluate (still oracle) ()

variable {oracle}

theorem evaluateUntil_still_again (j : Junction) {es : List (Expr α)}
    (ih : ∀ e ∈ es, e.Settles oracle) :
    evaluateUntil (still oracle) j (evaluateUntil (still oracle) j es ()).after () =
      evaluateUntil (still oracle) j es () := by
  induction es with
  | nil => rfl
  | cons e es ihs =>
    have hrest := ihs fun e' he' => ih e' (List.mem_cons_of_mem _ he')
    have hfirst : e.Settles oracle := ih e List.mem_cons_self
    unfold Settles at hfirst
    cases ha : (e.evaluate (still oracle) ()).answer with
    | error err =>
      have ha' := (congrArg Turn.answer hfirst).trans ha
      rw [evaluateUntil_cons_of_error ha, evaluateUntil_cons_of_error ha', hfirst]
    | ok v =>
      have ha' := (congrArg Turn.answer hfirst).trans ha
      by_cases hv : v.isTruthy = j.identity
      · rw [evaluateUntil_cons_of_open ha hv, evaluateUntil_cons_of_open ha' hv, hfirst]
        rw [hrest]
      · rw [evaluateUntil_cons_of_decided ha hv, evaluateUntil_cons_of_decided ha' hv, hfirst]

/-- the children that passed are not asked again, and the others are where they stopped -/
theorem evaluateOn_still_again {es : List (Expr α)} (ih : ∀ e ∈ es, e.Settles oracle) :
    evaluateOn (still oracle) (evaluateOn (still oracle) es ()).after.2 () =
      ⟨(evaluateOn (still oracle) es ()).answer, ([], (evaluateOn (still oracle) es ()).after.2),
        ()⟩ := by
  induction es with
  | nil => rfl
  | cons e es ihs =>
    have hrest := ihs fun e' he' => ih e' (List.mem_cons_of_mem _ he')
    have hfirst : e.Settles oracle := ih e List.mem_cons_self
    unfold Settles at hfirst
    cases ha : (e.evaluate (still oracle) ()).answer with
    | error err =>
      have ha' := (congrArg Turn.answer hfirst).trans ha
      rw [evaluateOn_cons_of_error ha, evaluateOn_cons_of_error ha', hfirst]
    | ok v =>
      cases hv : v.isTruthy with
      | true =>
        rw [evaluateOn_cons_of_passed ha hv]
        exact hrest
      | false =>
        have ha' := (congrArg Turn.answer hfirst).trans ha
        rw [evaluateOn_cons_of_stopped ha hv, evaluateOn_cons_of_stopped ha' hv, hfirst]

theorem evaluateAll_still_again {es : List (Expr α)} (ih : ∀ e ∈ es, e.Settles oracle) :
    evaluateAll (still oracle) (evaluateAll (still oracle) es ()).after () =
      evaluateAll (still oracle) es () := by
  induction es with
  | nil => rfl
  | cons e es ihs =>
    have hrest := ihs fun e' he' => ih e' (List.mem_cons_of_mem _ he')
    have hfirst : e.Settles oracle := ih e List.mem_cons_self
    unfold Settles at hfirst
    cases ha : (e.evaluate (still oracle) ()).answer with
    | error err =>
      have ha' := (congrArg Turn.answer hfirst).trans ha
      rw [evaluateAll_cons_of_error ha, evaluateAll_cons_of_error ha', hfirst]
    | ok v =>
      have ha' := (congrArg Turn.answer hfirst).trans ha
      rw [evaluateAll_cons_of_ok ha, evaluateAll_cons_of_ok ha', hfirst]
      rw [hrest]

/-- with fixed answers the cursors move in the first tick only -/
theorem evaluate_still_again (e : Expr α) : e.Settles oracle := by
  unfold Settles
  induction e with
  | value v => rfl
  | junction j operands ih =>
    rw [evaluate_junction, evaluate_junction, evaluateUntil_still_again j ih]
  | not operand ih => rw [evaluate_not, evaluate_not, ih]
  | leaf a => rfl
  | sequential passed pending _ ih =>
    rw [evaluate_sequential, evaluate_sequential, evaluateOn_still_again ih,
      List.append_nil]
  | parallel policy children ih =>
    rw [evaluate_parallel, evaluate_parallel, evaluateAll_still_again ih]

end

/-! ## trees of steady leaves -/

section
variable {view : σ → τ} {call : Call α σ} {e : Expr α}

/-- a tick of a steady tree is the tick with the answers that its leaves give in one world -/
theorem evaluate_steady (he : ∀ a ∈ e.leaves, Steady view call a) {w₀ w : σ}
    (hw : view w = view w₀) :
    (e.evaluate call w).Alike (fun f f' => f = f' ∧ ∀ a ∈ f.leaves, Steady view call a)
      (fun u _ => view u = view w₀) (e.evaluate (still fun a => (call a w₀).answer) ()) := by
  refine evaluate_agree ?_ he hw
  intro a u _ ha hu
  exact ⟨ha.determined u w₀ hu, ⟨ha.keeps u, (ha.keeps u).symm ▸ ha⟩, (ha.unseen u).trans hu⟩

/-- **A second tick changes nothing**: in a world that shows what the first one showed, a steady
tree gives the same answer again and stays as the first tick left it. -/
theorem evaluate_again (he : ∀ a ∈ e.leaves, Steady view call a) {w w' : σ}
    (hw : view w' = view w) :
    ((e.evaluate call w).after.evaluate call w').answer = (e.evaluate call w).answer ∧
      ((e.evaluate call w).after.evaluate call w').after = (e.evaluate call w).after ∧
      view ((e.evaluate call w).after.evaluate call w').world = view w := by
  have first := evaluate_steady he (rfl : view w = view w)
  have second := evaluate_steady first.after.2 hw
  -- both ticks are ticks of the still tree, which has settled after the first
  have settled : e.Settles fun a => (call a w).answer := evaluate_still_again e
  unfold Settles at settled
  rw [first.after.1, settled] at second
  rw [first.after.1, first.answer]
  exact ⟨second.answer, second.after.1, second.world⟩

/-- a tick of a steady tree leaves the view as it is -/
theorem view_evaluate (he : ∀ a ∈ e.leaves, Steady view call a) (w : σ) :
    view (e.evaluate call w).world = view w :=
  (evaluate_steady he rfl).world

end

end Expr

end SignalScript
