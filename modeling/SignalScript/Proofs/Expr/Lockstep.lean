import SignalScript.Proofs.Expr.Shape

/-!
# Two evaluations in lockstep

Evaluation asks the leaves of a tree one after the other and does nothing else with them. So when
corresponding leaves answer alike in corresponding worlds, corresponding trees do.

* `Turn.Alike`             two steps with one answer, and with related outcomes;
* `Expr.Matches`           trees of one shape whose leaves correspond;
* `Expr.Lockstep`          corresponding leaves answer alike and stay corresponding;
* `Expr.evaluate_lockstep` then evaluation keeps in step, tree by tree;
* `Expr.evaluate_agree`    the same for one tree, whose leaves keep a property;
* `Expr.evaluate_alike`    two calls that never differ evaluate every tree alike;
* `Expr.evaluate_keeps`    what every call of a leaf keeps, the evaluation of a tree keeps.
-/

namespace SignalScript

/-- two steps with the same answer, and with related outcomes -/
structure Turn.Alike {ρ τ τ' σ σ' : Type} (R : τ → τ' → Prop) (W : σ → σ' → Prop)
    (t : Turn ρ τ σ) (t' : Turn ρ τ' σ') : Prop where
  answer : t.answer = t'.answer
  after : R t.after t'.after
  world : W t.world t'.world

namespace Expr

variable {α β σ τ : Type}

/-! ## trees of one shape -/

mutual

/-- the same tree up to its leaves, and corresponding leaves at every place -/
def Matches (L : α → β → Prop) : Expr α → Expr β → Prop
  | .value v, .value v' => v = v'
  | .junction j es, .junction j' fs => j = j' ∧ MatchesAll L es fs
  | .not e, .not f => Matches L e f
  | .leaf a, .leaf b => L a b
  | .sequential passed pending, .sequential passed' pending' =>
    MatchesAll L passed passed' ∧ MatchesAll L pending pending'
  | .parallel policy es, .parallel policy' fs => policy = policy' ∧ MatchesAll L es fs
  | _, _ => False

def MatchesAll (L : α → β → Prop) : List (Expr α) → List (Expr β) → Prop
  | [], [] => True
  | e :: es, f :: fs => Matches L e f ∧ MatchesAll L es fs
  | _, _ => False

end

theorem MatchesAll.append {L : α → β → Prop} {es es' : List (Expr α)} {fs fs' : List (Expr β)}
    (h : MatchesAll L es fs) (h' : MatchesAll L es' fs') :
    MatchesAll L (es ++ es') (fs ++ fs') := by
  induction es generalizing fs with
  | nil =>
    cases fs with
    | nil => exact h'
    | cons f fs => exact h.elim
  | cons e es ih =>
    cases fs with
    | nil => exact h.elim
    | cons f fs => exact ⟨h.1, ih h.2⟩

/-! ## calls in step -/

/-- corresponding leaves answer alike in related worlds, and leave related worlds -/
def Lockstep (L : α → β → Prop) (W : σ → τ → Prop) (call : Call α σ) (call' : Call β τ) : Prop :=
  ∀ a b w w', L a b → W w w' → (call a w).Alike L W (call' b w')

section
variable {L : α → β → Prop} {W : σ → τ → Prop} {call : Call α σ} {call' : Call β τ}

/-- a tree keeps in step with every tree it matches -/
def InStep (L : α → β → Prop) (W : σ → τ → Prop) (call : Call α σ) (call' : Call β τ)
    (e : Expr α) : Prop :=
  ∀ f w w', Matches L e f → W w w' →
    (e.evaluate call w).Alike (Matches L) W (f.evaluate call' w')

theorem evaluateUntil_lockstep (j : Junction) {es : List (Expr α)}
    (ih : ∀ e ∈ es, InStep L W call call' e) :
    ∀ (fs : List (Expr β)) (w : σ) (w' : τ), MatchesAll L es fs → W w w' →
      (evaluateUntil call j es w).Alike (MatchesAll L) W (evaluateUntil call' j fs w') := by
  induction es with
  | nil =>
    intro fs w w' hm hw
    cases fs with
    | nil => exact ⟨rfl, trivial, hw⟩
    | cons f fs => exact hm.elim
  | cons e es ihs =>
    intro fs w w' hm hw
    cases fs with
    | nil => exact hm.elim
    | cons f fs =>
      have h := ih e List.mem_cons_self f w w' hm.1 hw
      have hrest := ihs (fun e' he' => ih e' (List.mem_cons_of_mem _ he')) fs _ _ hm.2 h.world
      cases ha : (e.evaluate call w).answer with
      | error err =>
        rw [evaluateUntil_cons_of_error ha, evaluateUntil_cons_of_error (h.answer ▸ ha)]
        exact ⟨rfl, ⟨h.after, hm.2⟩, h.world⟩
      | ok v =>
        by_cases hv : v.isTruthy = j.identity
        · rw [evaluateUntil_cons_of_open ha hv, evaluateUntil_cons_of_open (h.answer ▸ ha) hv]
          exact ⟨hrest.answer, ⟨h.after, hrest.after⟩, hrest.world⟩
        · rw [evaluateUntil_cons_of_decided ha hv,
            evaluateUntil_cons_of_decided (h.answer ▸ ha) hv]
          exact ⟨rfl, ⟨h.after, hm.2⟩, h.world⟩

theorem evaluateOn_lockstep {es : List (Expr α)} (ih : ∀ e ∈ es, InStep L W call call' e) :
    ∀ (fs : List (Expr β)) (w : σ) (w' : τ), MatchesAll L es fs → W w w' →
      (evaluateOn call es w).Alike
        (fun p q => MatchesAll L p.1 q.1 ∧ MatchesAll L p.2 q.2) W (evaluateOn call' fs w') := by
  induction es with
  | nil =>
    intro fs w w' hm hw
    cases fs with
    | nil => exact ⟨rfl, ⟨trivial, trivial⟩, hw⟩
    | cons f fs => exact hm.elim
  | cons e es ihs =>
    intro fs w w' hm hw
    cases fs with
    | nil => exact hm.elim
    | cons f fs =>
      have h := ih e List.mem_cons_self f w w' hm.1 hw
      have hrest := ihs (fun e' he' => ih e' (List.mem_cons_of_mem _ he')) fs _ _ hm.2 h.world
      cases ha : (e.evaluate call w).answer with
      | error err =>
        rw [evaluateOn_cons_of_error ha, evaluateOn_cons_of_error (h.answer ▸ ha)]
        exact ⟨rfl, ⟨trivial, h.after, hm.2⟩, h.world⟩
      | ok v =>
        cases hv : v.isTruthy with
        | true =>
          rw [evaluateOn_cons_of_passed ha hv, evaluateOn_cons_of_passed (h.answer ▸ ha) hv]
          exact ⟨hrest.answer, ⟨⟨h.after, hrest.after.1⟩, hrest.after.2⟩, hrest.world⟩
        | false =>
          rw [evaluateOn_cons_of_stopped ha hv, evaluateOn_cons_of_stopped (h.answer ▸ ha) hv]
          exact ⟨rfl, ⟨trivial, h.after, hm.2⟩, h.world⟩

theorem evaluateAll_lockstep {es : List (Expr α)} (ih : ∀ e ∈ es, InStep L W call call' e) :
    ∀ (fs : List (Expr β)) (w : σ) (w' : τ), MatchesAll L es fs → W w w' →
      (evaluateAll call es w).Alike (MatchesAll L) W (evaluateAll call' fs w') := by
  induction es with
  | nil =>
    intro fs w w' hm hw
    cases fs with
    | nil => exact ⟨rfl, trivial, hw⟩
    | cons f fs => exact hm.elim
  | cons e es ihs =>
    intro fs w w' hm hw
    cases fs with
    | nil => exact hm.elim
    | cons f fs =>
      have h := ih e List.mem_cons_self f w w' hm.1 hw
      have hrest := ihs (fun e' he' => ih e' (List.mem_cons_of_mem _ he')) fs _ _ hm.2 h.world
      cases ha : (e.evaluate call w).answer with
      | error err =>
        rw [evaluateAll_cons_of_error ha, evaluateAll_cons_of_error (h.answer ▸ ha)]
        exact ⟨rfl, ⟨h.after, hm.2⟩, h.world⟩
      | ok v =>
        rw [evaluateAll_cons_of_ok ha, evaluateAll_cons_of_ok (h.answer ▸ ha)]
        exact ⟨by rw [hrest.answer], ⟨h.after, hrest.after⟩, hrest.world⟩

/-- **Lockstep**: corresponding trees answer alike in related worlds, and leave corresponding
trees and related worlds. -/
theorem evaluate_lockstep (h : Lockstep L W call call') (e : Expr α) :
    ∀ (f : Expr β) (w : σ) (w' : τ), Matches L e f → W w w' →
      (e.evaluate call w).Alike (Matches L) W (f.evaluate call' w') := by
  induction e with
  | value v =>
    intro f w w' hm hw
    cases f with
    | value v' => exact ⟨congrArg Except.ok hm, hm, hw⟩
    | _ => exact hm.elim
  | junction j operands ih =>
    intro f w w' hm hw
    cases f with
    | junction j' fs =>
      obtain ⟨rfl, hm'⟩ := hm
      have t := evaluateUntil_lockstep j ih fs w w' hm' hw
      rw [evaluate_junction, evaluate_junction]
      exact ⟨congrArg (Except.map _) t.answer, ⟨rfl, t.after⟩, t.world⟩
    | _ => exact hm.elim
  | not operand ih =>
    intro f w w' hm hw
    cases f with
    | not f =>
      have t := ih f w w' hm hw
      rw [evaluate_not, evaluate_not]
      exact ⟨congrArg (Except.map _) t.answer, t.after, t.world⟩
    | _ => exact hm.elim
  | leaf a =>
    intro f w w' hm hw
    cases f with
    | leaf b =>
      have t := h a b w w' hm hw
      rw [evaluate_leaf, evaluate_leaf]
      exact ⟨congrArg (Except.map _) t.answer, t.after, t.world⟩
    | _ => exact hm.elim
  | sequential passed pending _ ih =>
    intro f w w' hm hw
    cases f with
    | sequential passed' pending' =>
      have t := evaluateOn_lockstep ih pending' w w' hm.2 hw
      rw [evaluate_sequential, evaluate_sequential]
      exact ⟨congrArg (Except.map _) t.answer, ⟨hm.1.append t.after.1, t.after.2⟩, t.world⟩
    | _ => exact hm.elim
  | parallel policy children ih =>
    intro f w w' hm hw
    cases f with
    | parallel policy' fs =>
      obtain ⟨rfl, hm'⟩ := hm
      have t := evaluateAll_lockstep ih fs w w' hm' hw
      rw [evaluate_parallel, evaluate_parallel]
      exact ⟨congrArg (Except.map _) t.answer, ⟨rfl, t.after⟩, t.world⟩
    | _ => exact hm.elim

end

/-! ## one tree in two worlds -/

/-- equal leaves with a property -/
def Same (P : α → Prop) (a b : α) : Prop := a = b ∧ P a

section
variable {P : α → Prop}

theorem matchesAll_same_iff {es : List (Expr α)}
    (ih : ∀ e ∈ es, ∀ f, Matches (Same P) e f ↔ e = f ∧ ∀ a ∈ e.leaves, P a) :
    ∀ fs, MatchesAll (Same P) es fs ↔ es = fs ∧ ∀ a ∈ leavesOf es, P a := by
  induction es with
  | nil =>
    intro fs
    cases fs with
    | nil => simp [MatchesAll, leavesOf_nil]
    | cons f fs => simp [MatchesAll]
  | cons e es ihs =>
    intro fs
    cases fs with
    | nil => simp [MatchesAll]
    | cons f fs =>
      rw [MatchesAll, ih e List.mem_cons_self, ihs fun e' he' => ih e' (List.mem_cons_of_mem _ he'),
        leavesOf_cons, List.forall_mem_append, List.cons.injEq]
      exact and_and_and_comm

/-- a tree matches itself alone, if its leaves have the property -/
theorem matches_same_iff (e : Expr α) :
    ∀ f, Matches (Same P) e f ↔ e = f ∧ ∀ a ∈ e.leaves, P a := by
  induction e with
  | value v =>
    intro f
    cases f <;> simp [Matches, leaves]
  | junction j operands ih =>
    intro f
    cases f <;> simp [Matches, leaves, matchesAll_same_iff ih, and_assoc]
  | not operand ih =>
    intro f
    cases f <;> simp [Matches, leaves, ih]
  | leaf a =>
    intro f
    cases f <;> simp [Matches, leaves, Same]
  | sequential passed pending ihp ihq =>
    intro f
    cases f with
    | sequential passed' pending' =>
      rw [Matches, matchesAll_same_iff ihp, matchesAll_same_iff ihq, leaves,
        List.forall_mem_append, sequential.injEq]
      exact and_and_and_comm
    | _ => simp [Matches]
  | parallel policy children ih =>
    intro f
    cases f <;> simp [Matches, leaves, matchesAll_same_iff ih, and_assoc]

/-- one tree evaluated in two worlds by two calls that agree on its leaves -/
theorem evaluate_agree {W : σ → τ → Prop} {call : Call α σ} {call' : Call α τ}
    (h : ∀ a w w', P a → W w w' → (call a w).Alike (Same P) W (call' a w'))
    {e : Expr α} (he : ∀ a ∈ e.leaves, P a) {w : σ} {w' : τ} (hw : W w w') :
    (e.evaluate call w).Alike (fun f f' => f = f' ∧ ∀ a ∈ f.leaves, P a) W
      (e.evaluate call' w') := by
  have step : Lockstep (Same P) W call call' := by
    rintro a b w w' ⟨rfl, ha⟩ hw
    exact h a w w' ha hw
  have t := evaluate_lockstep step e e w w' ((matches_same_iff e e).mpr ⟨rfl, he⟩) hw
  exact ⟨t.answer, (matches_same_iff _ _).mp t.after, t.world⟩

/-- one tree evaluated by two calls that never differ -/
theorem evaluate_alike {W : σ → τ → Prop} {call : Call α σ} {call' : Call α τ}
    (h : ∀ a w w', W w w' → (call a w).Alike Eq W (call' a w')) (e : Expr α) {w : σ} {w' : τ}
    (hw : W w w') : (e.evaluate call w).Alike Eq W (e.evaluate call' w') := by
  have alike : ∀ a w w', True → W w w' →
      (call a w).Alike (Same fun _ => True) W (call' a w') := by
    intro a w w' _ hw
    have t := h a w w' hw
    exact ⟨t.answer, ⟨t.after, trivial⟩, t.world⟩
  have t := evaluate_agree alike (e := e) (fun _ _ => trivial) hw
  exact ⟨t.answer, t.after.1, t.world⟩

/-- what every call keeps of its leaf and of the world, a tick keeps of the tree and the world -/
theorem evaluate_keeps {I : σ → Prop} {call : Call α σ}
    (h : ∀ a w, P a → I w → P (call a w).after ∧ I (call a w).world)
    {e : Expr α} (he : ∀ a ∈ e.leaves, P a) {w : σ} (hw : I w) :
    (∀ a ∈ (e.evaluate call w).after.leaves, P a) ∧ I (e.evaluate call w).world := by
  have alike : ∀ a w w', P a → Same I w w' → (call a w).Alike (Same P) (Same I) (call a w') := by
    rintro a w w' ha ⟨rfl, hw⟩
    obtain ⟨hafter, hworld⟩ := h a w ha hw
    exact ⟨rfl, ⟨rfl, hafter⟩, rfl, hworld⟩
  have t := evaluate_agree alike he (⟨rfl, hw⟩ : Same I w w)
  exact ⟨t.after.2, t.world.2⟩

end

end Expr

end SignalScript
