import SignalScript.Proofs.Expr.Journal

/-!
# A sequence inside a sequence

Whoever drives a sequential expression cannot tell whether some of its children are gathered in a
sequential expression of their own: an inner sequence passes in the tick in which its last child
does, and the outer one goes on in the same tick.

* `Expr.Spliced`      how far the nested and the flat sequence are, at any time of a run;
* `Expr.Spliced.step` one tick keeps them together;
* `Expr.sights_nested`  the two runs look the same.
-/

namespace SignalScript

namespace Expr

variable {α σ : Type}

/-! ## children behind other children -/

section
variable {call : Call α σ} {es : List (Expr α)} {world : σ}

/-- children that all pass leave none behind -/
theorem pending_of_passed (h : (evaluateOn call es world).answer = .ok true) :
    (evaluateOn call es world).after.2 = [] := by
  induction es generalizing world with
  | nil => rfl
  | cons e es ih =>
    cases ha : (e.evaluate call world).answer with
    | error error =>
      rw [evaluateOn_cons_of_error ha] at h
      exact nomatch h
    | ok v =>
      cases hv : v.isTruthy with
      | true =>
        rw [evaluateOn_cons_of_passed ha hv] at h ⊢
        exact ih h
      | false =>
        rw [evaluateOn_cons_of_stopped ha hv] at h
        exact nomatch h

/-- when the first children all pass, the tick goes on with the others -/
theorem evaluateOn_append_of_passed (h : (evaluateOn call es world).answer = .ok true)
    (fs : List (Expr α)) :
    evaluateOn call (es ++ fs) world =
      ⟨(evaluateOn call fs (evaluateOn call es world).world).answer,
        ((evaluateOn call es world).after.1 ++
            (evaluateOn call fs (evaluateOn call es world).world).after.1,
          (evaluateOn call fs (evaluateOn call es world).world).after.2),
        (evaluateOn call fs (evaluateOn call es world).world).world⟩ := by
  induction es generalizing world with
  | nil => rfl
  | cons e es ih =>
    cases ha : (e.evaluate call world).answer with
    | error error =>
      rw [evaluateOn_cons_of_error ha] at h
      exact nomatch h
    | ok v =>
      cases hv : v.isTruthy with
      | true =>
        rw [evaluateOn_cons_of_passed ha hv] at h
        rw [List.cons_append, evaluateOn_cons_of_passed ha hv, evaluateOn_cons_of_passed ha hv,
          ih h]
        rfl
      | false =>
        rw [evaluateOn_cons_of_stopped ha hv] at h
        exact nomatch h

/-- otherwise the others are not reached -/
theorem evaluateOn_append_of_held (h : (evaluateOn call es world).answer ≠ .ok true)
    (fs : List (Expr α)) :
    evaluateOn call (es ++ fs) world =
      ⟨(evaluateOn call es world).answer,
        ((evaluateOn call es world).after.1, (evaluateOn call es world).after.2 ++ fs),
        (evaluateOn call es world).world⟩ := by
  induction es generalizing world with
  | nil => exact absurd rfl h
  | cons e es ih =>
    cases ha : (e.evaluate call world).answer with
    | error error =>
      rw [List.cons_append, evaluateOn_cons_of_error ha, evaluateOn_cons_of_error ha]
      rfl
    | ok v =>
      cases hv : v.isTruthy with
      | true =>
        rw [evaluateOn_cons_of_passed ha hv] at h
        rw [List.cons_append, evaluateOn_cons_of_passed ha hv, evaluateOn_cons_of_passed ha hv,
          ih h]
      | false =>
        rw [List.cons_append, evaluateOn_cons_of_stopped ha hv, evaluateOn_cons_of_stopped ha hv]
        rfl

/-- a sequence that completes makes way for the trees behind it in the same tick -/
theorem evaluateOn_sequential_of_passed (h : (evaluateOn call es world).answer = .ok true)
    (passed fs : List (Expr α)) :
    evaluateOn call (.sequential passed es :: fs) world =
      ⟨(evaluateOn call fs (evaluateOn call es world).world).answer,
        (.sequential (passed ++ (evaluateOn call es world).after.1) [] ::
            (evaluateOn call fs (evaluateOn call es world).world).after.1,
          (evaluateOn call fs (evaluateOn call es world).world).after.2),
        (evaluateOn call fs (evaluateOn call es world).world).world⟩ := by
  have ha : ((Expr.sequential passed es).evaluate call world).answer = .ok (.bool true) := by
    rw [evaluate_sequential, h]
    rfl
  rw [evaluateOn_cons_of_passed ha rfl, evaluate_sequential, pending_of_passed h]

/-- one that does not complete holds them up -/
theorem evaluateOn_sequential_of_held (h : (evaluateOn call es world).answer ≠ .ok true)
    (passed fs : List (Expr α)) :
    evaluateOn call (.sequential passed es :: fs) world =
      ⟨(evaluateOn call es world).answer,
        ([], .sequential (passed ++ (evaluateOn call es world).after.1)
          (evaluateOn call es world).after.2 :: fs),
        (evaluateOn call es world).world⟩ := by
  cases ha : (evaluateOn call es world).answer with
  | error error =>
    have he : ((Expr.sequential passed es).evaluate call world).answer = .error error := by
      rw [evaluate_sequential, ha]
      rfl
    rw [evaluateOn_cons_of_error he, evaluate_sequential]
  | ok b =>
    cases b with
    | true => exact absurd ha h
    | false =>
      have he : ((Expr.sequential passed es).evaluate call world).answer = .ok (.bool false) := by
        rw [evaluate_sequential, ha]
        rfl
      rw [evaluateOn_cons_of_stopped he rfl, evaluate_sequential]

end

/-! ## the nested and the flat sequence side by side -/

/-- a sequence with an inner sequence, and one with the children of both in a row: the tick is in
front of the inner sequence, inside it, or behind it -/
inductive Spliced : Expr α → Expr α → Prop where
  | before (passed pending ys zs : List (Expr α)) :
    Spliced (.sequential passed (pending ++ .sequential [] ys :: zs))
      (.sequential passed (pending ++ (ys ++ zs)))
  | inside (xs passed pending zs : List (Expr α)) :
    Spliced (.sequential xs (.sequential passed pending :: zs))
      (.sequential (xs ++ passed) (pending ++ zs))
  | behind (xs ys passed pending : List (Expr α)) :
    Spliced (.sequential (xs ++ .sequential ys [] :: passed) pending)
      (.sequential (xs ++ (ys ++ passed)) pending)

namespace Spliced

/-- the two have the same leaves in the same order -/
theorem leaves_eq {e f : Expr α} (h : Spliced e f) : e.leaves = f.leaves := by
  cases h with
  | before => simp [leaves, leavesOf_append, leavesOf_cons, leavesOf_nil]
  | inside => simp [leaves, leavesOf_append, leavesOf_cons]
  | behind => simp [leaves, leavesOf_append, leavesOf_cons, leavesOf_nil]

/-- inside the inner sequence: it may hold up the tick, or complete in it -/
theorem step_inside (call : Call α σ) (xs passed pending zs : List (Expr α)) (world : σ) :
    ((Expr.sequential xs (.sequential passed pending :: zs)).evaluate call world).Alike Spliced Eq
      ((Expr.sequential (xs ++ passed) (pending ++ zs)).evaluate call world) := by
  rw [evaluate_sequential, evaluate_sequential]
  by_cases h : (evaluateOn call pending world).answer = .ok true
  · rw [evaluateOn_sequential_of_passed h, evaluateOn_append_of_passed h]
    refine ⟨rfl, ?_, rfl⟩
    rw [List.append_assoc xs, ← List.append_assoc passed]
    exact .behind xs _ _ _
  · rw [evaluateOn_sequential_of_held h, evaluateOn_append_of_held h]
    refine ⟨rfl, ?_, rfl⟩
    rw [List.append_nil, List.append_assoc xs]
    exact .inside xs _ _ zs

/-- in front of it: when the children there pass, the tick enters the inner sequence -/
theorem step_before (call : Call α σ) (passed pending ys zs : List (Expr α)) (world : σ) :
    ((Expr.sequential passed (pending ++ .sequential [] ys :: zs)).evaluate call world).Alike
      Spliced Eq ((Expr.sequential passed (pending ++ (ys ++ zs))).evaluate call world) := by
  by_cases h : (evaluateOn call pending world).answer = .ok true
  · -- the tick comes to the inner sequence, which has not started yet
    have hinside := step_inside call (passed ++ (evaluateOn call pending world).after.1) [] ys zs
      (evaluateOn call pending world).world
    rw [List.append_nil, evaluate_sequential, evaluate_sequential, List.append_assoc,
      List.append_assoc] at hinside
    rw [evaluate_sequential, evaluate_sequential, evaluateOn_append_of_passed h,
      evaluateOn_append_of_passed h]
    exact hinside
  · rw [evaluate_sequential, evaluate_sequential, evaluateOn_append_of_held h,
      evaluateOn_append_of_held h]
    exact ⟨rfl, .before _ _ ys zs, rfl⟩

/-- **One tick keeps the two together**: one answer, one world, and they are still spliced. -/
theorem step {e f : Expr α} (h : Spliced e f) (call : Call α σ) (world : σ) :
    (e.evaluate call world).Alike Spliced Eq (f.evaluate call world) := by
  cases h with
  | before passed pending ys zs => exact step_before call passed pending ys zs world
  | inside xs passed pending zs => exact step_inside call xs passed pending zs world
  | behind xs ys passed pending =>
    rw [evaluate_sequential, evaluate_sequential]
    refine ⟨rfl, ?_, rfl⟩
    rw [List.append_assoc xs, List.append_assoc xs, List.cons_append, List.append_assoc ys]
    exact .behind xs ys _ _

/-- the calls that are written down in a tick are the same as well -/
theorem sights_eq {e f : Expr α} (h : Spliced e f) (call : Call α σ) (world : σ)
    (changes : List (σ → σ)) : sights call e world changes = sights call f world changes := by
  induction changes generalizing e f world with
  | nil => rfl
  | cons change changes ih =>
    have ht := h.step call (change world)
    have hj := h.step call.journaled (change world, [])
    rw [sights, sights, ht.answer, hj.world, ht.after.leaves_eq, ht.world, ih ht.after]

end Spliced

/-- **Gathering children in a sequence of their own cannot be seen**: with any leaves, in any world
and under any changes of it from outside, the nested and the flat sequence answer alike at every
tick, call the same leaves in the same order, and leave the same leaves and the same world. -/
theorem sights_nested (call : Call α σ) (xs ys zs : List (Expr α)) (world : σ)
    (changes : List (σ → σ)) :
    sights call (.sequential [] (xs ++ [.sequential [] ys] ++ zs)) world changes =
      sights call (.sequential [] (xs ++ ys ++ zs)) world changes := by
  have h := Spliced.before [] xs ys zs
  rw [← List.append_assoc] at h
  rw [List.append_assoc, List.singleton_append]
  exact h.sights_eq call world changes

end Expr

end SignalScript
