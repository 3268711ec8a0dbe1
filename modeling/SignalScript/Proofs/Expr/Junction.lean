import SignalScript.Proofs.Expr.Calls

/-!
# Other ways to write a junction

A junction is decided by its first operand that differs from its identity, and an error ends it.
Negation carries identity to identity, and a junction inside a junction of its kind has the same
identity; so the operands of both ways of writing are evaluated one by one up to the same place.

* `Expr.Inseparable`            a relation of trees that no tick can tell apart;
* `Expr.Inseparable.run`        then no run can, and both call the same leaves;
* `Expr.evaluateUntil_negated`  negated operands of the dual junction;
* `Expr.negation_distributes`   a negated junction is the dual junction of the negations;
* `Expr.evaluateUntil_grouped`  operands gathered in a junction of their own;
* `Expr.junction_flattens`      a junction inside a junction of its kind might as well be spread out.
-/

namespace SignalScript

namespace Junction

/-- and for or, or for and -/
def dual : Junction → Junction
  | .and => .or
  | .or => .and

theorem identity_dual (j : Junction) : j.dual.identity = !j.identity := by
  cases j <;> rfl

end Junction

namespace Expr

variable {α σ : Type}

/-! ## trees that no tick can tell apart -/

/-- a tree and its world after a run in which the world changes before each tick -/
def afterRun (call : Call α σ) (e : Expr α) (world : σ) (changes : List (σ → σ)) : Expr α × σ :=
  changes.foldl (fun state change =>
    let turn := state.1.evaluate call (change state.2)
    (turn.after, turn.world)) (e, world)

theorem afterRun_cons (call : Call α σ) (e : Expr α) (world : σ) (change : σ → σ)
    (changes : List (σ → σ)) :
    afterRun call e world (change :: changes) =
      afterRun call (e.evaluate call (change world)).after (e.evaluate call (change world)).world
        changes := rfl

/-- whatever the leaves are, and in any world, a tick of related trees gives one answer and one
world, and leaves them related -/
structure Inseparable (R : Expr α → Expr α → Prop) : Prop where
  step : ∀ {σ : Type} (call : Call α σ) (e f : Expr α) (world : σ), R e f →
    (e.evaluate call world).Alike R Eq (f.evaluate call world)

namespace Inseparable

variable {R : Expr α → Expr α → Prop} {e f : Expr α}

/-- writing calls down makes no difference, so the two call the same leaves in the same order -/
theorem called (h : Inseparable R) (call : Call α σ) (he : R e f) (world : σ) :
    e.called call world = f.called call world :=
  congrArg Prod.snd (h.step call.journaled e f (world, []) he).world

theorem afterRun (h : Inseparable R) (call : Call α σ) (changes : List (σ → σ)) (he : R e f)
    (world : σ) :
    R (afterRun call e world changes).1 (afterRun call f world changes).1 ∧
      (Expr.afterRun call e world changes).2 = (Expr.afterRun call f world changes).2 := by
  induction changes generalizing e f world with
  | nil => exact ⟨he, rfl⟩
  | cons change changes ih =>
    have t := h.step call e f (change world) he
    rw [afterRun_cons, afterRun_cons, t.world]
    exact ih t.after _

/-- **No run can tell them apart**: after runs under the same changes from outside, a further tick
goes alike and calls alike. -/
theorem run (h : Inseparable R) (call : Call α σ) (he : R e f) (world : σ)
    (changes : List (σ → σ)) (change : σ → σ) :
    let left := Expr.afterRun call e world changes
    let right := Expr.afterRun call f world changes
    (left.1.evaluate call (change left.2)).Alike R Eq (right.1.evaluate call (change right.2)) ∧
      left.1.called call (change left.2) = right.1.called call (change right.2) := by
  intro left right
  obtain ⟨hrelated, hworld⟩ := h.afterRun call changes he world
  have hworld' : left.2 = right.2 := hworld
  rw [hworld']
  exact ⟨h.step call _ _ _ hrelated, h.called call hrelated _⟩

end Inseparable

/-! ## negations -/

/-- the negation of a junction, and the dual junction of the negations of its operands -/
def Negated (j : Junction) (outside inside : Expr α) : Prop :=
  ∃ operands, outside = .not (.junction j operands) ∧
    inside = .junction j.dual (operands.map .not)

/-- the negation of an answer that agrees with the identity agrees with the dual identity -/
theorem evaluateUntil_negated (call : Call α σ) (j : Junction) (es : List (Expr α)) :
    ∀ world, evaluateUntil call j.dual (es.map .not) world =
      ⟨(evaluateUntil call j es world).answer.map (!·),
        (evaluateUntil call j es world).after.map .not, (evaluateUntil call j es world).world⟩ := by
  induction es with
  | nil =>
    intro world
    rw [List.map_nil, evaluateUntil_nil, evaluateUntil_nil, j.identity_dual]
    rfl
  | cons e es ih =>
    intro world
    cases ha : (e.evaluate call world).answer with
    | error error =>
      have ha' : ((Expr.not e).evaluate call world).answer = .error error := by
        rw [evaluate_not, ha]
        rfl
      rw [List.map_cons, evaluateUntil_cons_of_error ha', evaluateUntil_cons_of_error ha]
      rfl
    | ok v =>
      have ha' : ((Expr.not e).evaluate call world).answer = .ok (.bool !v.isTruthy) := by
        rw [evaluate_not, ha]
        rfl
      by_cases hv : v.isTruthy = j.identity
      · have hv' : (Value.bool !v.isTruthy).isTruthy = j.dual.identity := by
          rw [Value.isTruthy_bool, hv, j.identity_dual]
        rw [List.map_cons, evaluateUntil_cons_of_open ha' hv', evaluateUntil_cons_of_open ha hv,
          evaluate_not, ih]
        rfl
      · have hv' : (Value.bool !v.isTruthy).isTruthy ≠ j.dual.identity := by
          rw [Value.isTruthy_bool, j.identity_dual]
          exact fun h => hv (Bool.not_inj h)
        rw [List.map_cons, evaluateUntil_cons_of_decided ha' hv',
          evaluateUntil_cons_of_decided ha hv, j.identity_dual]
        rfl

theorem negated_inseparable (j : Junction) :
    Inseparable (Negated j : Expr α → Expr α → Prop) := by
  refine ⟨?_⟩
  rintro σ call _ _ world ⟨operands, rfl, rfl⟩
  rw [evaluate_not, evaluate_junction, evaluate_junction, evaluateUntil_negated]
  refine ⟨?_, ⟨_, rfl, rfl⟩, rfl⟩
  cases (evaluateUntil call j operands world).answer <;> rfl

/-- **Negation distributes over a junction**, effects included: with any operands, at any point of
any run, the negation of a junction and the dual junction of the negations have the same answer or
the same error, call the same leaves in the same order, leave the same world, and leave the same
operands with their cursors and leaves. -/
theorem negation_distributes (call : Call α σ) (j : Junction) (operands : List (Expr α))
    (world : σ) (changes : List (σ → σ)) (change : σ → σ) :
    let outside := afterRun call (.not (.junction j operands)) world changes
    let inside := afterRun call (.junction j.dual (operands.map .not)) world changes
    (outside.1.evaluate call (change outside.2)).Alike (Negated j) Eq
        (inside.1.evaluate call (change inside.2)) ∧
      outside.1.called call (change outside.2) = inside.1.called call (change inside.2) :=
  (negated_inseparable j).run call ⟨operands, rfl, rfl⟩ world changes change

/-! ## junctions inside junctions -/

section
variable {call : Call α σ} {j : Junction} {es : List (Expr α)} {world : σ}

/-- operands that leave the junction open make way for those behind them -/
theorem evaluateUntil_append_of_open
    (h : (evaluateUntil call j es world).answer = .ok j.identity) (fs : List (Expr α)) :
    evaluateUntil call j (es ++ fs) world =
      ⟨(evaluateUntil call j fs (evaluateUntil call j es world).world).answer,
        (evaluateUntil call j es world).after ++
          (evaluateUntil call j fs (evaluateUntil call j es world).world).after,
        (evaluateUntil call j fs (evaluateUntil call j es world).world).world⟩ := by
  induction es generalizing world with
  | nil => rfl
  | cons e es ih =>
    cases ha : (e.evaluate call world).answer with
    | error error =>
      rw [evaluateUntil_cons_of_error ha] at h
      exact nomatch h
    | ok v =>
      by_cases hv : v.isTruthy = j.identity
      · rw [evaluateUntil_cons_of_open ha hv] at h
        rw [List.cons_append, evaluateUntil_cons_of_open ha hv, evaluateUntil_cons_of_open ha hv,
          ih h]
        rfl
      · rw [evaluateUntil_cons_of_decided ha hv] at h
        exact ((Bool.not_eq_self j.identity).mp (Except.ok.inj h)).elim

/-- otherwise those behind them are not reached -/
theorem evaluateUntil_append_of_decided
    (h : (evaluateUntil call j es world).answer ≠ .ok j.identity) (fs : List (Expr α)) :
    evaluateUntil call j (es ++ fs) world =
      ⟨(evaluateUntil call j es world).answer, (evaluateUntil call j es world).after ++ fs,
        (evaluateUntil call j es world).world⟩ := by
  induction es generalizing world with
  | nil => exact absurd rfl h
  | cons e es ih =>
    cases ha : (e.evaluate call world).answer with
    | error error =>
      rw [List.cons_append, evaluateUntil_cons_of_error ha, evaluateUntil_cons_of_error ha]
      rfl
    | ok v =>
      by_cases hv : v.isTruthy = j.identity
      · rw [evaluateUntil_cons_of_open ha hv] at h
        rw [List.cons_append, evaluateUntil_cons_of_open ha hv, evaluateUntil_cons_of_open ha hv,
          ih h]
        rfl
      · rw [List.cons_append, evaluateUntil_cons_of_decided ha hv,
          evaluateUntil_cons_of_decided ha hv]
        rfl

/-- the inner junction is open just when its operands leave the outer one open -/
theorem evaluateUntil_junction_of_open
    (h : (evaluateUntil call j es world).answer = .ok j.identity) (fs : List (Expr α)) :
    evaluateUntil call j (.junction j es :: fs) world =
      ⟨(evaluateUntil call j fs (evaluateUntil call j es world).world).answer,
        .junction j (evaluateUntil call j es world).after ::
          (evaluateUntil call j fs (evaluateUntil call j es world).world).after,
        (evaluateUntil call j fs (evaluateUntil call j es world).world).world⟩ := by
  have ha : ((Expr.junction j es).evaluate call world).answer = .ok (.bool j.identity) := by
    rw [evaluate_junction, h]
    rfl
  rw [evaluateUntil_cons_of_open ha rfl, evaluate_junction]

/-- and when they decide it or fail, the inner junction does -/
theorem evaluateUntil_junction_of_decided
    (h : (evaluateUntil call j es world).answer ≠ .ok j.identity) (fs : List (Expr α)) :
    evaluateUntil call j (.junction j es :: fs) world =
      ⟨(evaluateUntil call j es world).answer,
        .junction j (evaluateUntil call j es world).after :: fs,
        (evaluateUntil call j es world).world⟩ := by
  cases ha : (evaluateUntil call j es world).answer with
  | error error =>
    have he : ((Expr.junction j es).evaluate call world).answer = .error error := by
      rw [evaluate_junction, ha]
      rfl
    rw [evaluateUntil_cons_of_error he, evaluate_junction]
  | ok b =>
    have hb : b ≠ j.identity := fun heq => h (heq ▸ ha)
    have he : ((Expr.junction j es).evaluate call world).answer = .ok (.bool b) := by
      rw [evaluate_junction, ha]
      rfl
    rw [evaluateUntil_cons_of_decided he hb, evaluate_junction, Bool.eq_not_of_ne hb]

end

/-- a tick does not change how many operands there are -/
theorem length_evaluateUntil (call : Call α σ) (j : Junction) (es : List (Expr α)) (world : σ) :
    (evaluateUntil call j es world).after.length = es.length :=
  (sweep_until call j es world).length_eq

/-- operands that stand in a junction of their own in front of others are evaluated as if they stood
there themselves -/
theorem evaluateUntil_grouped (call : Call α σ) (j : Junction) (ys zs : List (Expr α))
    (world : σ) :
    (evaluateUntil call j (.junction j ys :: zs) world).Alike
      (fun nested flat => ∃ ys' zs', ys'.length = ys.length ∧ zs'.length = zs.length ∧
        nested = .junction j ys' :: zs' ∧ flat = ys' ++ zs') Eq
      (evaluateUntil call j (ys ++ zs) world) := by
  by_cases h : (evaluateUntil call j ys world).answer = .ok j.identity
  · rw [evaluateUntil_junction_of_open h, evaluateUntil_append_of_open h]
    exact ⟨rfl, ⟨_, _, length_evaluateUntil call j ys world, length_evaluateUntil call j zs _, rfl,
      rfl⟩, rfl⟩
  · rw [evaluateUntil_junction_of_decided h, evaluateUntil_append_of_decided h]
    exact ⟨rfl, ⟨_, zs, length_evaluateUntil call j ys world, rfl, rfl, rfl⟩, rfl⟩

/-- a junction with some of its operands gathered in a junction of its kind, and the junction of
all of them in a row; so many stand in front of the inner junction, in it and behind it -/
def Regrouped (j : Junction) (front inner back : Nat) (nested flat : Expr α) : Prop :=
  ∃ xs ys zs, xs.length = front ∧ ys.length = inner ∧ zs.length = back ∧
    nested = .junction j (xs ++ [.junction j ys] ++ zs) ∧ flat = .junction j (xs ++ ys ++ zs)

theorem regrouped_inseparable (j : Junction) (front inner back : Nat) :
    Inseparable (Regrouped j front inner back : Expr α → Expr α → Prop) := by
  refine ⟨?_⟩
  rintro σ call _ _ world ⟨xs, ys, zs, rfl, rfl, rfl, rfl, rfl⟩
  rw [evaluate_junction, evaluate_junction, List.append_assoc, List.singleton_append,
    List.append_assoc]
  by_cases h : (evaluateUntil call j xs world).answer = .ok j.identity
  · -- the tick comes to the inner junction
    rw [evaluateUntil_append_of_open h, evaluateUntil_append_of_open h]
    obtain ⟨hanswer, ⟨ys', zs', hys, hzs, hnested, hflat⟩, hworld⟩ :=
      evaluateUntil_grouped call j ys zs (evaluateUntil call j xs world).world
    refine ⟨congrArg (Except.map _) hanswer, ?_, hworld⟩
    refine ⟨_, ys', zs', length_evaluateUntil call j xs world, hys, hzs, ?_, ?_⟩
    · rw [hnested, List.append_assoc, List.singleton_append]
    · rw [hflat, List.append_assoc]
  · rw [evaluateUntil_append_of_decided h, evaluateUntil_append_of_decided h]
    refine ⟨rfl, ⟨_, ys, zs, length_evaluateUntil call j xs world, rfl, rfl, ?_, ?_⟩, rfl⟩
    · rw [List.append_assoc, List.singleton_append]
    · rw [List.append_assoc]

/-- **A junction inside a junction of its kind might as well be spread out**, effects included: with
any operands, at any point of any run, the two have the same answer or the same error, call the same
leaves in the same order, leave the same world, and leave the same operands with their cursors and
leaves. -/
theorem junction_flattens (call : Call α σ) (j : Junction) (xs ys zs : List (Expr α))
    (world : σ) (changes : List (σ → σ)) (change : σ → σ) :
    let nested := afterRun call (.junction j (xs ++ [.junction j ys] ++ zs)) world changes
    let flat := afterRun call (.junction j (xs ++ ys ++ zs)) world changes
    (nested.1.evaluate call (change nested.2)).Alike (Regrouped j xs.length ys.length zs.length) Eq
        (flat.1.evaluate call (change flat.2)) ∧
      nested.1.called call (change nested.2) = flat.1.called call (change flat.2) :=
  (regrouped_inseparable j xs.length ys.length zs.length).run call
    ⟨xs, ys, zs, rfl, rfl, rfl, rfl, rfl⟩ world changes change

end Expr

end SignalScript
