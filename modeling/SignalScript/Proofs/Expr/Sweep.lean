import SignalScript.Proofs.Expr.Sequence

/-!
# Trees evaluated one after the other

A junction, a sequence and parallel children have one thing in common: the first trees of a list
have one tick each, every one in the world that the tree in front of it has left, and the trees
behind them are not touched. So what every tick keeps, the list keeps.

* `Expr.Sweep`                 the first trees of a list have a tick each;
* `Expr.sweep_until`, `Expr.sweep_on`, `Expr.sweep_all`  the three kinds of children;
* `Expr.exists_leaf_of_error`  an error of a tree is the answer of one of its leaves;
* `Expr.shape_evaluate`        a tick keeps the shape of a tree, if the calls keep what it shows;
* `Expr.Decides`               a tree that answers with booleans only.
-/

namespace SignalScript

/-- the error that an answer is, if it is one -/
def fault? {β : Type} : Except EvaluationError β → Option EvaluationError
  | .ok _ => none
  | .error error => some error

theorem fault?_map {β γ : Type} (f : β → γ) (x : Except EvaluationError β) :
    fault? (x.map f) = fault? x := by
  cases x <;> rfl

theorem fault?_eq_some_iff {β : Type} {x : Except EvaluationError β} {error : EvaluationError} :
    fault? x = some error ↔ x = .error error := by
  cases x with
  | ok b => exact ⟨nofun, nofun⟩
  | error _ => exact ⟨fun h => congrArg _ (Option.some.inj h), fun h => by rw [h]; rfl⟩

namespace Expr

variable {α β σ : Type}

/-! ## sweeps -/

/-- the first trees of a list have one tick each, up to some tree or to one that fails; what
becomes of the list, and the error it ended with -/
inductive Sweep (call : Call α σ) :
    List (Expr α) → σ → Option EvaluationError → List (Expr α) → σ → Prop where
  | stop (es : List (Expr α)) (world : σ) : Sweep call es world none es world
  | fault {e : Expr α} {world : σ} {error : EvaluationError}
    (h : (e.evaluate call world).answer = .error error) (rest : List (Expr α)) :
    Sweep call (e :: rest) world (some error) ((e.evaluate call world).after :: rest)
      (e.evaluate call world).world
  | next {e : Expr α} {world world' : σ} {v : Value} {es fs : List (Expr α)}
    {fault : Option EvaluationError} (h : (e.evaluate call world).answer = .ok v)
    (hrest : Sweep call es (e.evaluate call world).world fault fs world') :
    Sweep call (e :: es) world fault ((e.evaluate call world).after :: fs) world'

section
variable (call : Call α σ)

/-- a sweep of one tree, when that tree ends it with an answer -/
theorem Sweep.single {call : Call α σ} {e : Expr α} {world : σ} {v : Value}
    (h : (e.evaluate call world).answer = .ok v) (rest : List (Expr α)) :
    Sweep call (e :: rest) world none ((e.evaluate call world).after :: rest)
      (e.evaluate call world).world :=
  .next h (.stop rest _)

theorem Sweep.length_eq {call : Call α σ} {es fs : List (Expr α)} {world world' : σ}
    {fault : Option EvaluationError} (h : Sweep call es world fault fs world') :
    fs.length = es.length := by
  induction h with
  | stop es world => rfl
  | fault _ rest => rfl
  | next _ _ ih => rw [List.length_cons, List.length_cons, ih]

theorem sweep_until (j : Junction) (es : List (Expr α)) :
    ∀ world, Sweep call es world (fault? (evaluateUntil call j es world).answer)
      (evaluateUntil call j es world).after (evaluateUntil call j es world).world := by
  induction es with
  | nil => exact fun world => .stop [] world
  | cons e es ih =>
    intro world
    cases ha : (e.evaluate call world).answer with
    | error error =>
      rw [evaluateUntil_cons_of_error ha]
      exact .fault ha es
    | ok v =>
      by_cases hv : v.isTruthy = j.identity
      · rw [evaluateUntil_cons_of_open ha hv]
        exact .next ha (ih _)
      · rw [evaluateUntil_cons_of_decided ha hv]
        exact .single ha es

theorem sweep_on (es : List (Expr α)) :
    ∀ world, Sweep call es world (fault? (evaluateOn call es world).answer)
      ((evaluateOn call es world).after.1 ++ (evaluateOn call es world).after.2)
      (evaluateOn call es world).world := by
  induction es with
  | nil => exact fun world => .stop [] world
  | cons e es ih =>
    intro world
    cases ha : (e.evaluate call world).answer with
    | error error =>
      rw [evaluateOn_cons_of_error ha]
      exact .fault ha es
    | ok v =>
      cases hv : v.isTruthy with
      | true =>
        rw [evaluateOn_cons_of_passed ha hv]
        exact .next ha (ih _)
      | false =>
        rw [evaluateOn_cons_of_stopped ha hv]
        exact .single ha es

theorem sweep_all (es : List (Expr α)) :
    ∀ world, Sweep call es world (fault? (evaluateAll call es world).answer)
      (evaluateAll call es world).after (evaluateAll call es world).world := by
  induction es with
  | nil => exact fun world => .stop [] world
  | cons e es ih =>
    intro world
    cases ha : (e.evaluate call world).answer with
    | error error =>
      rw [evaluateAll_cons_of_error ha]
      exact .fault ha es
    | ok v =>
      rw [evaluateAll_cons_of_ok ha, fault?_map]
      exact .next ha (ih _)

end

/-! ## errors -/

section
variable {call : Call α σ}

/-- an error of a tree, in any world, is the answer of one of its leaves -/
def Blames (call : Call α σ) (e : Expr α) : Prop :=
  ∀ world error, (e.evaluate call world).answer = .error error →
    ∃ a ∈ e.leaves, ∃ world', (call a world').answer = .error error

theorem Sweep.exists_leaf {es fs : List (Expr α)} {world world' : σ}
    {fault : Option EvaluationError} (h : Sweep call es world fault fs world')
    (ih : ∀ e ∈ es, e.Blames call) {error : EvaluationError} (hfault : fault = some error) :
    ∃ a ∈ leavesOf es, ∃ world', (call a world').answer = .error error := by
  induction h with
  | stop es world => exact nomatch hfault
  | fault herror rest =>
    obtain ⟨a, ha, hcall⟩ := ih _ List.mem_cons_self _ _ herror
    rw [← Option.some.inj hfault, leavesOf_cons]
    exact ⟨a, List.mem_append_left _ ha, hcall⟩
  | next _ _ ihs =>
    obtain ⟨a, ha, hcall⟩ := ihs (fun e he => ih e (List.mem_cons_of_mem _ he)) hfault
    rw [leavesOf_cons]
    exact ⟨a, List.mem_append_right _ ha, hcall⟩

/-- **Errors come from leaves**: nothing but a leaf fails by itself. -/
theorem exists_leaf_of_error (e : Expr α) : e.Blames call := by
  induction e with
  | value v => exact fun _ _ h => nomatch h
  | junction j operands ih =>
    intro world error h
    rw [evaluate_junction, map_eq_error_iff] at h
    exact (sweep_until call j operands world).exists_leaf ih (fault?_eq_some_iff.2 h)
  | not operand ih =>
    intro world error h
    rw [evaluate_not, map_eq_error_iff] at h
    exact ih world error h
  | leaf a =>
    intro world error h
    rw [evaluate_leaf, map_eq_error_iff] at h
    exact ⟨a, List.mem_singleton_self a, world, h⟩
  | sequential passed pending _ ih =>
    intro world error h
    rw [evaluate_sequential, map_eq_error_iff] at h
    obtain ⟨a, ha, hcall⟩ :=
      (sweep_on call pending world).exists_leaf ih (fault?_eq_some_iff.2 h)
    exact ⟨a, List.mem_append_right _ ha, hcall⟩
  | parallel policy children ih =>
    intro world error h
    rw [evaluate_parallel, map_eq_error_iff] at h
    exact (sweep_all call children world).exists_leaf ih (fault?_eq_some_iff.2 h)

end

/-! ## shapes -/

section
variable {call : Call α σ} {f : α → β}

/-- a tick in any world keeps the shape of the tree -/
def KeepsShape (call : Call α σ) (f : α → β) (e : Expr α) : Prop :=
  ∀ world, (e.evaluate call world).after.shape f = e.shape f

theorem Sweep.shape {es fs : List (Expr α)} {world world' : σ} {fault : Option EvaluationError}
    (h : Sweep call es world fault fs world') (ih : ∀ e ∈ es, e.KeepsShape call f) :
    fs.map (Expr.shape f) = es.map (Expr.shape f) := by
  induction h with
  | stop es world => rfl
  | fault _ rest => rw [List.map_cons, List.map_cons, ih _ List.mem_cons_self]
  | next _ _ ihs =>
    rw [List.map_cons, List.map_cons, ih _ List.mem_cons_self,
      ihs fun e he => ih e (List.mem_cons_of_mem _ he)]

/-- **A tick keeps the shape of a tree**, as far as the calls of its leaves keep what the shape
shows of them. -/
theorem shape_evaluate (hcall : ∀ a world, f (call a world).after = f a) (e : Expr α) :
    e.KeepsShape call f := by
  induction e with
  | value v => exact fun _ => rfl
  | junction j operands ih =>
    intro world
    have h := (sweep_until call j operands world).shape ih
    rw [evaluate_junction, shape_junction, shape_junction, h]
  | not operand ih =>
    intro world
    rw [evaluate_not, shape_not, shape_not, ih world]
  | leaf a =>
    intro world
    rw [evaluate_leaf, shape_leaf, shape_leaf, hcall a world]
  | sequential passed pending _ ih =>
    intro world
    have h := (sweep_on call pending world).shape ih
    rw [evaluate_sequential, shape_sequential, shape_sequential, List.append_assoc, List.map_append,
      h, ← List.map_append]
  | parallel policy children ih =>
    intro world
    have h := (sweep_all call children world).shape ih
    rw [evaluate_parallel, shape_parallel, shape_parallel, h]

/-- and so does every run -/
theorem shape_afterTicks (hcall : ∀ a world, f (call a world).after = f a) (worlds : List σ) :
    ∀ e : Expr α, (afterTicks call e worlds).shape f = e.shape f := by
  induction worlds with
  | nil => exact fun _ => rfl
  | cons world worlds ih =>
    intro e
    rw [afterTicks_cons, ih, shape_evaluate hcall]

end

/-! ## answers -/

/-- neither nil nor a number: the tree answers with booleans only -/
def Decides (e : Expr α) : Prop := ∀ v, e = .value v → ∃ b, v = .bool b

theorem Decides.exists_bool {e : Expr α} (h : e.Decides) {call : Call α σ} {world : σ} {v : Value}
    (hv : (e.evaluate call world).answer = .ok v) : ∃ b, v = .bool b := by
  cases e with
  | value v' =>
    obtain rfl := Except.ok.inj hv
    exact h v' rfl
  | junction | leaf | sequential | not | parallel =>
    obtain ⟨_, _, rfl⟩ := map_eq_ok_iff.1 hv
    exact ⟨_, rfl⟩

/-- the shape tells if a tree decides -/
theorem Decides.of_shape {e e' : Expr α} {f : α → β} (hshape : e'.shape f = e.shape f)
    (h : e.Decides) : e'.Decides := by
  intro v hv
  rw [hv, shape_value] at hshape
  exact h v ((shape_eq_value_iff f).1 hshape.symm)

end Expr

end SignalScript
