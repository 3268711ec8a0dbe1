import SignalScript.Proofs.Expr.Shape

/-!
# Sequential expressions under watch

To see which children a tick of a sequential expression evaluates, its children are taken as
leaves that know their places, and every evaluation of one is written down. The tick itself is the
tick of any tree.

* `Expr.watch`          one tick of a child, written down;
* `Expr.visits`         the children that a tick evaluates, in order, with their answers;
* `Expr.watch_erased`   watching a sequence changes nothing about its ticks;
* `Expr.course_of_tick` children pass one by one, up to the end or to the first that does not;
* `Expr.Progress`       the invariant of a run: who passed, and how far the cursor came;
* `Expr.sequential_orderly`  the discipline of a sequence over whole runs.
-/

namespace SignalScript

/-- a child that was evaluated, by its place among all children, and what it answered -/
structure Visit where
  child : Nat
  answer : Except EvaluationError Value

/-- the child answered, and its answer counts as true -/
def Visit.passed (visit : Visit) : Bool :=
  match visit.answer with
  | .ok v => v.isTruthy
  | .error _ => false

theorem map_eq_ok_iff {ε β γ : Type} {f : β → γ} {x : Except ε β} {c : γ} :
    x.map f = .ok c ↔ ∃ b, x = .ok b ∧ f b = c := by
  cases x with
  | ok b =>
    refine ⟨fun h => ⟨b, rfl, Except.ok.inj h⟩, ?_⟩
    rintro ⟨b', heq, rfl⟩
    rw [Except.ok.inj heq]
    rfl
  | error _ => exact ⟨nofun, nofun⟩

theorem map_eq_error_iff {β γ : Type} {f : β → γ} {x : Except EvaluationError β}
    {error : EvaluationError} : x.map f = .error error ↔ x = .error error := by
  cases x with
  | ok b => exact ⟨nofun, nofun⟩
  | error _ => exact ⟨fun h => congrArg _ (Except.error.inj h),
      fun h => congrArg _ (Except.error.inj h)⟩

theorem map_bool_eq_ok_iff {x : Except EvaluationError Bool} {b : Bool} :
    x.map Value.bool = .ok (.bool b) ↔ x = .ok b := by
  rw [map_eq_ok_iff]
  constructor
  · rintro ⟨_, h, heq⟩
    rw [h, Value.bool.inj heq]
  · intro h
    exact ⟨b, h, rfl⟩

theorem Visit.passed_iff {visit : Visit} :
    visit.passed = true ↔ visit.answer.map Value.isTruthy = .ok true := by
  unfold Visit.passed
  cases visit.answer with
  | ok v => exact ⟨congrArg Except.ok, Except.ok.inj⟩
  | error error => exact ⟨nofun, nofun⟩

namespace Expr

variable {α σ : Type}

/-! ## watching the children of a sequence -/

/-- one tick of a child that knows its place; the visit is written down -/
def watch (call : Call α σ) : Call (Nat × Expr α) (σ × List Visit) := fun child world =>
  let turn := child.2.evaluate call world.1
  ⟨turn.answer.map Value.isTruthy, (child.1, turn.after),
    (turn.world, world.2 ++ [⟨child.1, turn.answer⟩])⟩

/-- trees as leaves that know their places, counted from `first` -/
def placed (first : Nat) : List (Expr α) → List (Expr (Nat × Expr α))
  | [] => []
  | e :: rest => .leaf (first, e) :: placed (first + 1) rest

/-- the children that a tick of a sequence evaluates, in order: the sequence has the same tick with
its children under watch -/
def visits (call : Call α σ) : Expr α → σ → List Visit
  | .sequential passed pending, world =>
    ((Expr.sequential (placed 0 passed) (placed passed.length pending)).evaluate (watch call)
      (world, [])).world.2
  | _, _ => []

/-- what is written down in a tick of children that are placed from `first` -/
def visitsFrom (call : Call α σ) (first : Nat) (es : List (Expr α)) (world : σ) : List Visit :=
  (evaluateOn (watch call) (placed first es) (world, [])).world.2

theorem visits_sequential (call : Call α σ) (passed pending : List (Expr α)) (world : σ) :
    visits call (.sequential passed pending) world =
      visitsFrom call passed.length pending world := rfl

theorem placed_cons (first : Nat) (e : Expr α) (es : List (Expr α)) :
    placed first (e :: es) = .leaf (first, e) :: placed (first + 1) es := rfl

theorem placed_append (first : Nat) (es fs : List (Expr α)) :
    placed first (es ++ fs) = placed first es ++ placed (first + es.length) fs := by
  induction es generalizing first with
  | nil => rfl
  | cons e es ih =>
    rw [List.cons_append, placed_cons, ih, placed_cons, List.cons_append, List.length_cons]
    congr 3
    omega

section
variable {call : Call α σ} {e : Expr α} {world : σ} {error : EvaluationError} {v : Value}

/-- a watched child answers with the truth of its answer -/
theorem answer_watched (call : Call α σ) (first : Nat) (e : Expr α) (world : σ)
    (seen : List Visit) :
    ((Expr.leaf (first, e)).evaluate (watch call) (world, seen)).answer =
      (e.evaluate call world).answer.map fun v => .bool v.isTruthy := by
  show ((e.evaluate call world).answer.map Value.isTruthy).map Value.bool = _
  cases (e.evaluate call world).answer <;> rfl

theorem answer_watched_of_error (h : (e.evaluate call world).answer = .error error) (first : Nat)
    (seen : List Visit) :
    ((Expr.leaf (first, e)).evaluate (watch call) (world, seen)).answer = .error error := by
  rw [answer_watched, h]
  rfl

theorem answer_watched_of_ok (h : (e.evaluate call world).answer = .ok v) (first : Nat)
    (seen : List Visit) :
    ((Expr.leaf (first, e)).evaluate (watch call) (world, seen)).answer =
      .ok (.bool v.isTruthy) := by
  rw [answer_watched, h]
  rfl

/-- watching leaves the tick as it is, and adds to what was written down before -/
theorem exists_evaluateOn_watched (call : Call α σ) (es : List (Expr α)) :
    ∀ (first : Nat) (world : σ), ∃ visited : List Visit, ∀ seen : List Visit,
      evaluateOn (watch call) (placed first es) (world, seen) =
        ⟨(evaluateOn call es world).answer,
          (placed first (evaluateOn call es world).after.1,
            placed (first + (evaluateOn call es world).after.1.length)
              (evaluateOn call es world).after.2),
          ((evaluateOn call es world).world, seen ++ visited)⟩ := by
  induction es with
  | nil =>
    intro first world
    refine ⟨[], fun seen => ?_⟩
    rw [List.append_nil]
    rfl
  | cons e es ih =>
    intro first world
    cases ha : (e.evaluate call world).answer with
    | error error =>
      refine ⟨[⟨first, .error error⟩], fun seen => ?_⟩
      rw [placed_cons, evaluateOn_cons_of_error (answer_watched_of_error ha first seen),
        evaluateOn_cons_of_error ha, ← ha]
      rfl
    | ok v =>
      cases hv : v.isTruthy with
      | true =>
        obtain ⟨visited, hrest⟩ := ih (first + 1) (e.evaluate call world).world
        -- the others are watched with the first child already written down
        refine ⟨⟨first, .ok v⟩ :: visited, fun seen => ?_⟩
        have hseen := hrest (seen ++ [⟨first, .ok v⟩])
        rw [List.append_assoc, List.singleton_append, Nat.add_assoc first 1, Nat.add_comm 1]
          at hseen
        have hworld : ((Expr.leaf (first, e)).evaluate (watch call) (world, seen)).world =
            ((e.evaluate call world).world, seen ++ [⟨first, .ok v⟩]) := by
          rw [← ha]
          rfl
        rw [placed_cons, evaluateOn_cons_of_passed (answer_watched_of_ok ha first seen) hv,
          evaluateOn_cons_of_passed ha hv, hworld, hseen]
        rfl
      | false =>
        refine ⟨[⟨first, .ok v⟩], fun seen => ?_⟩
        rw [placed_cons, evaluateOn_cons_of_stopped (answer_watched_of_ok ha first seen) hv,
          evaluateOn_cons_of_stopped ha hv, ← ha]
        rfl

/-- **Watching changes nothing**: a watched tick answers as the tick itself, leaves the same
children and the same world, and adds the visits to what was written down before. -/
theorem evaluateOn_watched (call : Call α σ) (es : List (Expr α)) (first : Nat) (world : σ)
    (seen : List Visit) :
    evaluateOn (watch call) (placed first es) (world, seen) =
      ⟨(evaluateOn call es world).answer,
        (placed first (evaluateOn call es world).after.1,
          placed (first + (evaluateOn call es world).after.1.length)
            (evaluateOn call es world).after.2),
        ((evaluateOn call es world).world, seen ++ visitsFrom call first es world)⟩ := by
  obtain ⟨visited, h⟩ := exists_evaluateOn_watched call es first world
  have hv : visitsFrom call first es world = visited := by
    unfold visitsFrom
    rw [h []]
    rfl
  rw [h seen, hv]

/-- the same for the tree itself -/
theorem watch_erased (call : Call α σ) (passed pending : List (Expr α)) (world : σ) :
    (Expr.sequential (placed 0 passed) (placed passed.length pending)).evaluate (watch call)
        (world, []) =
      ⟨((Expr.sequential passed pending).evaluate call world).answer,
        .sequential (placed 0 (passed ++ (evaluateOn call pending world).after.1))
          (placed (passed ++ (evaluateOn call pending world).after.1).length
            (evaluateOn call pending world).after.2),
        (((Expr.sequential passed pending).evaluate call world).world,
          visits call (.sequential passed pending) world)⟩ := by
  rw [evaluate_sequential (watch call), evaluateOn_watched, placed_append, List.length_append,
    Nat.zero_add]
  rfl

/-! ## the course of a tick -/

theorem visitsFrom_cons_of_error (h : (e.evaluate call world).answer = .error error) (first : Nat)
    (rest : List (Expr α)) :
    visitsFrom call first (e :: rest) world = [⟨first, .error error⟩] := by
  unfold visitsFrom
  rw [placed_cons, evaluateOn_cons_of_error (answer_watched_of_error h first []), ← h]
  rfl

theorem visitsFrom_cons_of_passed (h : (e.evaluate call world).answer = .ok v)
    (hv : v.isTruthy = true) (first : Nat) (rest : List (Expr α)) :
    visitsFrom call first (e :: rest) world =
      ⟨first, .ok v⟩ :: visitsFrom call (first + 1) rest (e.evaluate call world).world := by
  have hworld : ((Expr.leaf (first, e)).evaluate (watch call) (world, [])).world =
      ((e.evaluate call world).world, [⟨first, .ok v⟩]) := by
    rw [← h]
    rfl
  rw [visitsFrom, placed_cons, evaluateOn_cons_of_passed (answer_watched_of_ok h first []) hv,
    hworld, evaluateOn_watched]
  rfl

theorem visitsFrom_cons_of_stopped (h : (e.evaluate call world).answer = .ok v)
    (hv : v.isTruthy = false) (first : Nat) (rest : List (Expr α)) :
    visitsFrom call first (e :: rest) world = [⟨first, .ok v⟩] := by
  unfold visitsFrom
  rw [placed_cons, evaluateOn_cons_of_stopped (answer_watched_of_ok h first []) hv, ← h]
  rfl

/-- how a tick of children goes that are placed from `first`: one by one they pass, up to the end
or to the first that does not -/
inductive Course (first : Nat)
    (turn : Turn (Except EvaluationError Bool) (List (Expr α) × List (Expr α)) σ) :
    List Visit → Prop where
  | through (passes : List Visit) (hpass : ∀ v ∈ passes, v.passed = true)
    (hplaces : passes.map Visit.child = List.range' first turn.after.1.length)
    (hrest : turn.after.2 = []) (hanswer : turn.answer = .ok true) : Course first turn passes
  | held (passes : List Visit) (last : Visit) (hpass : ∀ v ∈ passes, v.passed = true)
    (hplaces : passes.map Visit.child = List.range' first turn.after.1.length)
    (hlast : last.passed = false) (hchild : last.child = first + turn.after.1.length)
    (hrest : turn.after.2 ≠ []) (hanswer : turn.answer = last.answer.map Value.isTruthy) :
    Course first turn (passes ++ [last])

/-- **One tick of a sequence**, child by child. -/
theorem course_of_tick (call : Call α σ) (es : List (Expr α)) :
    ∀ (first : Nat) (world : σ),
      Course first (evaluateOn call es world) (visitsFrom call first es world) := by
  induction es with
  | nil =>
    intro first world
    exact .through [] (by simp) rfl rfl rfl
  | cons e es ih =>
    intro first world
    cases ha : (e.evaluate call world).answer with
    | error error =>
      rw [evaluateOn_cons_of_error ha, visitsFrom_cons_of_error ha]
      exact .held [] ⟨first, .error error⟩ (by simp) rfl rfl rfl (List.cons_ne_nil _ _) rfl
    | ok v =>
      cases hv : v.isTruthy with
      | true =>
        have hfirst : (Visit.mk first (.ok v)).passed = true := hv
        have hrest := ih (first + 1) (e.evaluate call world).world
        rw [evaluateOn_cons_of_passed ha hv, visitsFrom_cons_of_passed ha hv]
        generalize visitsFrom call (first + 1) es (e.evaluate call world).world = seen at hrest
        cases hrest with
        | through passes hpass hplaces hend hanswer =>
          refine .through _ (List.forall_mem_cons.2 ⟨hfirst, hpass⟩) ?_ hend hanswer
          rw [List.map_cons, hplaces, List.length_cons, List.range'_succ]
        | held passes last hpass hplaces hlast hchild hrest hanswer =>
          rw [← List.cons_append]
          refine .held _ last (List.forall_mem_cons.2 ⟨hfirst, hpass⟩) ?_ hlast ?_ hrest hanswer
          · rw [List.map_cons, hplaces, List.length_cons, List.range'_succ]
          · rw [hchild, List.length_cons]
            omega
      | false =>
        rw [evaluateOn_cons_of_stopped ha hv, visitsFrom_cons_of_stopped ha hv]
        refine .held [] ⟨first, .ok v⟩ (by simp) rfl hv rfl (List.cons_ne_nil _ _) ?_
        show Except.ok false = Except.ok v.isTruthy
        rw [hv]

end

section
variable {first : Nat} {seen : List Visit}
  {turn : Turn (Except EvaluationError Bool) (List (Expr α) × List (Expr α)) σ}

/-- a tick visits children that stand one behind the other -/
theorem Course.places (h : Course first turn seen) :
    seen.map Visit.child = List.range' first seen.length := by
  cases h with
  | through _ hpass hplaces =>
    have hlen : seen.length = turn.after.1.length := by
      rw [← List.length_map Visit.child, hplaces, List.length_range']
    rw [hplaces, hlen]
  | held passes last hpass hplaces hlast hchild =>
    have hlen : passes.length = turn.after.1.length := by
      rw [← List.length_map Visit.child, hplaces, List.length_range']
    rw [List.map_append, hplaces, List.length_append, hlen, List.length_singleton,
      List.range'_1_concat, List.map_singleton, hchild]

theorem Course.places_before {before behind : List Visit} {visit : Visit}
    (h : Course first turn (before ++ visit :: behind)) :
    before.map Visit.child = List.range' first before.length ∧
      visit.child = first + before.length := by
  have hplaces := h.places
  rw [List.map_append, List.length_append, ← List.range'_append_1, List.map_cons, List.length_cons,
    List.range'_succ] at hplaces
  obtain ⟨hbefore, htail⟩ := List.append_inj hplaces (by rw [List.length_map, List.length_range'])
  exact ⟨hbefore, (List.cons.inj htail).1⟩

/-- it goes on behind children that pass only -/
theorem Course.passed_of_before {before behind : List Visit} {visit : Visit}
    (h : Course first turn (before ++ visit :: behind)) : ∀ v ∈ before, v.passed = true := by
  generalize hseen : before ++ visit :: behind = seen at h
  cases h with
  | through _ hpass =>
    intro v hv
    exact hpass v (hseen ▸ List.mem_append_left _ hv)
  | held passes last hpass =>
    have hdrop : before ++ (visit :: behind).dropLast = passes := by
      rw [← List.dropLast_append_of_ne_nil (List.cons_ne_nil _ _), hseen, List.dropLast_concat]
    intro v hv
    exact hpass v (hdrop ▸ List.mem_append_left _ hv)

/-- the children in front of the resulting cursor are those that passed -/
theorem Course.passed_iff (h : Course first turn seen) :
    ∀ v ∈ seen, v.passed = true ↔ v.child < first + turn.after.1.length := by
  have hin : ∀ {passes : List Visit},
      passes.map Visit.child = List.range' first turn.after.1.length →
        ∀ v ∈ passes, v.child < first + turn.after.1.length := by
    intro passes hplaces v hv
    have hmem := List.mem_map_of_mem (f := Visit.child) hv
    rw [hplaces, List.mem_range'_1] at hmem
    exact hmem.2
  cases h with
  | through _ hpass hplaces =>
    intro v hv
    exact ⟨fun _ => hin hplaces v hv, fun _ => hpass v hv⟩
  | held passes last hpass hplaces hlast hchild =>
    intro v hv
    rcases List.mem_append.1 hv with hv | hv
    · exact ⟨fun _ => hin hplaces v hv, fun _ => hpass v hv⟩
    · rw [List.mem_singleton.1 hv, hlast, hchild]
      exact ⟨nofun, fun hlt => absurd hlt (Nat.lt_irrefl _)⟩

/-- every child has passed, or the one at the resulting cursor has answered for the tick -/
theorem Course.answer_cases (h : Course first turn seen) :
    (turn.answer = .ok true ∧ turn.after.2 = [] ∧
      ∀ v ∈ seen, v.child ≠ first + turn.after.1.length) ∨
    (turn.answer ≠ .ok true ∧ turn.after.2 ≠ [] ∧ ∃ last ∈ seen,
      turn.answer = last.answer.map Value.isTruthy ∧
      ∀ v ∈ seen, v.child = first + turn.after.1.length ↔ v = last) := by
  have hiff := h.passed_iff
  cases h with
  | through _ hpass hplaces hrest hanswer =>
    refine .inl ⟨hanswer, hrest, fun v hv heq => ?_⟩
    have hlt := (hiff v hv).1 (hpass v hv)
    omega
  | held passes last hpass hplaces hlast hchild hrest hanswer =>
    refine .inr ⟨?_, hrest, last, List.mem_append_right _ (List.mem_singleton_self _), hanswer,
      fun v hv => ⟨fun heq => ?_, fun heq => heq ▸ hchild⟩⟩
    · intro htrue
      have hp := Visit.passed_iff.2 (hanswer ▸ htrue)
      rw [hlast] at hp
      exact Bool.false_ne_true hp
    · rcases List.mem_append.1 hv with hmem | hmem
      · have hlt := (hiff v hv).1 (hpass v hmem)
        omega
      · exact List.mem_singleton.1 hmem

end

/-! ## runs -/

/-- a tree after ticks in these worlds, one after the other; between two ticks anything may happen
to the world, so every tick starts in one of its own -/
def afterTicks (call : Call α σ) (e : Expr α) (worlds : List σ) : Expr α :=
  worlds.foldl (fun e world => (e.evaluate call world).after) e

/-- the children that these ticks evaluate, in order -/
def trail (call : Call α σ) (e : Expr α) : List σ → List Visit
  | [] => []
  | world :: worlds => visits call e world ++ trail call (e.evaluate call world).after worlds

section
variable (call : Call α σ)

theorem afterTicks_cons (e : Expr α) (world : σ) (worlds : List σ) :
    afterTicks call e (world :: worlds) =
      afterTicks call (e.evaluate call world).after worlds := rfl

theorem afterTicks_append (e : Expr α) (worlds worlds' : List σ) :
    afterTicks call e (worlds ++ worlds') =
      afterTicks call (afterTicks call e worlds) worlds' := List.foldl_append

theorem trail_nil (e : Expr α) : trail call e [] = [] := rfl
theorem trail_cons (e : Expr α) (world : σ) (worlds : List σ) :
    trail call e (world :: worlds) =
      visits call e world ++ trail call (e.evaluate call world).after worlds := rfl

/-- a tick moves children from one side of the cursor to the other -/
theorem length_evaluateOn (es : List (Expr α)) :
    ∀ world : σ, (evaluateOn call es world).after.1.length +
      (evaluateOn call es world).after.2.length = es.length := by
  induction es with
  | nil =>
    intro world
    rfl
  | cons e es ih =>
    intro world
    cases ha : (e.evaluate call world).answer with
    | error error =>
      rw [evaluateOn_cons_of_error ha, List.length_nil, Nat.zero_add]
      rfl
    | ok v =>
      cases hv : v.isTruthy with
      | true =>
        have h := ih (e.evaluate call world).world
        rw [evaluateOn_cons_of_passed ha hv, List.length_cons, List.length_cons, ← h]
        exact Nat.add_right_comm _ _ _
      | false =>
        rw [evaluateOn_cons_of_stopped ha hv, List.length_nil, Nat.zero_add]
        rfl

end

/-- the invariant of a run over `n` children: those that have passed are those before the cursor,
and each of them has passed once, in order -/
structure Progress (n : Nat) (seen : List Visit) (passed pending : List (Expr α)) : Prop where
  total : passed.length + pending.length = n
  inOrder : (seen.filter Visit.passed).map Visit.child = List.range passed.length

namespace Progress

variable (call : Call α σ) {n : Nat} {seen : List Visit} {passed pending : List (Expr α)}

theorem start (children : List (Expr α)) : Progress children.length [] [] children :=
  ⟨Nat.zero_add _, rfl⟩

/-- **One tick keeps the invariant.** -/
theorem tick (h : Progress n seen passed pending) (world : σ) :
    Progress n (seen ++ visits call (.sequential passed pending) world)
      (passed ++ (evaluateOn call pending world).after.1)
      (evaluateOn call pending world).after.2 := by
  refine ⟨?_, ?_⟩
  · rw [List.length_append, Nat.add_assoc, length_evaluateOn, h.total]
  · have hcourse := course_of_tick call pending passed.length world
    have hnow : ((visitsFrom call passed.length pending world).filter Visit.passed).map
        Visit.child =
          List.range' passed.length (evaluateOn call pending world).after.1.length := by
      generalize visitsFrom call passed.length pending world = now at hcourse
      cases hcourse with
      | through _ hpass hplaces => rw [List.filter_eq_self.2 hpass, hplaces]
      | held passes last hpass hplaces hlast =>
        have hnone : ¬ last.passed = true := by
          rw [hlast]
          exact Bool.false_ne_true
        rw [List.filter_append, List.filter_eq_self.2 hpass, List.filter_cons_of_neg hnone,
          List.filter_nil, List.append_nil, hplaces]
    rw [visits_sequential, List.filter_append, List.map_append, h.inOrder, hnow,
      List.range_eq_range', List.range_eq_range', List.length_append, ← List.range'_append_1,
      Nat.zero_add]

/-- and so does every run -/
theorem run (worlds : List σ) : ∀ {seen : List Visit} {passed pending : List (Expr α)},
    Progress n seen passed pending → ∃ passed' pending',
      afterTicks call (.sequential passed pending) worlds = .sequential passed' pending' ∧
        Progress n (seen ++ trail call (.sequential passed pending) worlds) passed' pending' := by
  induction worlds with
  | nil =>
    intro seen passed pending h
    refine ⟨passed, pending, rfl, ?_⟩
    rw [trail_nil, List.append_nil]
    exact h
  | cons world worlds ih =>
    intro seen passed pending h
    obtain ⟨passed', pending', hafter, hrun⟩ := ih (h.tick call world)
    refine ⟨passed', pending', ?_, ?_⟩
    · rw [afterTicks_cons, evaluate_sequential]
      exact hafter
    · rw [trail_cons, evaluate_sequential, ← List.append_assoc]
      exact hrun

theorem progress? (h : Progress n seen passed pending) :
    (Expr.sequential passed pending).progress? = some (passed.length, n) := by
  rw [← h.total]
  rfl

/-- a child has passed when the cursor is behind it, and only then -/
theorem exists_passed_iff (h : Progress n seen passed pending) (i : Nat) :
    (∃ v ∈ seen, v.child = i ∧ v.passed = true) ↔ i < passed.length := by
  rw [← List.mem_range, ← h.inOrder, List.mem_map]
  constructor
  · rintro ⟨v, hv, rfl, hp⟩
    exact ⟨v, List.mem_filter.2 ⟨hv, hp⟩, rfl⟩
  · rintro ⟨v, hv, rfl⟩
    obtain ⟨hmem, hp⟩ := List.mem_filter.1 hv
    exact ⟨v, hmem, rfl, hp⟩

end Progress

/-! ## the discipline -/

/-- one evaluation of a sequence of `n` children that moves the cursor from `i` to `k` and answers
`answer`; `earlier` are the visits of all evaluations before it, and `now` are its own -/
structure Orderly (n i k : Nat) (earlier now : List Visit)
    (answer : Except EvaluationError Value) : Prop where
  forward : i ≤ k
  inside : k ≤ n
  /-- a child is evaluated when every child before it has passed, earlier or in this evaluation -/
  inOrder : ∀ before visit behind, now = before ++ visit :: behind →
    ∀ j < visit.child, ∃ v ∈ earlier ++ before, v.child = j ∧ v.passed = true
  /-- no child is evaluated twice -/
  once : (now.map Visit.child).Nodup
  /-- and none that has passed in an earlier evaluation -/
  neverAgain : ∀ v ∈ earlier, v.passed = true → ∀ v' ∈ now, v'.child ≠ v.child
  /-- the children that pass are those that the cursor leaves behind, however the evaluation ends -/
  kept : ∀ v ∈ now, v.passed = true ↔ v.child < k
  true_iff : answer = .ok (.bool true) ↔ k = n
  false_iff : answer = .ok (.bool false) ↔
    ∃ v ∈ now, v.child = k ∧ ∃ x, v.answer = .ok x ∧ x.isTruthy = false
  error_iff : ∀ error, answer = .error error ↔ ∃ v ∈ now, v.child = k ∧ v.answer = .error error

section
variable {n : Nat} {seen : List Visit} {passed pending : List (Expr α)}

/-- the answer of a tick is the answer of the child that ends it -/
theorem answer_iff_of_course {first : Nat}
    {turn : Turn (Except EvaluationError Bool) (List (Expr α) × List (Expr α)) σ}
    (h : Course first turn seen) (answer : Except EvaluationError Bool) (hne : answer ≠ .ok true) :
    turn.answer = answer ↔ ∃ v ∈ seen, v.child = first + turn.after.1.length ∧
      v.answer.map Value.isTruthy = answer := by
  rcases h.answer_cases with ⟨htrue, _, hnone⟩ | ⟨_, _, last, hmem, hlast, hiff⟩
  · constructor
    · intro heq
      exact absurd (heq ▸ htrue) hne
    · rintro ⟨v, hv, hchild, _⟩
      exact absurd hchild (hnone v hv)
  · constructor
    · intro heq
      exact ⟨last, hmem, (hiff last hmem).2 rfl, hlast ▸ heq⟩
    · rintro ⟨v, hv, hchild, heq⟩
      rw [hlast, ← (hiff v hv).1 hchild, heq]

/-- the invariant gives the discipline of the next tick -/
theorem Progress.orderly (call : Call α σ) (h : Progress n seen passed pending) (world : σ) :
    Orderly n passed.length (passed.length + (evaluateOn call pending world).after.1.length) seen
      (visits call (.sequential passed pending) world)
      ((Expr.sequential passed pending).evaluate call world).answer := by
  have hcourse := course_of_tick call pending passed.length world
  have htotal := h.total
  have hlength := length_evaluateOn call pending world
  have hpassed := h.exists_passed_iff
  rw [visits_sequential, evaluate_sequential]
  generalize visitsFrom call passed.length pending world = now at hcourse ⊢
  generalize evaluateOn call pending world = turn at hcourse hlength ⊢
  constructor
  case forward => exact Nat.le_add_right _ _
  case inside => omega
  case inOrder =>
    intro before visit behind hnow j hj
    subst hnow
    obtain ⟨hplaces, hchild⟩ := hcourse.places_before
    -- a child in front of the old cursor has passed earlier, the others pass in this tick
    by_cases hlt : j < passed.length
    · obtain ⟨v, hv, heq, hp⟩ := (hpassed j).2 hlt
      exact ⟨v, List.mem_append_left _ hv, heq, hp⟩
    · have hj' : j ∈ before.map Visit.child := by
        rw [hplaces, List.mem_range'_1]
        omega
      obtain ⟨v, hv, heq⟩ := List.mem_map.1 hj'
      exact ⟨v, List.mem_append_right _ hv, heq, hcourse.passed_of_before v hv⟩
  case once =>
    rw [hcourse.places]
    exact List.nodup_range'
  case neverAgain =>
    intro v hv hp v' hv' heq
    have hlt := (hpassed v.child).1 ⟨v, hv, rfl, hp⟩
    have hmem := List.mem_map_of_mem (f := Visit.child) hv'
    rw [hcourse.places, List.mem_range'_1] at hmem
    omega
  case kept => exact hcourse.passed_iff
  case true_iff =>
    rw [map_bool_eq_ok_iff]
    rcases hcourse.answer_cases with ⟨htrue, hrest, _⟩ | ⟨hne, hrest, _⟩
    · rw [hrest, List.length_nil] at hlength
      exact ⟨fun _ => by omega, fun _ => htrue⟩
    · have hpos := List.length_pos_iff.2 hrest
      exact ⟨fun heq => absurd heq hne, fun heq => by omega⟩
  case false_iff =>
    rw [map_bool_eq_ok_iff, answer_iff_of_course hcourse (.ok false) nofun]
    simp only [map_eq_ok_iff]
  case error_iff =>
    intro error
    rw [map_eq_error_iff, answer_iff_of_course hcourse (.error error) nofun]
    simp only [map_eq_error_iff]

end

section
variable (call : Call α σ) (children : List (Expr α))

/-- a sequence without pending children answers true at once -/
theorem evaluate_complete (world : σ) :
    (Expr.sequential children []).evaluate call world =
      ⟨.ok (.bool true), .sequential children [], world⟩ := by
  rw [evaluate_sequential, evaluateOn_nil, List.append_nil]
  rfl

theorem afterTicks_complete (worlds : List σ) :
    afterTicks call (.sequential children []) worlds = .sequential children [] := by
  induction worlds with
  | nil => rfl
  | cons world worlds ih => rw [afterTicks_cons, evaluate_complete, ih]

/-- the sequence of these children, after ticks in these worlds -/
def sequenceAfter (worlds : List σ) : Expr α := afterTicks call (.sequential [] children) worlds

/-- **The discipline of a sequence over whole runs.** At any evaluation of any run, whatever the
children answer and whatever happens to the world in between: the cursor moves on in order, past
the children that pass and only past them, and the answer tells where it stands; once the answer
was true, no later evaluation calls a child or changes anything. -/
theorem sequential_orderly (before : List σ) (world : σ) :
    (∃ i k, (sequenceAfter call children before).progress? = some (i, children.length) ∧
      (sequenceAfter call children (before ++ [world])).progress? = some (k, children.length) ∧
      Orderly children.length i k (trail call (.sequential [] children) before)
        (visits call (sequenceAfter call children before) world)
        ((sequenceAfter call children before).evaluate call world).answer) ∧
    (((sequenceAfter call children before).evaluate call world).answer = .ok (.bool true) →
      ∀ (later : List σ) (world' : σ),
        (sequenceAfter call children (before ++ world :: later)).evaluate call world' =
          ⟨.ok (.bool true), sequenceAfter call children (before ++ [world]), world'⟩ ∧
        visits call (sequenceAfter call children (before ++ world :: later)) world' = []) := by
  obtain ⟨passed, pending, hafter, hrun⟩ := (Progress.start children).run call before
  rw [List.nil_append] at hrun
  have hbefore : sequenceAfter call children before = .sequential passed pending := hafter
  have hnext : sequenceAfter call children (before ++ [world]) =
      .sequential (passed ++ (evaluateOn call pending world).after.1)
        (evaluateOn call pending world).after.2 := by
    rw [sequenceAfter, afterTicks_append, hafter]
    rfl
  have hstep := hrun.tick call world
  have horderly := hrun.orderly call world
  rw [hbefore, hnext]
  refine ⟨⟨_, _, hrun.progress?, hstep.progress?, ?_⟩, ?_⟩
  · rw [List.length_append]
    exact horderly
  · intro htrue later world'
    have hend : (evaluateOn call pending world).after.2 = [] := by
      have hlast := horderly.true_iff.1 htrue
      have htotal := hstep.total
      rw [List.length_append] at htotal
      exact List.length_eq_zero_iff.1 (by omega)
    have hlater : sequenceAfter call children (before ++ world :: later) =
        .sequential (passed ++ (evaluateOn call pending world).after.1) [] := by
      rw [sequenceAfter, afterTicks_append, hafter, afterTicks_cons, evaluate_sequential, hend,
        afterTicks_complete]
    rw [hlater, hend, evaluate_complete]
    exact ⟨rfl, rfl⟩

end

end Expr

end SignalScript
