import SignalScript.Condition.Builtin
import SignalScript.Proofs.Expr.Calls
import SignalScript.Proofs.Expr.Configured
import SignalScript.Simulation.Offline

/-!
# Trees with holes

Some leaves of a tree fail whenever they are called. They are marked as holes, and other trees may
be put in their place. A tick that answers has called none of them, so it is the same tick whatever
stands there.

* `Expr.fill`               a tree in the place of every hole;
* `Call.marked`             the calls of the leaves, with a mark on those in the holes;
* `Expr.evaluate_marked`    the marks do not show;
* `Expr.evaluate_fill`      a tick that answers goes the same way when the holes are filled;
* `Expr.unreached_leaves`   what leaves that are not configured have to do with a tick.
-/

namespace SignalScript

namespace Expr

variable {α β κ σ : Type}

/-! ## marks -/

/-- a tree in the place of every hole -/
def fill (content : κ → Expr α) (t : Expr (α ⊕ κ)) : Expr α := t.expand (Sum.elim .leaf content)

section
variable (content : κ → Expr α)

theorem fill_junction (j : Junction) (operands : List (Expr (α ⊕ κ))) :
    (Expr.junction j operands).fill content = .junction j (operands.map (fill content)) :=
  congrArg (Expr.junction j) (expandAll_eq_map _ operands)

theorem fill_not (operand : Expr (α ⊕ κ)) :
    (Expr.not operand).fill content = .not (operand.fill content) := rfl

theorem fill_sequential (passed pending : List (Expr (α ⊕ κ))) :
    (Expr.sequential passed pending).fill content =
      .sequential (passed.map (fill content)) (pending.map (fill content)) :=
  congr (congrArg Expr.sequential (expandAll_eq_map _ passed)) (expandAll_eq_map _ pending)

theorem fill_parallel (policy : Policy) (children : List (Expr (α ⊕ κ))) :
    (Expr.parallel policy children).fill content =
      .parallel policy (children.map (fill content)) :=
  congrArg (Expr.parallel policy) (expandAll_eq_map _ children)

end

/-- the calls of the leaves; what is called in a hole is the leaf `old`, and the hole stays -/
def Call.marked (call : Call α σ) (old : κ → α) : Call (α ⊕ κ) σ
  | .inl a, world => ⟨(call a world).answer, .inl (call a world).after, (call a world).world⟩
  | .inr k, world => ⟨(call (old k) world).answer, .inr k, (call (old k) world).world⟩

theorem matchesAll_map_iff {f : α → β} {es : List (Expr α)}
    (ih : ∀ e ∈ es, ∀ g, Matches (fun a b => b = f a) e g ↔ g = e.map f) :
    ∀ gs, MatchesAll (fun a b => b = f a) es gs ↔ gs = es.map (Expr.map f) := by
  induction es with
  | nil =>
    intro gs
    cases gs <;> simp [MatchesAll]
  | cons e es ihs =>
    intro gs
    cases gs with
    | nil => simp [MatchesAll]
    | cons g gs =>
      rw [MatchesAll, ih e List.mem_cons_self, ihs fun e' he' => ih e' (List.mem_cons_of_mem _ he'),
        List.map_cons, List.cons.injEq]

/-- a tree matches its image under a map of the leaves, and nothing else -/
theorem matches_map_iff {f : α → β} (e : Expr α) :
    ∀ g, Matches (fun a b => b = f a) e g ↔ g = e.map f := by
  have hall : ∀ es : List (Expr α),
      expandAll (fun a => .leaf (f a)) es = es.map (Expr.map f) := fun es => expandAll_eq_map _ es
  induction e with
  | value v =>
    intro g
    cases g <;> simp [Matches, Expr.map, expand, eq_comm]
  | junction j operands ih =>
    intro g
    cases g <;> simp [Matches, Expr.map, expand, hall, matchesAll_map_iff ih, eq_comm]
  | not operand ih =>
    intro g
    have hnot : (Expr.not operand).map f = .not (operand.map f) := rfl
    cases g <;> simp [Matches, hnot, ih]
  | leaf a =>
    intro g
    cases g <;> simp [Matches, Expr.map, expand]
  | sequential passed pending ihp ihq =>
    intro g
    cases g <;>
      simp [Matches, Expr.map, expand, hall, matchesAll_map_iff ihp, matchesAll_map_iff ihq]
  | parallel policy children ih =>
    intro g
    cases g <;> simp [Matches, Expr.map, expand, hall, matchesAll_map_iff ih, eq_comm]

section
variable {call : Call α σ} {old : κ → α}

/-- **The marks do not show**, if no call changes the leaves in the holes. -/
theorem evaluate_marked (hold : ∀ k world, (call (old k) world).after = old k)
    (t : Expr (α ⊕ κ)) (world : σ) :
    (t.map (Sum.elim id old)).evaluate call world =
      ⟨(t.evaluate (call.marked old) world).answer,
        (t.evaluate (call.marked old) world).after.map (Sum.elim id old),
        (t.evaluate (call.marked old) world).world⟩ := by
  have hstep : Lockstep (fun (x : α ⊕ κ) a => a = Sum.elim id old x) Eq (call.marked old) call := by
    rintro x a w w' rfl rfl
    cases x with
    | inl a => exact ⟨rfl, rfl, rfl⟩
    | inr k => exact ⟨rfl, hold k w, rfl⟩
  have t := evaluate_lockstep hstep t _ world world ((matches_map_iff t _).mpr rfl) rfl
  have hafter := (matches_map_iff _ _).mp t.after
  rw [← hafter, t.answer, t.world]

theorem shape_marked (t : Expr (α ⊕ κ)) (world : σ) :
    (t.evaluate (call.marked old) world).after.shape Sum.getRight? = t.shape Sum.getRight? := by
  refine shape_evaluate (fun x world => ?_) t world
  cases x <;> rfl

end

/-! ## holes that are not reached -/

section
variable {call : Call α σ} {old : κ → α} {content : κ → Expr α}

/-- a tick that answers goes the same way when the holes are filled -/
def Refills (call : Call α σ) (old : κ → α) (content : κ → Expr α) (t : Expr (α ⊕ κ)) : Prop :=
  ∀ world v, (t.evaluate (call.marked old) world).answer = .ok v →
    (t.fill content).evaluate call world =
      ⟨.ok v, (t.evaluate (call.marked old) world).after.fill content,
        (t.evaluate (call.marked old) world).world⟩

theorem evaluateUntil_fill (j : Junction) {ts : List (Expr (α ⊕ κ))}
    (ih : ∀ t ∈ ts, t.Refills call old content) :
    ∀ world b, (evaluateUntil (call.marked old) j ts world).answer = .ok b →
      evaluateUntil call j (ts.map (fill content)) world =
        ⟨.ok b, (evaluateUntil (call.marked old) j ts world).after.map (fill content),
          (evaluateUntil (call.marked old) j ts world).world⟩ := by
  induction ts with
  | nil => exact fun world b h => by rw [← h]; rfl
  | cons t ts ihs =>
    intro world b h
    have hrest := ihs fun t' ht' => ih t' (List.mem_cons_of_mem _ ht')
    cases ha : (t.evaluate (call.marked old) world).answer with
    | error error =>
      rw [evaluateUntil_cons_of_error ha] at h
      exact nomatch h
    | ok v =>
      have hfirst := ih t List.mem_cons_self world v ha
      have ha' : ((t.fill content).evaluate call world).answer = .ok v := by rw [hfirst]
      by_cases hv : v.isTruthy = j.identity
      · rw [evaluateUntil_cons_of_open ha hv] at h ⊢
        rw [List.map_cons, evaluateUntil_cons_of_open ha' hv, hfirst, hrest _ b h]
        rfl
      · rw [evaluateUntil_cons_of_decided ha hv] at h ⊢
        rw [List.map_cons, evaluateUntil_cons_of_decided ha' hv, hfirst, ← h]
        rfl

theorem evaluateOn_fill {ts : List (Expr (α ⊕ κ))} (ih : ∀ t ∈ ts, t.Refills call old content) :
    ∀ world b, (evaluateOn (call.marked old) ts world).answer = .ok b →
      evaluateOn call (ts.map (fill content)) world =
        ⟨.ok b, ((evaluateOn (call.marked old) ts world).after.1.map (fill content),
            (evaluateOn (call.marked old) ts world).after.2.map (fill content)),
          (evaluateOn (call.marked old) ts world).world⟩ := by
  induction ts with
  | nil => exact fun world b h => by rw [← h]; rfl
  | cons t ts ihs =>
    intro world b h
    have hrest := ihs fun t' ht' => ih t' (List.mem_cons_of_mem _ ht')
    cases ha : (t.evaluate (call.marked old) world).answer with
    | error error =>
      rw [evaluateOn_cons_of_error ha] at h
      exact nomatch h
    | ok v =>
      have hfirst := ih t List.mem_cons_self world v ha
      have ha' : ((t.fill content).evaluate call world).answer = .ok v := by rw [hfirst]
      cases hv : v.isTruthy with
      | true =>
        rw [evaluateOn_cons_of_passed ha hv] at h ⊢
        rw [List.map_cons, evaluateOn_cons_of_passed ha' hv, hfirst, hrest _ b h]
        rfl
      | false =>
        rw [evaluateOn_cons_of_stopped ha hv] at h ⊢
        rw [List.map_cons, evaluateOn_cons_of_stopped ha' hv, hfirst, ← h]
        rfl

theorem evaluateAll_fill {ts : List (Expr (α ⊕ κ))} (ih : ∀ t ∈ ts, t.Refills call old content) :
    ∀ world votes, (evaluateAll (call.marked old) ts world).answer = .ok votes →
      evaluateAll call (ts.map (fill content)) world =
        ⟨.ok votes, (evaluateAll (call.marked old) ts world).after.map (fill content),
          (evaluateAll (call.marked old) ts world).world⟩ := by
  induction ts with
  | nil => exact fun world votes h => by rw [← h]; rfl
  | cons t ts ihs =>
    intro world votes h
    have hrest := ihs fun t' ht' => ih t' (List.mem_cons_of_mem _ ht')
    cases ha : (t.evaluate (call.marked old) world).answer with
    | error error =>
      rw [evaluateAll_cons_of_error ha] at h
      exact nomatch h
    | ok v =>
      have hfirst := ih t List.mem_cons_self world v ha
      have ha' : ((t.fill content).evaluate call world).answer = .ok v := by rw [hfirst]
      rw [evaluateAll_cons_of_ok ha] at h ⊢
      obtain ⟨others, hothers, rfl⟩ := map_eq_ok_iff.mp h
      rw [List.map_cons, evaluateAll_cons_of_ok ha', hfirst, hrest _ others hothers]
      rfl

/-- **A tick that answers has reached no hole**: filled with any trees, the tree answers the same,
and what it has been filled with is left as it was. -/
theorem evaluate_fill (hfails : ∀ k world, ∃ error, (call (old k) world).answer = .error error)
    (t : Expr (α ⊕ κ)) : t.Refills call old content := by
  induction t with
  | value v =>
    intro world v' h
    rw [← h]
    rfl
  | junction j operands ih =>
    intro world v h
    rw [evaluate_junction] at h ⊢
    obtain ⟨b, hb, rfl⟩ := map_eq_ok_iff.mp h
    rw [fill_junction, fill_junction, evaluate_junction, evaluateUntil_fill j ih world b hb]
    rfl
  | not operand ih =>
    intro world v h
    rw [evaluate_not] at h ⊢
    obtain ⟨b, hb, rfl⟩ := map_eq_ok_iff.mp h
    rw [fill_not, fill_not, evaluate_not, ih world b hb]
    rfl
  | leaf x =>
    intro world v h
    rw [evaluate_leaf] at h ⊢
    cases x with
    | inl a =>
      show (Expr.leaf a).evaluate call world = _
      rw [evaluate_leaf, ← h]
      rfl
    | inr k =>
      -- a tick that calls a hole does not answer
      obtain ⟨error, herror⟩ := hfails k world
      have hhole : (call.marked old (.inr k) world).answer = .error error := herror
      rw [hhole] at h
      exact nomatch h
  | sequential passed pending _ ih =>
    intro world v h
    rw [evaluate_sequential] at h ⊢
    obtain ⟨b, hb, rfl⟩ := map_eq_ok_iff.mp h
    rw [fill_sequential, fill_sequential, evaluate_sequential, evaluateOn_fill ih world b hb,
      List.map_append]
    rfl
  | parallel policy children ih =>
    intro world v h
    rw [evaluate_parallel] at h ⊢
    obtain ⟨votes, hvotes, rfl⟩ := map_eq_ok_iff.mp h
    rw [fill_parallel, fill_parallel, evaluate_parallel, evaluateAll_fill ih world votes hvotes]
    rfl

end

section
variable {call : Call α σ} {old : κ → α} {world : σ} {v : Value}

/-- what is in the holes does not matter to a tick that answers -/
theorem exists_fill (hstays : ∀ k w, (call (old k) w).after = old k)
    (hfails : ∀ k w, ∃ error, (call (old k) w).answer = .error error) (t : Expr (α ⊕ κ))
    (h : ((t.map (Sum.elim id old)).evaluate call world).answer = .ok v) :
    ∃ after : Expr (α ⊕ κ), after.shape Sum.getRight? = t.shape Sum.getRight? ∧
      ((t.map (Sum.elim id old)).evaluate call world).after = after.map (Sum.elim id old) ∧
      ∀ content : κ → Expr α, (t.fill content).evaluate call world =
        ⟨.ok v, after.fill content, ((t.map (Sum.elim id old)).evaluate call world).world⟩ := by
  have hmarked := evaluate_marked hstays t world
  rw [hmarked] at h ⊢
  exact ⟨_, shape_marked t world, rfl, fun content => evaluate_fill hfails t world v h⟩

theorem called_fill (hstays : ∀ k w, (call (old k) w).after = old k)
    (hfails : ∀ k w, ∃ error, (call (old k) w).answer = .error error) (t : Expr (α ⊕ κ))
    (h : ((t.map (Sum.elim id old)).evaluate call world).answer = .ok v) (content : κ → Expr α) :
    (t.fill content).called call world = (t.map (Sum.elim id old)).called call world := by
  -- the same again for the calls that are written down, and then the journals are the worlds
  have hjournaled := evaluate_journaled call (t.map (Sum.elim id old)) world []
  have hstays' : ∀ k start, (call.journaled (old k) start).after = old k :=
    fun k start => hstays k start.1
  have hfails' : ∀ k start, ∃ error, (call.journaled (old k) start).answer = .error error :=
    fun k start => hfails k start.1
  obtain ⟨after, _, _, hfill⟩ := exists_fill hstays' hfails' t (hjournaled.answer ▸ h)
  rw [called, called, hfill content]

end

/-! ## leaves that are not configured -/

/-- **Leaves that are not configured** are irrelevant unless they are reached, and then they are the
end. Take any tree, with any of these leaves marked as holes, and any state of its cursors, of its
conditions and of the world. If a tick answers with a value, then with any trees in the holes it has
the same answer, calls the same leaves, leaves the same world and, around the holes, the same tree,
and what stands in the holes is left as it was. If it ends in an error, then this is the error of a
leaf that is not configured; the leaves called before are configured and in front of it, and their
calls have had their effects; the leaves behind it are not called. -/
theorem unreached_leaves {π : Type} (family : Condition π σ) :
    (∀ (κ : Type) (t : Expr (Procedure π ⊕ κ)) (old : κ → Procedure π),
      (∀ k, (old k).isConfigured = false) → ∀ world v,
      let e := t.map (Sum.elim id old)
      (e.evaluate (Procedure.call family) world).answer = .ok v →
      ∃ after : Expr (Procedure π ⊕ κ),
        after.shape Sum.getRight? = t.shape Sum.getRight? ∧
        (e.evaluate (Procedure.call family) world).after = after.map (Sum.elim id old) ∧
        ∀ content : κ → Expr (Procedure π),
          (t.fill content).evaluate (Procedure.call family) world =
            ⟨.ok v, after.fill content, (e.evaluate (Procedure.call family) world).world⟩ ∧
          (t.fill content).called (Procedure.call family) world =
            e.called (Procedure.call family) world) ∧
    (∀ (e : Expr (Procedure π)) world error,
      (e.evaluate (Procedure.call family) world).answer = .error error →
      ∃ front p back before front', e.leaves = front ++ p :: back ∧
        p.isConfigured = false ∧ error = .notConfigured p.typeName ∧
        e.called (Procedure.call family) world = before ++ [p] ∧
        (∀ q ∈ before, q.isConfigured = true) ∧
        Calls (Procedure.call family) front world before none front'
          (e.evaluate (Procedure.call family) world).world ∧
        (e.evaluate (Procedure.call family) world).after.leaves = front' ++ p :: back) := by
  refine ⟨?_, fun e world error herror => ?_⟩
  · intro κ t old hold world v e hanswer
    have hcall : ∀ k w, Procedure.call family (old k) w =
        ⟨.error (.notConfigured (old k).typeName), old k, w⟩ :=
      fun k w => Procedure.call_of_not_configured family (hold k) w
    have hstays : ∀ k w, (Procedure.call family (old k) w).after = old k :=
      fun k w => congrArg Turn.after (hcall k w)
    have hfails : ∀ k w, ∃ error, (Procedure.call family (old k) w).answer = .error error :=
      fun k w => ⟨_, congrArg Turn.answer (hcall k w)⟩
    obtain ⟨after, hholes, hafter, hfill⟩ := exists_fill hstays hfails t hanswer
    exact ⟨after, hholes, hafter, fun content =>
      ⟨hfill content, called_fill hstays hfails t hanswer content⟩⟩
  · have hcalls := calls_called (Procedure.call family) e world
    rw [herror] at hcalls
    obtain ⟨front, p, back, before, front', w, hleaves, hcalled, hbefore, hp, hafter, hworld⟩ :=
      hcalls.of_fault
    obtain ⟨hconfigured, herror'⟩ := Procedure.eq_notConfigured_of_call hp
    rw [Procedure.call_of_not_configured family hconfigured] at hafter hworld
    refine ⟨front, p, back, before, front', hleaves, hconfigured, herror', hcalled,
      fun q hq => ?_, ?_, hafter⟩
    · obtain ⟨_, _, hanswer⟩ := hbefore.exists_answer q hq
      exact Procedure.isConfigured_of_call hanswer
    · rw [hworld]
      exact hbefore

/-- a predicate that always says the same -/
def always (b : Bool) : Procedure Builtin :=
  ⟨.predicate, (Constant.start b).typeName, .ready (.constant (Constant.start b))⟩

/-- a predicate of a type that nobody has registered -/
def unknown : Procedure Builtin := ⟨.predicate, "Foggy", .missing "FoggyCondition"⟩

/-- a conjunction behind a predicate that says no, and a sequence that runs into the unknown one -/
theorem unreached_leaves_foggy :
    let call := Procedure.call (Builtin.condition Offline.simulator)
    let world : World Offline := ⟨⟨Offline.start 0.0, #[]⟩, []⟩
    let t : Expr (Procedure Builtin ⊕ Unit) :=
      .junction .and [.leaf (.inl (always false)), .leaf (.inr ())]
    let e : Expr (Procedure Builtin) :=
      .sequential [] [.leaf (always true), .leaf unknown, .leaf (always true)]
    (∀ content, ((t.fill content).evaluate call world).answer = .ok (.bool false) ∧
      (t.fill content).called call world = [always false]) ∧
    (e.evaluate call world).answer = .error (.notConfigured "Foggy") ∧
    ∃ before p, e.called call world = before ++ [p] ∧ p.isConfigured = false ∧
      p.typeName = "Foggy" := by
  intro call world t e
  obtain ⟨hholes, herrors⟩ := unreached_leaves (Builtin.condition Offline.simulator)
  have herror : (e.evaluate call world).answer = .error (.notConfigured "Foggy") := rfl
  refine ⟨fun content => ?_, herror, ?_⟩
  · obtain ⟨after, _, _, hfill⟩ := hholes Unit t (fun _ => unknown) (fun _ => rfl) world
      (.bool false) rfl
    obtain ⟨hevaluate, hcalled⟩ := hfill content
    exact ⟨congrArg Turn.answer hevaluate, hcalled⟩
  · obtain ⟨_, p, _, before, _, _, hconfigured, htype, hcalled, _⟩ := herrors e world _ herror
    exact ⟨before, p, hcalled, hconfigured, (EvaluationError.notConfigured.inj htype).symm⟩

end Expr

end SignalScript
