import SignalScript.Proofs.Expr.Journal
import SignalScript.Proofs.Expr.Sweep

/-!
# The calls of a tick

A tick goes through the leaves of a tree in reading order. It calls some of them, each in the world
that the calls before it have left, and passes over the others. A call that fails is the last one.

* `Expr.Calls`            which of the leaves are called, and what becomes of leaves and world;
* `Expr.Calls.append`     calls of some leaves, and then of the leaves behind them;
* `Expr.exists_calls`     a tick of a tree comes down to such calls;
* `Expr.calls_called`     these calls are the ones that are written down;
* `Expr.Calls.of_fault`   the call that fails, with the calls before it and the leaves behind it.
-/

namespace SignalScript

namespace Expr

variable {α σ : Type}

/-- some of the leaves are called, in order: the leaves that are called, the error of the last call
if it fails, and what becomes of the leaves and the world -/
inductive Calls (call : Call α σ) :
    List α → σ → List α → Option EvaluationError → List α → σ → Prop where
  /-- no more leaves are called -/
  | stop (as : List α) (world : σ) : Calls call as world [] none as world
  /-- a leaf is passed over -/
  | pass {as as' called : List α} {world world' : σ} {fault : Option EvaluationError} (a : α)
    (hrest : Calls call as world called fault as' world') :
    Calls call (a :: as) world called fault (a :: as') world'
  /-- a leaf answers -/
  | next {a : α} {as as' called : List α} {world world' : σ} {fault : Option EvaluationError}
    {b : Bool} (ha : (call a world).answer = .ok b)
    (hrest : Calls call as (call a world).world called fault as' world') :
    Calls call (a :: as) world (a :: called) fault ((call a world).after :: as') world'
  /-- a leaf fails -/
  | fault {a : α} {world : σ} {error : EvaluationError} (ha : (call a world).answer = .error error)
    (as : List α) :
    Calls call (a :: as) world [a] (some error) ((call a world).after :: as) (call a world).world

namespace Calls

variable {call : Call α σ} {as as' bs bs' called called' : List α} {world world' world'' : σ}
  {fault : Option EvaluationError}

theorem passAll (as : List α) (h : Calls call bs world called fault bs' world') :
    Calls call (as ++ bs) world called fault (as ++ bs') world' := by
  induction as with
  | nil => exact h
  | cons a as ih => exact .pass a ih

theorem behind (h : Calls call as world called fault as' world') (bs : List α) :
    Calls call (as ++ bs) world called fault (as' ++ bs) world' := by
  induction h with
  | stop as world => exact .stop (as ++ bs) world
  | pass a _ ih => exact .pass a ih
  | next ha _ ih => exact .next ha ih
  | fault ha as => exact .fault ha (as ++ bs)

/-- as long as none has failed the calls go on with the leaves behind -/
theorem append (h : Calls call as world called none as' world')
    (h' : Calls call bs world' called' fault bs' world'') :
    Calls call (as ++ bs) world (called ++ called') fault (as' ++ bs') world'' := by
  generalize hnone : (none : Option EvaluationError) = first at h
  induction h with
  | stop as world => exact h'.passAll as
  | pass a _ ih => exact .pass a (ih h' hnone)
  | next ha _ ih => exact .next ha (ih h' hnone)
  | fault => exact nomatch hnone

theorem exists_answer (h : Calls call as world called none as' world') :
    ∀ a ∈ called, ∃ w b, (call a w).answer = .ok b := by
  generalize hnone : (none : Option EvaluationError) = first at h
  induction h with
  | stop as world => exact fun a ha => absurd ha List.not_mem_nil
  | pass _ _ ih => exact ih hnone
  | @next a _ _ _ world _ _ b ha _ ih =>
    exact List.forall_mem_cons.mpr ⟨⟨world, b, ha⟩, ih hnone⟩
  | fault => exact nomatch hnone

/-- **A failure**: the leaves in front of the one that fails have had their calls, and the leaves
behind it are left as they were. -/
theorem of_fault {error : EvaluationError}
    (h : Calls call as world called (some error) as' world') :
    ∃ front a back before front' w, as = front ++ a :: back ∧ called = before ++ [a] ∧
      Calls call front world before none front' w ∧ (call a w).answer = .error error ∧
      as' = front' ++ (call a w).after :: back ∧ world' = (call a w).world := by
  generalize hsome : some error = last at h
  induction h with
  | stop => exact nomatch hsome
  | pass b _ ih =>
    obtain ⟨front, a, back, before, front', w, rfl, rfl, hbefore, ha, rfl, rfl⟩ := ih hsome
    exact ⟨b :: front, a, back, before, b :: front', w, rfl, rfl, .pass b hbefore, ha, rfl, rfl⟩
  | @next b _ _ _ world _ _ _ hb _ ih =>
    obtain ⟨front, a, back, before, front', w, rfl, rfl, hbefore, ha, rfl, rfl⟩ := ih hsome
    exact ⟨b :: front, a, back, b :: before, (call b world).after :: front', w, rfl, rfl,
      .next hb hbefore, ha, rfl, rfl⟩
  | @fault a world _ ha as =>
    obtain rfl := Option.some.inj hsome
    exact ⟨[], a, as, [], [], world, rfl, rfl, .stop [] world, ha, rfl, rfl⟩

theorem of_journaled {start finish : σ × List α}
    (h : Calls call.journaled as start called fault as' finish) :
    Calls call as start.1 called fault as' finish.1 ∧ finish.2 = start.2 ++ called := by
  induction h with
  | stop as start => exact ⟨.stop as start.1, (List.append_nil _).symm⟩
  | pass a _ ih => exact ⟨.pass a ih.1, ih.2⟩
  | @next a _ _ called start _ _ b ha _ ih =>
    refine ⟨.next ha ih.1, ih.2.trans ?_⟩
    show start.2 ++ [a] ++ called = start.2 ++ a :: called
    rw [List.append_assoc, List.singleton_append]
  | @fault a start error ha as =>
    have hfails : (call a start.1).answer = .error error := ha
    exact ⟨.fault hfails as, rfl⟩

end Calls

/-! ## the calls of a tree -/

section
variable {call : Call α σ}

/-- a tick of the tree, in any world, comes down to calls of its leaves -/
def GoesByCalls (call : Call α σ) (e : Expr α) : Prop :=
  ∀ world, ∃ called, Calls call e.leaves world called (fault? (e.evaluate call world).answer)
    (e.evaluate call world).after.leaves (e.evaluate call world).world

theorem Sweep.exists_calls {es fs : List (Expr α)} {world world' : σ}
    {fault : Option EvaluationError} (h : Sweep call es world fault fs world')
    (ih : ∀ e ∈ es, e.GoesByCalls call) :
    ∃ called, Calls call (leavesOf es) world called fault (leavesOf fs) world' := by
  induction h with
  | stop es world => exact ⟨[], .stop (leavesOf es) world⟩
  | @fault e world error he rest =>
    obtain ⟨called, hcalls⟩ := ih e List.mem_cons_self world
    rw [he] at hcalls
    exact ⟨called, hcalls.behind (leavesOf rest)⟩
  | @next e world world' v es fs fault he _ ihs =>
    obtain ⟨called, hcalls⟩ := ih e List.mem_cons_self world
    obtain ⟨others, hothers⟩ := ihs fun e' he' => ih e' (List.mem_cons_of_mem _ he')
    rw [he] at hcalls
    exact ⟨called ++ others, hcalls.append hothers⟩

/-- **A tick comes down to calls** of leaves, in reading order. -/
theorem exists_calls (call : Call α σ) (e : Expr α) : e.GoesByCalls call := by
  induction e with
  | value v => exact fun world => ⟨[], .stop [] world⟩
  | junction j operands ih =>
    intro world
    obtain ⟨called, hcalls⟩ := (sweep_until call j operands world).exists_calls ih
    rw [evaluate_junction, fault?_map]
    exact ⟨called, hcalls⟩
  | not operand ih =>
    intro world
    obtain ⟨called, hcalls⟩ := ih world
    rw [evaluate_not, fault?_map]
    exact ⟨called, hcalls⟩
  | leaf a =>
    intro world
    rw [evaluate_leaf, fault?_map]
    cases ha : (call a world).answer with
    | ok b => exact ⟨[a], .next ha (.stop [] _)⟩
    | error error => exact ⟨[a], .fault ha []⟩
  | sequential passed pending _ ih =>
    intro world
    obtain ⟨called, hcalls⟩ := (sweep_on call pending world).exists_calls ih
    -- the children that have passed are not called
    have hbehind := hcalls.passAll (leavesOf passed)
    have hafter : ∀ first second : List (Expr α), leavesOf passed ++ leavesOf (first ++ second) =
        leavesOf (passed ++ first) ++ leavesOf second := by
      intro first second
      rw [leavesOf_append, leavesOf_append, List.append_assoc]
    rw [hafter] at hbehind
    rw [evaluate_sequential, fault?_map]
    exact ⟨called, hbehind⟩
  | parallel policy children ih =>
    intro world
    obtain ⟨called, hcalls⟩ := (sweep_all call children world).exists_calls ih
    rw [evaluate_parallel, fault?_map]
    exact ⟨called, hcalls⟩

end

/-- the leaves that a tick calls, in order and as they were called -/
def called (call : Call α σ) (e : Expr α) (world : σ) : List α :=
  (e.evaluate call.journaled (world, [])).world.2

/-- **The calls that are written down** are the calls that a tick comes down to. -/
theorem calls_called (call : Call α σ) (e : Expr α) (world : σ) :
    Calls call e.leaves world (e.called call world) (fault? (e.evaluate call world).answer)
      (e.evaluate call world).after.leaves (e.evaluate call world).world := by
  obtain ⟨called, hcalls⟩ := exists_calls call.journaled e (world, [])
  obtain ⟨hsame, hjournal⟩ := hcalls.of_journaled
  have t := evaluate_journaled call e world []
  rw [Expr.called, hjournal, t.answer, t.after, t.world]
  exact hsame

end Expr

end SignalScript
