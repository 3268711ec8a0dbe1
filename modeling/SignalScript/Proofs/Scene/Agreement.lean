import SignalScript.Proofs.Expr.Shared
import SignalScript.Proofs.Scene.Predicate

/-!
# Children in any order

A procedure that only looks leaves the scene to the next one as it found it. So every child of a
connective has the truth that it has alone, whoever was asked before and whoever is skipped.

* `Procedure.Looks`         configured without an error, and does not act;
* `Procedure.Looks.fixed`   in one scene it always finds the same;
* `Expr.looks_of_read`      the predicates of a script look, once they are configured;
* `Expr.combinators_agree`  and, or and the three policies over expressions that look.
-/

namespace SignalScript

variable {S : Type}

namespace Procedure

/-- configured without an error, with a condition that does not act -/
structure Looks (p : Procedure Builtin) : Prop where
  configured : p.error? = none
  quiet : ∀ c, p.binding = .ready c → c.acts = false

/-- what a procedure answers in a world -/
def finds (sim : Simulator S) (world : World S) (p : Procedure Builtin) : Bool :=
  match (call (Builtin.condition sim) p world).answer with
  | .ok found => found
  | .error _ => false

theorem answer_of_configured {p : Procedure Builtin} (h : p.error? = none) (sim : Simulator S)
    (world : World S) :
    (call (Builtin.condition sim) p world).answer = .ok (p.finds sim world) := by
  obtain ⟨role, typeName, binding⟩ := p
  cases binding with
  | ready c => rfl
  | rejected c error => cases h
  | missing name => cases h

/-- in one scene it always finds the same -/
theorem Looks.fixed {p : Procedure Builtin} (h : p.Looks) (sim : Simulator S) (world : World S) :
    Expr.Fixed (fun w : World S => w.scene = world.scene) (call (Builtin.condition sim))
      (finds sim world) p :=
  Expr.fixed_of_steady (steady_call fun c hc => Builtin.steady_of_not_acts sim (h.quiet c hc))
    (answer_of_configured h.configured sim world)

end Procedure

namespace Expr

/-- the predicates of a script look, when none of its procedures has an error -/
theorem looks_of_read {sim : Simulator S} {registry : Registry Builtin} {node : Node}
    {tree : Expr (Procedure Builtin)} (h : read (Builtin.condition sim) registry node = .ok tree)
    (hroles : ∀ p ∈ tree.leaves, p.role = .predicate) (herrors : tree.errors = []) :
    ∀ p ∈ tree.leaves, p.Looks := by
  intro p hp
  constructor
  case configured => exact List.filterMap_eq_nil_iff.mp herrors p hp
  case quiet =>
    intro c hc
    obtain ⟨_, _, hconfigure, hparams⟩ := exists_configure_of_predicate h hp (hroles p hp) hc
    exact Builtin.acts_of_no_params hconfigure hparams

/-- **The connectives agree** over expressions that look, whatever their cursors: a conjunction and
the policy all tell whether every child is true alone, a disjunction and the policy any whether some
child is, and a majority whether more than half of them are, in any order of the children. This holds
of trees, among them those that a script describes without actions and errors, and of expressions
that share others. -/
theorem combinators_agree (sim : Simulator S) (world : World S) :
    let call := Procedure.call (Builtin.condition sim)
    (∀ children : List (Expr (Procedure Builtin)), (∀ p ∈ leavesOf children, p.Looks) →
      ∃ truth, Agreement call children world truth) ∧
    (∀ node tree, read (Builtin.condition sim) Registry.builtin node = .ok tree →
      (∀ p ∈ tree.leaves, p.role = .predicate) → tree.errors = [] →
        ∀ e : Expr (Procedure Builtin), e.rewound = tree.rewound → ∀ p ∈ e.leaves, p.Looks) ∧
    (∀ (pool : Pool (Procedure Builtin)) (children : List (Expr (Part (Procedure Builtin)))),
      pool.Ordered → (∀ part ∈ leavesOf children, part.Before pool.exprs.length) →
      (∀ e ∈ pool.exprs ++ children, ∀ p, .own p ∈ e.leaves → p.Looks) →
        ∃ truth, Agreement (Pool.callPart call pool.exprs.length) children (pool, world) truth) := by
  intro call
  refine ⟨?trees, ?scripts, ?pools⟩
  case trees =>
    intro children hlooks
    exact ⟨_, agreement_of_fixed (fun p hp => (hlooks p hp).fixed sim world) rfl⟩
  case scripts =>
    intro node tree hread hroles herrors e hcursors
    rw [leaves_eq_of_rewound_eq hcursors]
    exact looks_of_read hread hroles herrors
  case pools =>
    intro pool children hpool hnames hlooks
    have hown : pool.Rests (fun w => w.scene = world.scene) call (Procedure.finds sim world) :=
      fun e he p hp => (hlooks e (List.mem_append_left _ he) p hp).fixed sim world
    refine ⟨_, Pool.agreement_of_rests hpool hown hnames ?_ rfl⟩
    intro p hp
    obtain ⟨e, he, hleaf⟩ := mem_leavesOf.mp hp
    exact (hlooks e (List.mem_append_right _ he) p hleaf).fixed sim world

/-- the wait for red as an expression that others may name -/
def sharedWait : Pool (Procedure Builtin) := ⟨[waitingForRed.map Part.own]⟩

theorem ordered_sharedWait : sharedWait.Ordered := by
  intro key e he part hpart
  match key with
  | 0 =>
    obtain rfl := Option.some.inj he
    rw [leaves_map] at hpart
    obtain ⟨p, _, rfl⟩ := List.mem_map.mp hpart
    trivial
  | key + 1 => exact nomatch he

/-- the wait and its negation agree however they are connected, and so do two names of one wait -/
theorem combinators_agree_waitingForRed :
    let call := Procedure.call (Builtin.condition Offline.simulator)
    let world : World Offline := ⟨⟨Offline.start 0.0, #[]⟩, []⟩
    (∃ truth, Agreement call [waitingForRed, .not waitingForRed] world truth) ∧
      ∃ truth, Agreement (Pool.callPart call 1) [.leaf (.shared 0), .not (.leaf (.shared 0))]
        (sharedWait, world) truth := by
  intro call world
  obtain ⟨trees, scripts, pools⟩ := combinators_agree Offline.simulator world
  have hlooks : ∀ p ∈ waitingForRed.leaves, p.Looks :=
    scripts waitForRed waitingForRed.reset read_waitForRed (by decide) rfl waitingForRed rfl
  refine ⟨trees _ ?_, pools sharedWait _ ordered_sharedWait ?_ ?_⟩
  · intro p hp
    have hleaves : p ∈ waitingForRed.leaves ++ waitingForRed.leaves := hp
    exact (List.mem_append.mp hleaves).elim (hlooks p) (hlooks p)
  · intro part hpart
    have hleaves : part ∈ [Part.shared 0, Part.shared 0] := hpart
    obtain rfl : part = .shared 0 := by simpa using hleaves
    exact Nat.one_pos
  · intro e he p hp
    have hexprs : e ∈ [waitingForRed.map Part.own, .leaf (.shared 0), .not (.leaf (.shared 0))] := he
    simp only [List.mem_cons, List.not_mem_nil, or_false] at hexprs
    obtain rfl | rfl | rfl := hexprs
    · rw [leaves_map] at hp
      obtain ⟨_, hleaf, hsame⟩ := List.mem_map.mp hp
      exact hlooks p (Part.own.inj hsame ▸ hleaf)
    · exact nomatch hp
    · exact nomatch hp

end Expr

end SignalScript
