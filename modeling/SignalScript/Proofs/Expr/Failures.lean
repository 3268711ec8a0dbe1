import SignalScript.Proofs.Expr.Grammar

/-!
# Procedures that are not configured

A procedure whose condition is unknown, or rejects its node, stands in the tree with its error, and
the error is logged. What stands beside it in the tree has no influence on that.

* `Node.Holds`             the procedure nodes below a node, in reading order;
* `Node.Describes.holds`   they are the leaves of the tree that the node describes;
* `Procedure.filter_load`  loading a procedure logs its error, if it has one;
* `Expr.failures_alone`    errors and log of a tree that was read.
-/

namespace SignalScript

variable {α : Type}

/-! ## procedure nodes -/

namespace Node

/-- the procedure nodes below a node, in reading order -/
inductive Holds : Node → List Node → Prop
  | procedure {node name : Node} (h : node.heading? = some ("Type", name)) : Holds node [node]
  | negation {node operand : Node} {leaves : List Node} (h : node.heading? = some ("Not", operand))
      (hoperand : Holds operand leaves) : Holds node leaves
  | list {node : Node} {kind : Listing} {children : List (Node × List Node)}
      (h : node.Lists kind (.sequence (children.map (·.1))))
      (hchildren : ∀ child ∈ children, Holds child.1 child.2) :
      Holds node (children.flatMap (·.2))

theorem Holds.heading {node : Node} {leaves : List Node} (h : node.Holds leaves) :
    ∀ leaf ∈ leaves, ∃ name, leaf.heading? = some ("Type", name) := by
  induction h with
  | procedure h => exact List.forall_mem_singleton.mpr ⟨_, h⟩
  | negation _ _ ih => exact ih
  | list _ _ ih =>
    intro leaf hleaf
    obtain ⟨child, hchild, hmem⟩ := List.mem_flatMap.mp hleaf
    exact ih child hchild leaf hmem

end Node

theorem Listing.leaves_build (kind : Listing) (children : List (Expr α)) :
    (kind.build children).leaves = Expr.leavesOf children := by
  cases kind <;> rfl

namespace Node

/-- the leaves below the children of a list are those of each child, one after the other -/
theorem exists_held {load : Node → α} {children : List (Node × Expr α)}
    (h : ∀ child ∈ children, ∃ leaves, child.1.Holds leaves ∧ child.2.leaves = leaves.map load) :
    ∃ held : List (Node × List Node), held.map (·.1) = children.map (·.1) ∧
      (∀ child ∈ held, child.1.Holds child.2) ∧
      Expr.leavesOf (children.map (·.2)) = (held.flatMap (·.2)).map load := by
  induction children with
  | nil => exact ⟨[], rfl, nofun, rfl⟩
  | cons child rest ih =>
    obtain ⟨⟨leaves, hholds, hleaves⟩, hrest⟩ := List.forall_mem_cons.mp h
    obtain ⟨held, hnodes, hheld, hothers⟩ := ih hrest
    refine ⟨(child.1, leaves) :: held, ?_, List.forall_mem_cons.mpr ⟨hholds, hheld⟩, ?_⟩
    · rw [List.map_cons, List.map_cons, hnodes]
    · rw [List.map_cons, Expr.leavesOf_cons, hleaves, hothers, List.flatMap_cons, List.map_append]

theorem Describes.holds {load : Node → α} {node : Node} {tree : Expr α}
    (h : node.Describes load tree) :
    ∃ leaves, node.Holds leaves ∧ tree.leaves = leaves.map load := by
  induction h with
  | procedure h => exact ⟨_, .procedure h, rfl⟩
  | negation h _ ih =>
    obtain ⟨leaves, hholds, hleaves⟩ := ih
    exact ⟨leaves, .negation h hholds, hleaves⟩
  | @list node kind children h _ ih =>
    -- the same children, each with its procedure nodes in place of its tree
    obtain ⟨held, hnodes, hheld, hleaves⟩ := exists_held ih
    rw [← hnodes] at h
    exact ⟨_, .list h hheld, (kind.leaves_build _).trans hleaves⟩

end Node

/-! ## loading -/

namespace Procedure

variable {π σ : Type} (family : Condition π σ) (registry : Registry π)

/-- a procedure that fails to load is logged with its error, and no other is logged as one -/
theorem filter_load (role : Role) (node : Node) :
    [(load family registry role node).2].filter (·.level = .error) =
      (load family registry role node).1.error?.toList.map fun error => .error error.message := by
  cases hfresh : registry.create? (typeOf node ++ conditionSuffix) with
  | none =>
    rw [load_of_unknown hfresh]
    rfl
  | some fresh =>
    rcases hconfigure : family.configure node fresh with ⟨result, condition⟩
    cases result with
    | ok _ =>
      rw [load_of_configured hfresh hconfigure]
      rfl
    | error error =>
      rw [load_of_rejected hfresh hconfigure]
      rfl

theorem filter_loads (leaves : List Node) :
    (leaves.map fun leaf => (Expr.loadLeaf family registry leaf).2).filter (·.level = .error) =
      ((leaves.map (Expr.loaded family registry)).filterMap error?).map fun error =>
        .error error.message := by
  induction leaves with
  | nil => rfl
  | cons leaf rest ih =>
    have hfirst : [(Expr.loadLeaf family registry leaf).2].filter (·.level = .error) =
        (Expr.loaded family registry leaf).error?.toList.map fun error => .error error.message :=
      filter_load family registry (roleOf leaf) leaf
    rw [List.map_cons, ← List.singleton_append, List.filter_append, ih, hfirst, List.map_cons,
      List.filterMap_cons]
    cases (Expr.loaded family registry leaf).error? <;> rfl

end Procedure

/-! ## reading -/

namespace Expr

variable {π σ : Type} {family : Condition π σ} {registry : Registry π} {node : Node}
  {tree : Expr (Procedure π)}

/-- the log of reading tells the errors of the tree -/
theorem filter_readLog (h : read family registry node = .ok tree) :
    (readLog family registry node).filter (·.level = .error) =
      tree.errors.map fun error => .error error.message := by
  unfold read at h
  unfold readLog errors
  cases hshape : node.outline with
  | error offence =>
    rw [hshape] at h
    exact nomatch h
  | ok shape =>
    rw [hshape] at h
    obtain rfl := Except.ok.inj h
    rw [leaves_map]
    exact Procedure.filter_loads family registry shape.leaves

/-- the procedures with an error are those that are not configured -/
theorem exists_failures (sites : List (Node × Procedure π)) :
    ∃ failures : List (Node × ConfigurationError),
      failures.map (·.1) = (sites.filter fun site => !site.2.isConfigured).map (·.1) ∧
      failures.map (·.2) = (sites.map (·.2)).filterMap Procedure.error? ∧
      ∀ failure ∈ failures, ∃ site ∈ sites,
        site.1 = failure.1 ∧ site.2.error? = some failure.2 := by
  induction sites with
  | nil => exact ⟨[], rfl, rfl, nofun⟩
  | cons site rest ih =>
    obtain ⟨failures, hnodes, herrors, hfailures⟩ := ih
    have hlater : ∀ failure ∈ failures, ∃ other ∈ site :: rest,
        other.1 = failure.1 ∧ other.2.error? = some failure.2 := by
      intro failure hfailure
      obtain ⟨other, hother, hsame⟩ := hfailures failure hfailure
      exact ⟨other, List.mem_cons_of_mem _ hother, hsame⟩
    cases herror : site.2.error? with
    | none =>
      have hconfigured : site.2.isConfigured = true := (Procedure.isConfigured_iff _).mpr herror
      refine ⟨failures, ?_, ?_, hlater⟩
      · rw [List.filter_cons_of_neg (by simp [hconfigured]), hnodes]
      · rw [List.map_cons, List.filterMap_cons_none herror, herrors]
    | some error =>
      have hconfigured : site.2.isConfigured = false := by
        rw [Bool.eq_false_iff, ne_eq, Procedure.isConfigured_iff, herror]
        nofun
      refine ⟨(site.1, error) :: failures, ?_, ?_,
        List.forall_mem_cons.mpr ⟨⟨site, List.mem_cons_self, rfl, herror⟩, hlater⟩⟩
      · rw [List.filter_cons_of_pos (by simp [hconfigured]), List.map_cons, List.map_cons, hnodes]
      · rw [List.map_cons, List.map_cons, List.filterMap_cons_some herror, herrors]

theorem errors_leaf (p : Procedure π) : (leaf p : Expr (Procedure π)).errors = p.error?.toList := by
  show [p].filterMap Procedure.error? = _
  cases herror : p.error? <;> simp [herror]

/-- **Each failure is stored once and logged once**, and stands for itself. The procedures of a tree
that was read are those of the procedure nodes, in reading order. The errors of the tree belong one
by one to the nodes whose procedures are not configured, in that order, and each is the error that
comes of reading its node alone. A procedure node that is read alone without an error is configured
in the tree. What is logged as an error meanwhile are the errors of the tree, each once, in
order. -/
theorem failures_alone (hread : read family registry node = .ok tree) :
    ∃ sites : List (Node × Procedure π),
      node.Holds (sites.map (·.1)) ∧ tree.leaves = sites.map (·.2) ∧
      (∃ failures : List (Node × ConfigurationError),
        failures.map (·.1) = (sites.filter fun site => !site.2.isConfigured).map (·.1) ∧
        tree.errors = failures.map (·.2) ∧
        ∀ failure ∈ failures, ∃ alone,
          read family registry failure.1 = .ok alone ∧ alone.errors = [failure.2]) ∧
      (∀ site ∈ sites, ∃ alone, read family registry site.1 = .ok alone ∧
        (alone.errors = [] → site.2.isConfigured = true)) ∧
      (readLog family registry node).filter (·.level = .error) =
        tree.errors.map fun error => .error error.message := by
  have hverdict := verdict_read family registry node
  rw [hread] at hverdict
  obtain ⟨leaves, hholds, hleaves⟩ := hverdict.2.holds
  let sites := leaves.map fun leaf => (leaf, loaded family registry leaf)
  have hnodes : sites.map (·.1) = leaves := by simp [sites, Function.comp_def]
  have hprocedures : sites.map (·.2) = tree.leaves := by simp [sites, hleaves]
  have halone : ∀ site ∈ sites, read family registry site.1 = .ok (.leaf site.2) := by
    intro site hsite
    obtain ⟨leaf, hleaf, rfl⟩ := List.mem_map.mp hsite
    obtain ⟨name, hname⟩ := hholds.heading leaf hleaf
    exact read_of_procedure hname
  obtain ⟨failures, hfailing, herrors, hfailures⟩ := exists_failures sites
  refine ⟨sites, hnodes ▸ hholds, hprocedures.symm, ⟨failures, hfailing, ?_, ?_⟩, ?_,
    filter_readLog hread⟩
  · rw [herrors, hprocedures]
    rfl
  · intro failure hfailure
    obtain ⟨site, hsite, hsame, herror⟩ := hfailures failure hfailure
    refine ⟨_, hsame ▸ halone site hsite, ?_⟩
    rw [errors_leaf, herror]
    rfl
  · intro site hsite
    refine ⟨_, halone site hsite, fun hnone => ?_⟩
    rw [errors_leaf, Option.toList_eq_nil_iff] at hnone
    exact (Procedure.isConfigured_iff _).mpr hnone

/-- a procedure node with nothing but a type -/
def ofType (type : String) : Node := .mapping [(.text "Type", .text type)]

/-- a node: a type that is unknown, one that asks for more than it is given, and a good one -/
def mixed : Node :=
  .mapping [(.text "All", .sequence [ofType "Nope",
    .mapping [(.text "Not", ofType "TrafficLightState")], ofType "AlwaysTrue"])]

theorem describes_mixed {α : Type} (load : Node → α) :
    mixed.Describes load (.junction .and [.leaf (load (ofType "Nope")),
      .not (.leaf (load (ofType "TrafficLightState"))), .leaf (load (ofType "AlwaysTrue"))]) := by
  let children : List (Node × Expr α) :=
    [(ofType "Nope", .leaf (load (ofType "Nope"))),
      (.mapping [(.text "Not", ofType "TrafficLightState")],
        .not (.leaf (load (ofType "TrafficLightState")))),
      (ofType "AlwaysTrue", .leaf (load (ofType "AlwaysTrue")))]
  have hlists : mixed.Lists (.junction .and) (.sequence (children.map (·.1))) := .junction rfl
  refine .list hlists fun child hchild => ?_
  simp only [children, List.mem_cons, List.not_mem_nil, or_false] at hchild
  obtain rfl | rfl | rfl := hchild
  · exact .procedure rfl
  · exact .negation rfl (.procedure rfl)
  · exact .procedure rfl

/-- Both errors are in the log, in the order of their nodes. -/
theorem failures_alone_mixed :
    (readLog (Builtin.condition Offline.simulator) Registry.builtin mixed).filter
        (·.level = .error) =
      [.error "Failed to load procedure 'NopeCondition': no condition registered under that name",
        .error ("TrafficLightState requires key 'TrafficLightId': " ++
          (ofType "TrafficLightState").describe)] := by
  obtain ⟨_, _, _, _, _, hlog⟩ := failures_alone
    (read_of_describes (describes_mixed (loaded (Builtin.condition Offline.simulator)
      Registry.builtin)))
  rw [hlog]
  rfl

end Expr

end SignalScript
