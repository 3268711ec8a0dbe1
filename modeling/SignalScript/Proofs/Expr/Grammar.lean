import SignalScript.Proofs.Expr.Reading

/-!
# The grammar of scripts

What an expression is, which tree it describes, and what the first offence is where a node is none:
said of nodes alone, and then that the reader goes by it.

* `Node.WellFormed`       a node is an expression;
* `Node.Describes`        a node describes a tree, child by child;
* `Node.Offends`          the first offence of a node in reading order;
* `Expr.verdict_read`     the reader answers with the tree or with the first offence;
* `Expr.read_by_grammar`  so it accepts the expressions and nothing else.
-/

namespace SignalScript

variable {α : Type}

/-! ## the grammar -/

namespace Node

inductive WellFormed : Node → Prop
  | procedure {node name : Node} (h : node.heading? = some ("Type", name)) : WellFormed node
  | negation {node operand : Node} (h : node.heading? = some ("Not", operand))
      (hoperand : WellFormed operand) : WellFormed node
  | list {node : Node} {kind : Listing} {items : List Node} (h : node.Lists kind (.sequence items))
      (hitems : ∀ item ∈ items, WellFormed item) : WellFormed node

/-- the node describes the tree; procedure nodes stand in it loaded -/
inductive Describes (load : Node → α) : Node → Expr α → Prop
  | procedure {node name : Node} (h : node.heading? = some ("Type", name)) :
      Describes load node (.leaf (load node))
  | negation {node operand : Node} {tree : Expr α} (h : node.heading? = some ("Not", operand))
      (hoperand : Describes load operand tree) : Describes load node (.not tree)
  | list {node : Node} {kind : Listing} {children : List (Node × Expr α)}
      (h : node.Lists kind (.sequence (children.map (·.1))))
      (hchildren : ∀ child ∈ children, Describes load child.1 child.2) :
      Describes load node (kind.build (children.map (·.2)))

/-- the first offence against the grammar, when a policy is read before the children it is for, and
children are read in order -/
inductive Offends : Node → ScenarioError → Prop
  | notMapping {node : Node} (h : node.isMapping = false) : Offends node (.unsupported node)
  | noHeading {node : Node} (hmapping : node.isMapping = true) (h : node.heading? = none) :
      Offends node (.unrecognized node)
  | notList {node operand : Node} {kind : Listing} (h : node.Lists kind operand)
      (hother : ∀ items, operand ≠ .sequence items) : Offends node (.unsupported operand)
  | noPolicy {node operand : Node} (h : node.heading? = some ("Parallel", operand))
      (hnone : node.get? "Policy" = none) :
      Offends node (.configuration (.missingKey "Policy" "Parallel" node))
  | unknownPolicy {node operand spelling : Node} {reason : Mismatch}
      (h : node.heading? = some ("Parallel", operand)) (hpolicy : node.get? "Policy" = some spelling)
      (hreason : asName Policy.known spelling = .error reason) :
      Offends node (.configuration (.invalidValue "Policy" reason))
  | operand {node operand : Node} {error : ScenarioError}
      (h : node.heading? = some ("Not", operand)) (hoperand : Offends operand error) :
      Offends node error
  | item {node item : Node} {kind : Listing} {before behind : List Node} {error : ScenarioError}
      (h : node.Lists kind (.sequence (before ++ item :: behind)))
      (hbefore : ∀ earlier ∈ before, WellFormed earlier) (hitem : Offends item error) :
      Offends node error

/-- what the grammar says of the answer of a reader -/
def Verdict (load : Node → α) (node : Node) : Except ScenarioError (Expr α) → Prop
  | .ok tree => node.WellFormed ∧ node.Describes load tree
  | .error error => node.Offends error

/-! ## nodes by their headings -/

theorem heading_cases (node : Node) :
    (∃ kind operand, node.Lists kind operand) ∨
      (∃ operand error, node.heading? = some ("Parallel", operand) ∧
        node.required (asName Policy.known) "Policy" "Parallel" = .error error) ∨
      (∃ operand, node.heading? = some ("Not", operand)) ∨
      (∃ name, node.heading? = some ("Type", name)) ∨ node.heading? = none := by
  rcases h : node.heading? with _ | ⟨key, operand⟩
  · exact .inr (.inr (.inr (.inr rfl)))
  · have hkey : key ∈ grammarKeys := (heading?_spec h).1
    simp only [grammarKeys, List.mem_cons, List.not_mem_nil, or_false] at hkey
    rcases hkey with rfl | rfl | rfl | rfl | rfl | rfl
    · exact .inl ⟨.junction .and, operand, .junction h⟩
    · exact .inl ⟨.junction .or, operand, .junction h⟩
    · exact .inr (.inr (.inl ⟨_, rfl⟩))
    · exact .inl ⟨_, _, .sequential h⟩
    · cases hpolicy : node.required (asName Policy.known) "Policy" "Parallel" with
      | error error => exact .inr (.inl ⟨_, _, rfl, rfl⟩)
      | ok policy =>
        obtain ⟨spelling, hspelling, hname⟩ := required_eq_ok_iff.mp hpolicy
        exact .inl ⟨_, _, .parallel h hspelling (Policy.spelled_iff.mpr hname)⟩
    · exact .inr (.inr (.inr (.inl ⟨_, rfl⟩)))

/-- **Induction on nodes**: in each case the claim is known of what stands under the heading, and of
its items if it is a list. -/
theorem headingInduction {motive : Node → Prop}
    (step : ∀ node, (∀ key operand, node.heading? = some (key, operand) → motive operand) →
      (∀ key items, node.heading? = some (key, .sequence items) → ∀ item ∈ items, motive item) →
      motive node) (node : Node) : motive node := by
  -- whatever is read next is smaller than the node that it stands in
  refine step node (fun key operand h => ?_) (fun key items h item hitem => ?_)
  · have := sizeOf_of_heading h
    exact headingInduction step operand
  · have hlist : sizeOf items < sizeOf node := by
      have := sizeOf_of_heading h
      simp only [sequence.sizeOf_spec] at this
      omega
    have := List.sizeOf_lt_of_mem hitem
    exact headingInduction step item
termination_by sizeOf node

end Node

/-! ## reading a list -/

section
variable {β ε : Type} {f : α → Except ε β}

theorem mapM_eq_ok_iff {xs : List α} {ys : List β} :
    xs.mapM f = .ok ys ↔ ∃ pairs : List (α × β), pairs.map (·.1) = xs ∧ pairs.map (·.2) = ys ∧
      ∀ pair ∈ pairs, f pair.1 = .ok pair.2 := by
  constructor
  · intro h
    induction xs generalizing ys with
    | nil =>
      obtain rfl : [] = ys := Except.ok.inj h
      exact ⟨[], rfl, rfl, nofun⟩
    | cons x xs ih =>
      rw [List.mapM_cons] at h
      cases hx : f x with
      | error error => rw [hx] at h; exact nomatch h
      | ok y =>
        cases hxs : xs.mapM f with
        | error error => rw [hx, hxs] at h; exact nomatch h
        | ok rest =>
          rw [hx, hxs] at h
          obtain rfl : y :: rest = ys := Except.ok.inj h
          obtain ⟨pairs, hfst, hsnd, hpairs⟩ := ih hxs
          exact ⟨(x, y) :: pairs, congrArg (x :: ·) hfst, congrArg (y :: ·) hsnd,
            List.forall_mem_cons.mpr ⟨hx, hpairs⟩⟩
  · rintro ⟨pairs, rfl, rfl, hpairs⟩
    induction pairs with
    | nil => rfl
    | cons pair pairs ih =>
      obtain ⟨hfirst, hrest⟩ := List.forall_mem_cons.mp hpairs
      rw [List.map_cons, List.mapM_cons, hfirst, ih hrest]
      rfl

/-- the error is that of the first element with one -/
theorem mapM_eq_error_iff {xs : List α} {error : ε} :
    xs.mapM f = .error error ↔ ∃ before x behind, xs = before ++ x :: behind ∧
      (∀ earlier ∈ before, ∃ y, f earlier = .ok y) ∧ f x = .error error := by
  constructor
  · intro h
    induction xs with
    | nil => exact nomatch h
    | cons x xs ih =>
      rw [List.mapM_cons] at h
      cases hx : f x with
      | error error' =>
        rw [hx] at h
        obtain rfl : error' = error := Except.error.inj h
        exact ⟨[], x, xs, rfl, nofun, hx⟩
      | ok y =>
        cases hxs : xs.mapM f with
        | ok rest => rw [hx, hxs] at h; exact nomatch h
        | error error' =>
          rw [hx, hxs] at h
          obtain rfl : error' = error := Except.error.inj h
          obtain ⟨before, z, behind, rfl, hbefore, hz⟩ := ih hxs
          exact ⟨x :: before, z, behind, rfl, List.forall_mem_cons.mpr ⟨⟨y, hx⟩, hbefore⟩, hz⟩
  · rintro ⟨before, x, behind, rfl, hbefore, hx⟩
    induction before with
    | nil =>
      rw [List.nil_append, List.mapM_cons, hx]
      rfl
    | cons first before ih =>
      obtain ⟨⟨y, hfirst⟩, hrest⟩ := List.forall_mem_cons.mp hbefore
      rw [List.cons_append, List.mapM_cons, hfirst, ih hrest]
      rfl

end

/-! ## the reader goes by the grammar -/

namespace Expr

variable {π σ : Type} {family : Condition π σ} {registry : Registry π} {node : Node}

theorem verdict_read_of_lists {kind : Listing} {items : List Node}
    (h : node.Lists kind (.sequence items))
    (ih : ∀ item ∈ items, item.Verdict (loaded family registry) (read family registry item)) :
    node.Verdict (loaded family registry) (read family registry node) := by
  rw [read_of_lists h]
  cases hread : items.mapM (read family registry) with
  | ok trees =>
    obtain ⟨children, rfl, rfl, hchildren⟩ := mapM_eq_ok_iff.mp hread
    have hverdict : ∀ child ∈ children,
        child.1.WellFormed ∧ child.1.Describes (loaded family registry) child.2 := by
      intro child hchild
      have hverdict := ih child.1 (List.mem_map_of_mem hchild)
      rw [hchildren child hchild] at hverdict
      exact hverdict
    refine ⟨.list h fun item hitem => ?_, .list h fun child hchild => (hverdict child hchild).2⟩
    obtain ⟨child, hchild, rfl⟩ := List.mem_map.mp hitem
    exact (hverdict child hchild).1
  | error error =>
    obtain ⟨before, item, behind, rfl, hbefore, hitem⟩ := mapM_eq_error_iff.mp hread
    have hoffends : item.Offends error := by
      have hverdict := ih item (List.mem_append_right before List.mem_cons_self)
      rw [hitem] at hverdict
      exact hverdict
    -- the reader has got past the items before this one, so they are expressions
    refine Node.Offends.item h (fun earlier hearlier => ?_) hoffends
    obtain ⟨tree, htree⟩ := hbefore earlier hearlier
    have hverdict := ih earlier (List.mem_append_left _ hearlier)
    rw [htree] at hverdict
    exact hverdict.1

/-- a policy that cannot be read is missing, or unknown -/
theorem offends_of_policy_error {operand : Node} {error : ConfigurationError}
    (h : node.heading? = some ("Parallel", operand))
    (hpolicy : node.required (Node.asName Policy.known) "Policy" "Parallel" = .error error) :
    node.Offends (.configuration error) := by
  cases hspelling : node.get? "Policy" with
  | none =>
    rw [Node.required_of_get?_none hspelling] at hpolicy
    obtain rfl := Except.error.inj hpolicy
    exact .noPolicy h hspelling
  | some spelling =>
    rw [Node.required_of_get?_some hspelling, Node.decodeAt] at hpolicy
    cases hname : Node.asName Policy.known spelling with
    | ok policy => rw [hname] at hpolicy; exact nomatch hpolicy
    | error reason =>
      rw [hname] at hpolicy
      obtain rfl := Except.error.inj hpolicy
      exact .unknownPolicy h hspelling hname

/-- **The reader answers as the grammar says.** -/
theorem verdict_read (family : Condition π σ) (registry : Registry π) (node : Node) :
    node.Verdict (loaded family registry) (read family registry node) := by
  induction node using Node.headingInduction with
  | step node hoperand hitems =>
    obtain ⟨kind, operand, h⟩ | ⟨operand, error, h, hpolicy⟩ | ⟨operand, h⟩ | ⟨name, h⟩ | h :=
      node.heading_cases
    · cases operand with
      | sequence items => exact verdict_read_of_lists h (hitems _ _ h.heading)
      | null | bool | number | text | mapping | tagged =>
        rw [read_of_no_list h nofun]
        exact .notList h nofun
    · rw [read_of_policy_error h hpolicy]
      exact offends_of_policy_error h hpolicy
    · have hverdict := hoperand _ _ h
      rw [read_of_negation h]
      cases hread : read family registry operand with
      | ok tree =>
        rw [hread] at hverdict
        exact ⟨.negation h hverdict.1, .negation h hverdict.2⟩
      | error error =>
        rw [hread] at hverdict
        exact .operand h hverdict
    · rw [read_of_procedure h]
      exact ⟨.procedure h, .procedure h⟩
    · rw [read_of_no_heading h]
      cases hmapping : node.isMapping with
      | true => exact .noHeading hmapping h
      | false => exact .notMapping hmapping

theorem read_of_describes {tree : Expr (Procedure π)}
    (h : node.Describes (loaded family registry) tree) : read family registry node = .ok tree := by
  induction h with
  | procedure h => exact read_of_procedure h
  | negation h _ ih => rw [read_of_negation h, ih]; rfl
  | list h _ ih =>
    rw [read_of_lists h, mapM_eq_ok_iff.mpr ⟨_, rfl, rfl, ih⟩]
    rfl

theorem read_of_wellFormed (family : Condition π σ) (registry : Registry π) (h : node.WellFormed) :
    ∃ tree, read family registry node = .ok tree := by
  induction h with
  | procedure h => exact ⟨_, read_of_procedure h⟩
  | negation h _ ih =>
    obtain ⟨tree, htree⟩ := ih
    exact ⟨.not tree, by rw [read_of_negation h, htree]; rfl⟩
  | @list node kind items h _ ih =>
    rw [read_of_lists h]
    cases hread : items.mapM (read family registry) with
    | ok trees => exact ⟨kind.build trees, rfl⟩
    | error error =>
      obtain ⟨before, item, behind, rfl, _, hitem⟩ := mapM_eq_error_iff.mp hread
      obtain ⟨tree, htree⟩ := ih item (List.mem_append_right before List.mem_cons_self)
      rw [htree] at hitem
      exact nomatch hitem

theorem read_of_offends {error : ScenarioError} (h : node.Offends error) :
    read family registry node = .error error := by
  induction h with
  | @notMapping node h =>
    have hnone : node.heading? = none := by
      cases hheading : node.heading? with
      | none => rfl
      | some heading =>
        rw [Node.isMapping_of_heading hheading] at h
        exact nomatch h
    rw [read_of_no_heading hnone, h]
    rfl
  | noHeading hmapping h => rw [read_of_no_heading h, hmapping]; rfl
  | notList h hother => exact read_of_no_list h hother
  | noPolicy h hnone => exact read_of_policy_error h (Node.required_of_get?_none hnone)
  | unknownPolicy h hpolicy hreason =>
    refine read_of_policy_error h ?_
    rw [Node.required_of_get?_some hpolicy, Node.decodeAt, hreason]
  | operand h _ ih => rw [read_of_negation h, ih]; rfl
  | item h hbefore _ ih =>
    rw [read_of_lists h, mapM_eq_error_iff.mpr ⟨_, _, _, rfl,
      fun earlier hearlier => read_of_wellFormed _ _ (hbefore earlier hearlier), ih⟩]
    rfl

/-- what stands beside the heading has no influence, up to the policy of a parallel list -/
theorem read_eq_of_heading {other operand : Node} {key : String}
    (h : node.heading? = some (key, operand)) (h' : other.heading? = some (key, operand))
    (htype : key ≠ "Type") (hpolicy : key = "Parallel" → ∃ spelling,
      node.get? "Policy" = some spelling ∧ other.get? "Policy" = some spelling) :
    read family registry other = read family registry node := by
  have hkey : key ∈ Node.grammarKeys := (Node.heading?_spec h).1
  simp only [Node.grammarKeys, List.mem_cons, List.not_mem_nil, or_false] at hkey
  rw [read_eq, read_eq, Node.outline_eq, Node.outline_eq, Node.form_of_heading h,
    Node.form_of_heading h']
  rcases hkey with rfl | rfl | rfl | rfl | rfl | rfl
  · rfl
  · rfl
  · rfl
  · rfl
  · obtain ⟨spelling, hspelling, hspelling'⟩ := hpolicy rfl
    have hrequired : other.required (Node.asName Policy.known) "Policy" "Parallel" =
        node.required (Node.asName Policy.known) "Policy" "Parallel" := by
      rw [Node.required_of_get?_some hspelling, Node.required_of_get?_some hspelling']
    simp only [Form.under, hrequired]
  · exact absurd rfl htype

/-- **The reader accepts the grammar and reports the first offence.** A node is read exactly if it is
well formed, and then as the tree that it describes. Otherwise the error is that of its first
offence. A procedure node is an action if it has `Params`. Nodes with the same heading, and with the
same policy if they are parallel lists, are read alike, whatever else stands in them. -/
theorem read_by_grammar (family : Condition π σ) (registry : Registry π) (node : Node) :
    ((∃ tree, read family registry node = .ok tree) ↔ node.WellFormed) ∧
    (∀ tree, read family registry node = .ok tree ↔
      node.Describes (fun leaf => (loadLeaf family registry leaf).1) tree) ∧
    (∀ error, read family registry node = .error error ↔ node.Offends error) ∧
    (∀ leaf, (loadLeaf family registry leaf).1.role = .action ↔
      ∃ params, leaf.get? "Params" = some params) ∧
    ∀ other key operand, node.heading? = some (key, operand) →
      other.heading? = some (key, operand) → key ≠ "Type" →
      (key = "Parallel" → ∃ spelling,
        node.get? "Policy" = some spelling ∧ other.get? "Policy" = some spelling) →
      read family registry other = read family registry node := by
  have hverdict := verdict_read family registry node
  refine ⟨⟨?_, read_of_wellFormed family registry⟩, fun tree => ⟨fun h => ?_, read_of_describes⟩,
    fun error => ⟨fun h => ?_, read_of_offends⟩, fun leaf => ?_,
    fun _ _ _ h h' htype hpolicy => read_eq_of_heading h h' htype hpolicy⟩
  · rintro ⟨tree, h⟩
    rw [h] at hverdict
    exact hverdict.1
  · rw [h] at hverdict
    exact hverdict.2
  · rw [h] at hverdict
    exact hverdict
  · rw [loadLeaf, Procedure.role_load, Procedure.roleOf]
    cases leaf.get? "Params" <;> simp

end Expr

end SignalScript
