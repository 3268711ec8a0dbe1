import SignalScript.Proofs.Expr.Journal
import SignalScript.Proofs.Expr.Sweep

/-!
# Which trees a tick evaluates

A tree inside another one has a place there: the children to follow from the root. A tick evaluates
some of the trees inside a tree, and here they are listed in the order in which it does.

* `Expr.sites`          every tree inside a tree with its place, in reading order;
* `Expr.tour`           those that a tick evaluates, in order;
* `Expr.tour_sublist`   a tick never goes back in reading order, and no tree is evaluated twice;
* `Expr.journal_tour`   the leaves that a tick calls are the leaves on its tour;
* `Expr.complete_tour`  when no leaf fails, a parallel tree is on the tour with all its children.
-/

namespace SignalScript

/-- a tree inside another one, and the children that lead to it from the root -/
structure Site (α : Type) where
  place : List Nat
  tree : Expr α

namespace Site

variable {α : Type}

/-- the same tree seen from one level higher, as a part of child `k` -/
def below (k : Nat) (site : Site α) : Site α := ⟨k :: site.place, site.tree⟩

def leaf? (site : Site α) : Option α :=
  match site.tree with
  | .leaf a => some a
  | _ => none

theorem filterMap_leaf?_below (k : Nat) (sites : List (Site α)) :
    (sites.map (below k)).filterMap leaf? = sites.filterMap leaf? := by
  rw [List.filterMap_map]
  rfl

theorem map_place_below (k : Nat) (sites : List (Site α)) :
    (sites.map (below k)).map place = (sites.map place).map (k :: ·) := by
  rw [List.map_map, List.map_map]
  rfl

end Site

namespace Expr

variable {α σ : Type}

/-! ## sites -/

mutual

/-- every tree inside a tree, in reading order; children are counted from 0, and in a sequence
those that have passed come first -/
def sites : Expr α → List (Site α)
  | .value v => [⟨[], .value v⟩]
  | .junction j operands => ⟨[], .junction j operands⟩ :: sitesFrom 0 operands
  | .not operand => ⟨[], .not operand⟩ :: (sites operand).map (Site.below 0)
  | .leaf a => [⟨[], .leaf a⟩]
  | .sequential passed pending =>
    ⟨[], .sequential passed pending⟩ :: (sitesFrom 0 passed ++ sitesFrom passed.length pending)
  | .parallel policy children => ⟨[], .parallel policy children⟩ :: sitesFrom 0 children

def sitesFrom (k : Nat) : List (Expr α) → List (Site α)
  | [] => []
  | e :: rest => (sites e).map (Site.below k) ++ sitesFrom (k + 1) rest

end

theorem sitesFrom_cons (k : Nat) (e : Expr α) (es : List (Expr α)) :
    sitesFrom k (e :: es) = e.sites.map (Site.below k) ++ sitesFrom (k + 1) es := rfl

theorem sitesFrom_append (es fs : List (Expr α)) :
    ∀ k, sitesFrom k (es ++ fs) = sitesFrom k es ++ sitesFrom (k + es.length) fs := by
  induction es with
  | nil => intro k; rfl
  | cons e es ih =>
    intro k
    have hlength : k + 1 + es.length = k + (e :: es).length := by
      rw [List.length_cons]
      omega
    rw [List.cons_append, sitesFrom_cons, ih, hlength, sitesFrom_cons, List.append_assoc]

theorem sites_not (operand : Expr α) :
    (Expr.not operand).sites = ⟨[], .not operand⟩ :: sitesFrom 0 [operand] := by
  show _ = _ :: ((sites operand).map (Site.below 0) ++ [])
  rw [List.append_nil]
  rfl

/-- in a sequence it does not matter for the places who has passed -/
theorem sites_sequential (passed pending : List (Expr α)) :
    (Expr.sequential passed pending).sites =
      ⟨[], .sequential passed pending⟩ :: sitesFrom 0 (passed ++ pending) := by
  rw [sitesFrom_append, Nat.zero_add]
  rfl

theorem leaves_sitesFrom {es : List (Expr α)}
    (ih : ∀ e ∈ es, e.sites.filterMap Site.leaf? = e.leaves) :
    ∀ k, (sitesFrom k es).filterMap Site.leaf? = leavesOf es := by
  induction es with
  | nil => intro k; rfl
  | cons e es ihs =>
    intro k
    have hrest := ihs (fun e' he' => ih e' (List.mem_cons_of_mem _ he')) (k + 1)
    rw [sitesFrom_cons, List.filterMap_append, Site.filterMap_leaf?_below, hrest,
      ih e List.mem_cons_self, leavesOf_cons]

/-- the leaves are found at their sites -/
theorem leaves_sites (e : Expr α) : e.sites.filterMap Site.leaf? = e.leaves := by
  induction e with
  | value v => rfl
  | junction j operands ih => exact leaves_sitesFrom ih 0
  | not operand ih =>
    show ((sites operand).map (Site.below 0)).filterMap Site.leaf? = operand.leaves
    rw [Site.filterMap_leaf?_below, ih]
  | leaf a => rfl
  | sequential passed pending ihp ihq =>
    have hall : ∀ e ∈ passed ++ pending, e.sites.filterMap Site.leaf? = e.leaves := by
      intro e he
      rcases List.mem_append.mp he with he | he
      · exact ihp e he
      · exact ihq e he
    rw [sites_sequential]
    show (sitesFrom 0 (passed ++ pending)).filterMap Site.leaf? = leavesOf passed ++ leavesOf pending
    rw [leaves_sitesFrom hall, leavesOf_append]
  | parallel policy children ih => exact leaves_sitesFrom ih 0

/-! ## no place is taken twice -/

theorem exists_place_of_mem_sitesFrom (es : List (Expr α)) :
    ∀ k, ∀ place ∈ (sitesFrom k es).map Site.place, ∃ i rest, k ≤ i ∧ place = i :: rest := by
  induction es with
  | nil => intro k place hplace; exact absurd hplace List.not_mem_nil
  | cons e es ih =>
    intro k place hplace
    rw [sitesFrom_cons, List.map_append, Site.map_place_below] at hplace
    rcases List.mem_append.mp hplace with hfirst | hrest
    · obtain ⟨rest, _, rfl⟩ := List.mem_map.mp hfirst
      exact ⟨k, rest, Nat.le_refl k, rfl⟩
    · obtain ⟨i, rest, hle, rfl⟩ := ih (k + 1) place hrest
      exact ⟨i, rest, by omega, rfl⟩

theorem nodup_sitesFrom {es : List (Expr α)} (ih : ∀ e ∈ es, (e.sites.map Site.place).Nodup) :
    ∀ k, ((sitesFrom k es).map Site.place).Nodup := by
  induction es with
  | nil => intro k; exact List.nodup_nil
  | cons e es ihs =>
    intro k
    have hrest := ihs (fun e' he' => ih e' (List.mem_cons_of_mem _ he')) (k + 1)
    have hfirst : ((e.sites.map Site.place).map (k :: ·)).Nodup :=
      List.Pairwise.map _ (fun _ _ hne heq => hne (List.cons.inj heq).2) (ih e List.mem_cons_self)
    rw [sitesFrom_cons, List.map_append, Site.map_place_below, List.nodup_append]
    refine ⟨hfirst, hrest, ?_⟩
    -- the places of the first child start with `k`, all the others with more
    rintro place hplace _ hother rfl
    obtain ⟨rest, _, rfl⟩ := List.mem_map.mp hplace
    obtain ⟨i, rest', hle, heq⟩ := exists_place_of_mem_sitesFrom es (k + 1) _ hother
    have hk : k = i := (List.cons.inj heq).1
    omega

theorem nodup_root (e : Expr α) {es : List (Expr α)}
    (ih : ∀ e ∈ es, (e.sites.map Site.place).Nodup) :
    ((⟨[], e⟩ :: sitesFrom 0 es : List (Site α)).map Site.place).Nodup := by
  refine List.nodup_cons.mpr ⟨fun hroot => ?_, nodup_sitesFrom ih 0⟩
  obtain ⟨_, _, _, heq⟩ := exists_place_of_mem_sitesFrom es 0 _ hroot
  exact nomatch heq

/-- every tree inside a tree has a place of its own -/
theorem nodup_sites (e : Expr α) : (e.sites.map Site.place).Nodup := by
  induction e with
  | value v => exact List.pairwise_singleton _ _
  | junction j operands ih => exact nodup_root _ ih
  | not operand ih =>
    rw [sites_not]
    exact nodup_root _ fun e he => List.mem_singleton.mp he ▸ ih
  | leaf a => exact List.pairwise_singleton _ _
  | sequential passed pending ihp ihq =>
    rw [sites_sequential]
    refine nodup_root _ fun e he => ?_
    rcases List.mem_append.mp he with he | he
    · exact ihp e he
    · exact ihq e he
  | parallel policy children ih => exact nodup_root _ ih

/-! ## tours -/

mutual

/-- the trees that a tick evaluates, in order -/
def tour (call : Call α σ) : Expr α → σ → List (Site α)
  | .value v, _ => [⟨[], .value v⟩]
  | .junction j operands, world =>
    ⟨[], .junction j operands⟩ :: tourWhile call (·.isTruthy == j.identity) 0 operands world
  | .not operand, world => ⟨[], .not operand⟩ :: (tour call operand world).map (Site.below 0)
  | .leaf a, _ => [⟨[], .leaf a⟩]
  | .sequential passed pending, world =>
    ⟨[], .sequential passed pending⟩ :: tourWhile call Value.isTruthy passed.length pending world
  | .parallel policy children, world =>
    ⟨[], .parallel policy children⟩ :: tourWhile call (fun _ => true) 0 children world

/-- trees one after the other, up to the first whose answer is an error or does not let the tick go
on -/
def tourWhile (call : Call α σ) (goesOn : Value → Bool) (k : Nat) :
    List (Expr α) → σ → List (Site α)
  | [], _ => []
  | e :: rest, world =>
    (tour call e world).map (Site.below k) ++
      match (e.evaluate call world).answer with
      | .ok v =>
        if goesOn v then tourWhile call goesOn (k + 1) rest (e.evaluate call world).world else []
      | .error _ => []

end

section
variable {call : Call α σ} {goesOn : Value → Bool} {e : Expr α} {world : σ}

theorem tourWhile_cons_of_error {error : EvaluationError}
    (h : (e.evaluate call world).answer = .error error) (k : Nat) (es : List (Expr α)) :
    tourWhile call goesOn k (e :: es) world = (tour call e world).map (Site.below k) := by
  rw [tourWhile]
  simp only [h, List.append_nil]

theorem tourWhile_cons_of_open {v : Value} (h : (e.evaluate call world).answer = .ok v)
    (hv : goesOn v = true) (k : Nat) (es : List (Expr α)) :
    tourWhile call goesOn k (e :: es) world =
      (tour call e world).map (Site.below k) ++
        tourWhile call goesOn (k + 1) es (e.evaluate call world).world := by
  rw [tourWhile]
  simp only [h, hv, if_true]

theorem tourWhile_cons_of_stopped {v : Value} (h : (e.evaluate call world).answer = .ok v)
    (hv : goesOn v = false) (k : Nat) (es : List (Expr α)) :
    tourWhile call goesOn k (e :: es) world = (tour call e world).map (Site.below k) := by
  rw [tourWhile]
  simp only [h, hv, Bool.false_eq_true, if_false, List.append_nil]

/-- a tick evaluates the first of some trees, and then the tour ends or goes on -/
theorem tourWhile_cons_cases (call : Call α σ) (goesOn : Value → Bool) (k : Nat) (e : Expr α)
    (es : List (Expr α)) (world : σ) :
    tourWhile call goesOn k (e :: es) world = (tour call e world).map (Site.below k) ∨
      tourWhile call goesOn k (e :: es) world =
        (tour call e world).map (Site.below k) ++
          tourWhile call goesOn (k + 1) es (e.evaluate call world).world := by
  cases ha : (e.evaluate call world).answer with
  | error error => exact .inl (tourWhile_cons_of_error ha k es)
  | ok v =>
    cases hv : goesOn v with
    | true => exact .inr (tourWhile_cons_of_open ha hv k es)
    | false => exact .inl (tourWhile_cons_of_stopped ha hv k es)

theorem tourWhile_sublist {es : List (Expr α)}
    (ih : ∀ e ∈ es, ∀ world, (tour call e world).Sublist e.sites) :
    ∀ k world, (tourWhile call goesOn k es world).Sublist (sitesFrom k es) := by
  induction es with
  | nil => intro k world; exact List.Sublist.slnil
  | cons e es ihs =>
    intro k world
    have hfirst := (ih e List.mem_cons_self world).map (Site.below k)
    have hrest := ihs (fun e' he' => ih e' (List.mem_cons_of_mem _ he')) (k + 1)
      (e.evaluate call world).world
    rw [sitesFrom_cons]
    -- every site of the first tree stands before every site of the others
    rcases tourWhile_cons_cases call goesOn k e es world with h | h
    · rw [h]
      exact hfirst.trans (List.sublist_append_left _ _)
    · rw [h]
      exact hfirst.append hrest

/-- **A tick goes through a tree in reading order** and evaluates no tree inside it twice. -/
theorem tour_sublist (call : Call α σ) (e : Expr α) :
    ∀ world, (tour call e world).Sublist e.sites := by
  induction e with
  | value v => intro world; exact List.Sublist.refl _
  | junction j operands ih => intro world; exact (tourWhile_sublist ih 0 world).cons_cons _
  | not operand ih => intro world; exact ((ih world).map _).cons_cons _
  | leaf a => intro world; exact List.Sublist.refl _
  | sequential passed pending _ ih =>
    intro world
    have h : (tourWhile call Value.isTruthy passed.length pending world).Sublist
        (sitesFrom passed.length pending) := tourWhile_sublist ih passed.length world
    exact (h.trans (List.sublist_append_right _ _)).cons_cons _
  | parallel policy children ih => intro world; exact (tourWhile_sublist ih 0 world).cons_cons _

theorem nodup_tour (call : Call α σ) (e : Expr α) (world : σ) :
    ((tour call e world).map Site.place).Nodup :=
  (nodup_sites e).sublist ((tour_sublist call e world).map _)

end

/-! ## the leaves on a tour -/

/-- the world behind trees that are evaluated one after the other, up to the first whose answer is
an error or does not let the tick go on -/
def worldBehind (call : Call α σ) (goesOn : Value → Bool) : List (Expr α) → σ → σ
  | [], world => world
  | e :: rest, world =>
    match (e.evaluate call world).answer with
    | .ok v =>
      if goesOn v then worldBehind call goesOn rest (e.evaluate call world).world
      else (e.evaluate call world).world
    | .error _ => (e.evaluate call world).world

section
variable (call : Call α σ)

theorem world_evaluateUntil (j : Junction) (es : List (Expr α)) :
    ∀ world, (evaluateUntil call j es world).world =
      worldBehind call (·.isTruthy == j.identity) es world := by
  induction es with
  | nil => intro world; rfl
  | cons e es ih =>
    intro world
    cases ha : (e.evaluate call world).answer with
    | error error => simp only [evaluateUntil_cons_of_error ha, worldBehind, ha]
    | ok v =>
      by_cases hv : v.isTruthy = j.identity
      · simp only [evaluateUntil_cons_of_open ha hv, worldBehind, ha, ih, hv, beq_self_eq_true,
          if_true]
      · simp only [evaluateUntil_cons_of_decided ha hv, worldBehind, ha, beq_iff_eq, hv, if_false]

theorem world_evaluateOn (es : List (Expr α)) :
    ∀ world, (evaluateOn call es world).world = worldBehind call Value.isTruthy es world := by
  induction es with
  | nil => intro world; rfl
  | cons e es ih =>
    intro world
    cases ha : (e.evaluate call world).answer with
    | error error => simp only [evaluateOn_cons_of_error ha, worldBehind, ha]
    | ok v =>
      cases hv : v.isTruthy with
      | true => simp only [evaluateOn_cons_of_passed ha hv, worldBehind, ha, ih, hv, if_true]
      | false =>
        simp only [evaluateOn_cons_of_stopped ha hv, worldBehind, ha, hv, Bool.false_eq_true,
          if_false]

theorem world_evaluateAll (es : List (Expr α)) :
    ∀ world, (evaluateAll call es world).world = worldBehind call (fun _ => true) es world := by
  induction es with
  | nil => intro world; rfl
  | cons e es ih =>
    intro world
    cases ha : (e.evaluate call world).answer with
    | error error => simp only [evaluateAll_cons_of_error ha, worldBehind, ha]
    | ok v => simp only [evaluateAll_cons_of_ok ha, worldBehind, ha, ih, if_true]

/-- a tick writes down the leaves on its tour, behind what was written down before -/
def Journals (e : Expr α) : Prop :=
  ∀ world seen, (e.evaluate call.journaled (world, seen)).world =
    ((e.evaluate call world).world, seen ++ (tour call e world).filterMap Site.leaf?)

variable {call}

theorem worldBehind_journaled (goesOn : Value → Bool) {es : List (Expr α)}
    (ih : ∀ e ∈ es, Journals call e) :
    ∀ k world seen, worldBehind call.journaled goesOn es (world, seen) =
      (worldBehind call goesOn es world,
        seen ++ (tourWhile call goesOn k es world).filterMap Site.leaf?) := by
  induction es with
  | nil =>
    intro k world seen
    show (world, seen) = (world, seen ++ [])
    rw [List.append_nil]
  | cons e es ihs =>
    intro k world seen
    have hanswer := (evaluate_journaled call e world seen).answer
    have hworld := ih e List.mem_cons_self world seen
    have hrest := ihs (fun e' he' => ih e' (List.mem_cons_of_mem _ he'))
    unfold worldBehind
    rw [← hanswer, hworld]
    cases ha : (e.evaluate call world).answer with
    | error error => rw [tourWhile_cons_of_error ha, Site.filterMap_leaf?_below]
    | ok v =>
      cases hv : goesOn v with
      | true =>
        simp only [hv, if_true]
        rw [hrest (k + 1), tourWhile_cons_of_open ha hv, List.filterMap_append,
          Site.filterMap_leaf?_below, List.append_assoc]
      | false =>
        simp only [hv, Bool.false_eq_true, if_false]
        rw [tourWhile_cons_of_stopped ha hv, Site.filterMap_leaf?_below]

/-- **The calls of a tick are the leaves on its tour**, in order. -/
theorem journal_tour (e : Expr α) : Journals call e := by
  induction e with
  | value v =>
    intro world seen
    show (world, seen) = (world, seen ++ [])
    rw [List.append_nil]
  | junction j operands ih =>
    intro world seen
    rw [evaluate_junction, evaluate_junction, world_evaluateUntil, world_evaluateUntil,
      worldBehind_journaled _ ih 0]
    rfl
  | not operand ih =>
    intro world seen
    rw [evaluate_not, evaluate_not, ih world seen, ← Site.filterMap_leaf?_below 0]
    rfl
  | leaf a => intro world seen; rfl
  | sequential passed pending _ ih =>
    intro world seen
    rw [evaluate_sequential, evaluate_sequential, world_evaluateOn, world_evaluateOn,
      worldBehind_journaled _ ih passed.length]
    rfl
  | parallel policy children ih =>
    intro world seen
    rw [evaluate_parallel, evaluate_parallel, world_evaluateAll, world_evaluateAll,
      worldBehind_journaled _ ih 0]
    rfl

end

/-! ## parallel trees on a tour -/

/-- a parallel tree in the list comes with all of its children -/
def Complete (sites : List (Site α)) : Prop :=
  ∀ site ∈ sites, ∀ policy children, site.tree = .parallel policy children →
    ∀ k < children.length, site.place ++ [k] ∈ sites.map Site.place

namespace Complete

theorem nil : Complete ([] : List (Site α)) := fun _ h => absurd h List.not_mem_nil

theorem append {first second : List (Site α)} (h : Complete first) (h' : Complete second) :
    Complete (first ++ second) := by
  intro site hsite policy children htree k hk
  rw [List.map_append]
  rcases List.mem_append.mp hsite with hsite | hsite
  · exact List.mem_append_left _ (h site hsite policy children htree k hk)
  · exact List.mem_append_right _ (h' site hsite policy children htree k hk)

theorem below {sites : List (Site α)} (h : Complete sites) (i : Nat) :
    Complete (sites.map (Site.below i)) := by
  intro site hsite policy children htree k hk
  obtain ⟨inner, hinner, rfl⟩ := List.mem_map.mp hsite
  rw [Site.map_place_below]
  exact List.mem_map_of_mem (h inner hinner policy children htree k hk)

/-- above trees that are complete, a root is if it has its children among them -/
theorem root {e : Expr α} {sites : List (Site α)} (h : Complete sites)
    (hroot : ∀ policy children, e = .parallel policy children →
      ∀ k < children.length, [k] ∈ sites.map Site.place) :
    Complete (⟨[], e⟩ :: sites) := by
  intro site hsite policy children htree k hk
  rw [List.map_cons]
  rcases List.mem_cons.mp hsite with rfl | hsite
  · exact List.mem_cons_of_mem _ (hroot policy children htree k hk)
  · exact List.mem_cons_of_mem _ (h site hsite policy children htree k hk)

end Complete

section
variable {call : Call α σ}

theorem complete_tourWhile {goesOn : Value → Bool} {es : List (Expr α)}
    (ih : ∀ e ∈ es, ∀ world, Complete (tour call e world)) :
    ∀ k world, Complete (tourWhile call goesOn k es world) := by
  induction es with
  | nil => intro k world; exact .nil
  | cons e es ihs =>
    intro k world
    have hfirst := (ih e List.mem_cons_self world).below k
    have hrest := ihs (fun e' he' => ih e' (List.mem_cons_of_mem _ he')) (k + 1)
      (e.evaluate call world).world
    rcases tourWhile_cons_cases call goesOn k e es world with h | h
    · rw [h]
      exact hfirst
    · rw [h]
      exact hfirst.append hrest

/-- every tour starts at the root -/
theorem root_mem_tour (call : Call α σ) (e : Expr α) (world : σ) :
    [] ∈ (tour call e world).map Site.place := by
  cases e <;> exact List.mem_cons_self

/-- trees that never fail are all evaluated, if their answers do not matter -/
theorem root_mem_tourWhile {es : List (Expr α)}
    (h : ∀ e ∈ es, ∀ world error, (e.evaluate call world).answer ≠ .error error) :
    ∀ first world, ∀ k < es.length,
      [first + k] ∈ (tourWhile call (fun _ => true) first es world).map Site.place := by
  induction es with
  | nil => intro first world k hk; exact absurd hk (Nat.not_lt_zero k)
  | cons e es ih =>
    intro first world k hk
    have hrest := ih (fun e' he' => h e' (List.mem_cons_of_mem _ he')) (first + 1)
      (e.evaluate call world).world
    cases ha : (e.evaluate call world).answer with
    | error error => exact absurd ha (h e List.mem_cons_self world error)
    | ok v =>
      rw [tourWhile_cons_of_open ha rfl, List.map_append, Site.map_place_below]
      cases k with
      | zero => exact List.mem_append_left _ (List.mem_map_of_mem (root_mem_tour call e world))
      | succ k =>
        have hmem := hrest k (Nat.lt_of_succ_lt_succ hk)
        rw [Nat.add_right_comm] at hmem
        exact List.mem_append_right _ hmem

/-- no call of a leaf of the tree fails, in whatever world -/
def Sound (call : Call α σ) (e : Expr α) : Prop :=
  ∀ a ∈ e.leaves, ∀ world error, (call a world).answer ≠ .error error

theorem Sound.answer_ne_error {e : Expr α} (h : e.Sound call) (world : σ)
    (error : EvaluationError) : (e.evaluate call world).answer ≠ .error error := by
  intro hanswer
  obtain ⟨a, ha, world', hcall⟩ := exists_leaf_of_error e world error hanswer
  exact h a ha world' error hcall

theorem sound_of_leavesOf {es : List (Expr α)}
    (h : ∀ a ∈ leavesOf es, ∀ world error, (call a world).answer ≠ .error error) :
    ∀ e ∈ es, e.Sound call := by
  induction es with
  | nil => intro e he; exact absurd he List.not_mem_nil
  | cons first es ih =>
    rw [leavesOf_cons, List.forall_mem_append] at h
    intro e he
    rcases List.mem_cons.mp he with rfl | he
    · exact h.1
    · exact ih h.2 e he

/-- **A parallel tree is evaluated with all of its children**: when no leaf fails, a parallel tree
that is on the tour has every child there, whatever the other children answer. -/
theorem complete_tour (e : Expr α) (h : e.Sound call) :
    ∀ world, Complete (tour call e world) := by
  induction e with
  | value v => intro world; exact Complete.root .nil nofun
  | junction j operands ih =>
    intro world
    have hops := sound_of_leavesOf h
    exact Complete.root (complete_tourWhile (fun e he => ih e he (hops e he)) 0 world) nofun
  | not operand ih => intro world; exact Complete.root ((ih h world).below 0) nofun
  | leaf a => intro world; exact Complete.root .nil nofun
  | sequential passed pending _ ih =>
    intro world
    have hpending := sound_of_leavesOf (List.forall_mem_append.mp h).2
    exact Complete.root
      (complete_tourWhile (fun e he => ih e he (hpending e he)) passed.length world) nofun
  | parallel policy children ih =>
    intro world
    have hchildren := sound_of_leavesOf h
    refine Complete.root (complete_tourWhile (fun e he => ih e he (hchildren e he)) 0 world) ?_
    intro policy' children' heq k hk
    obtain ⟨rfl, rfl⟩ := Expr.parallel.inj heq
    have hmem := root_mem_tourWhile (fun e he => (hchildren e he).answer_ne_error) 0 world k hk
    rw [Nat.zero_add] at hmem
    exact hmem

end

end Expr

end SignalScript
