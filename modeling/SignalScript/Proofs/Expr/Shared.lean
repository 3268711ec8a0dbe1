import SignalScript.Expr.Pool
import SignalScript.Proofs.Expr.Meaning

/-!
# What shared expressions come down to

A tick of an expression moves on what it names, and whoever else names it finds it moved. Over fixed
leaves nobody can tell: every expression of the pool keeps its upshot, which is that of the tree
with all names written out.

* `Pool.Ordered`          every expression names only earlier ones;
* `Pool.unfold_eq`        names written out, one expression at a time;
* `Pool.truthOf`          what each part of a pool comes down to;
* `Pool.FixedPart`        a name is as fixed as the leaves behind it;
* `Pool.agreement_of_rests`  and, or and the policies agree over what a pool shares;
* `Pool.Plain`            no leaves at all, only names;
* `Pool.meaning_stands`   without leaves, every tick of a run answers with the meaning.
-/

namespace SignalScript

/-- the part is a leaf of its own, or names an expression in front of this key -/
def Part.Before {α : Type} (key : Nat) : Part α → Prop
  | .own _ => True
  | .shared k => k < key

theorem Part.Before.mono {α : Type} {part : Part α} {key key' : Nat} (h : part.Before key)
    (hle : key ≤ key') : part.Before key' := by
  cases part with
  | own a => trivial
  | shared k => exact Nat.lt_of_lt_of_le h hle

namespace Expr

variable {α β : Type}

/-! ## trees in the place of leaves -/

theorem expandAll_congr {f g : α → Expr β} {es : List (Expr α)}
    (ih : ∀ e ∈ es, (∀ a ∈ e.leaves, f a = g a) → e.expand f = e.expand g)
    (h : ∀ a ∈ leavesOf es, f a = g a) : expandAll f es = expandAll g es := by
  rw [expandAll_eq_map, expandAll_eq_map]
  exact List.map_congr_left fun e he => ih e he fun a ha => h a (mem_leavesOf.mpr ⟨e, he, ha⟩)

/-- only what stands in the place of its leaves matters to a tree -/
theorem expand_congr {f g : α → Expr β} {e : Expr α} (h : ∀ a ∈ e.leaves, f a = g a) :
    e.expand f = e.expand g := by
  induction e with
  | value v => rfl
  | junction j operands ih => rw [expand, expand, expandAll_congr ih h]
  | not operand ih => rw [expand, expand, ih h]
  | leaf a => exact h a List.mem_cons_self
  | sequential passed pending ihp ihq =>
    obtain ⟨hp, hq⟩ := List.forall_mem_append.mp h
    rw [expand, expand, expandAll_congr ihp hp, expandAll_congr ihq hq]
  | parallel policy children ih => rw [expand, expand, expandAll_congr ih h]

section
variable (f : α → Expr β) (truth : β → Bool)

theorem votes_expand {es : List (Expr α)}
    (ih : ∀ e ∈ es, ((e.expand f).upshot truth).isTruthy =
      (e.upshot fun a => ((f a).upshot truth).isTruthy).isTruthy) :
    votes truth (expandAll f es) = votes (fun a => ((f a).upshot truth).isTruthy) es := by
  rw [expandAll_eq_map, votes_eq_map, votes_eq_map, List.map_map]
  exact List.map_congr_left ih

/-- to what stands above it, a tree in the place of a leaf is a leaf with the truth of the tree -/
theorem isTruthy_upshot_expand (e : Expr α) :
    ((e.expand f).upshot truth).isTruthy =
      (e.upshot fun a => ((f a).upshot truth).isTruthy).isTruthy := by
  induction e with
  | value v => rfl
  | junction j operands ih => rw [expand, upshot, upshot, votes_expand f truth ih]
  | not operand ih => rw [expand, upshot, upshot, ih]
  | leaf a => rfl
  | sequential passed pending _ ih => rw [expand, upshot, upshot, votes_expand f truth ih]
  | parallel policy children ih => rw [expand, upshot, upshot, votes_expand f truth ih]

/-- and a tree that is no leaf comes down to what the whole does -/
theorem upshot_expand {e : Expr α} (h : ∀ a, e ≠ .leaf a) :
    (e.expand f).upshot truth = e.upshot fun a => ((f a).upshot truth).isTruthy := by
  have hvotes : ∀ es : List (Expr α), votes truth (expandAll f es) =
      votes (fun a => ((f a).upshot truth).isTruthy) es :=
    fun es => votes_expand f truth fun e _ => isTruthy_upshot_expand f truth e
  cases e with
  | value v => rfl
  | junction j operands => rw [expand, upshot, upshot, hvotes]
  | not operand => rw [expand, upshot, upshot, isTruthy_upshot_expand]
  | leaf a => exact absurd rfl (h a)
  | sequential passed pending => rw [expand, upshot, upshot, hvotes]
  | parallel policy children => rw [expand, upshot, upshot, hvotes]

end

end Expr

namespace Pool

variable {α σ : Type}

/-! ## names written out -/

/-- every expression names only earlier ones -/
def Ordered (pool : Pool α) : Prop :=
  ∀ key e, pool.find? key = some e → ∀ part ∈ e.leaves, part.Before key

theorem lt_of_find? {pool : Pool α} {key : Nat} {e : Expr (Part α)}
    (h : pool.find? key = some e) : key < pool.exprs.length :=
  (List.getElem?_eq_some_iff.mp h).1

theorem unfoldPart_own (pool : Pool α) (depth : Nat) (a : α) :
    pool.unfoldPart depth (.own a) = .leaf a := by
  cases depth <;> rfl

theorem unfoldPart_of_find? {pool : Pool α} {key : Nat} {e : Expr (Part α)}
    (h : pool.find? key = some e) (depth : Nat) :
    pool.unfoldPart (depth + 1) (.shared key) = e.expand (pool.unfoldPart depth) := by
  simp only [unfoldPart, h]

/-- names are written out in full at any depth that is large enough -/
theorem unfoldPart_stable {pool : Pool α} (hpool : pool.Ordered) :
    ∀ depth part, part.Before depth → ∀ depth', depth ≤ depth' →
      pool.unfoldPart depth' part = pool.unfoldPart depth part := by
  intro depth
  induction depth with
  | zero =>
    intro part hpart depth' _
    cases part with
    | own a => rw [unfoldPart_own, unfoldPart_own]
    | shared k => exact absurd hpart (Nat.not_lt_zero k)
  | succ depth ih =>
    intro part hpart depth' hle
    cases part with
    | own a => rw [unfoldPart_own, unfoldPart_own]
    | shared k =>
      obtain ⟨depth', rfl⟩ : ∃ n, depth' = n + 1 := ⟨depth' - 1, by omega⟩
      cases hk : pool.find? k with
      | none => simp only [unfoldPart, hk]
      | some e =>
        rw [unfoldPart_of_find? hk, unfoldPart_of_find? hk]
        refine Expr.expand_congr fun part hmem => ?_
        have hbefore : part.Before depth :=
          (hpool k e hk part hmem).mono (Nat.le_of_lt_succ hpart)
        exact ih part hbefore depth' (Nat.le_of_succ_le_succ hle)

/-- **Names written out**, one expression at a time. -/
theorem unfold_eq {pool : Pool α} (hpool : pool.Ordered) {key : Nat} {e : Expr (Part α)}
    (h : pool.find? key = some e) :
    pool.unfold key = e.expand (pool.unfoldPart pool.exprs.length) := by
  have hlt := lt_of_find? h
  obtain ⟨depth, hdepth⟩ : ∃ n, pool.exprs.length = n + 1 := ⟨pool.exprs.length - 1, by omega⟩
  rw [unfold, hdepth, unfoldPart_of_find? h]
  refine Expr.expand_congr fun part hmem => ?_
  have hbefore : part.Before depth := (hpool key e h part hmem).mono (by omega)
  exact (unfoldPart_stable hpool depth part hbefore (depth + 1) (Nat.le_succ depth)).symm

theorem unfold_of_find?_none {pool : Pool α} {key : Nat} (h : pool.find? key = none) :
    pool.unfold key = .nil := by
  unfold unfold
  cases pool.exprs.length with
  | zero => rfl
  | succ depth => simp only [unfoldPart, h]

/-! ## truths -/

/-- what a part comes down to when its names are written out -/
def truthOf (pool : Pool α) (truth : α → Bool) (part : Part α) : Bool :=
  ((pool.unfoldPart pool.exprs.length part).upshot truth).isTruthy

section
variable {pool : Pool α} (truth : α → Bool)

theorem truthOf_own (a : α) : pool.truthOf truth (.own a) = truth a := by
  rw [truthOf, unfoldPart_own]
  rfl

/-- a name has the truth of what it names -/
theorem truthOf_shared (hpool : pool.Ordered) {key : Nat} {e : Expr (Part α)}
    (h : pool.find? key = some e) :
    pool.truthOf truth (.shared key) = (e.upshot (pool.truthOf truth)).isTruthy := by
  show ((pool.unfold key).upshot truth).isTruthy = _
  rw [unfold_eq hpool h, Expr.isTruthy_upshot_expand]
  rfl

theorem upshot_unfold (hpool : pool.Ordered) {key : Nat} {e : Expr (Part α)}
    (h : pool.find? key = some e) (hleaf : ∀ part, e ≠ .leaf part) :
    (pool.unfold key).upshot truth = e.upshot (pool.truthOf truth) := by
  rw [unfold_eq hpool h, Expr.upshot_expand _ _ hleaf]
  rfl

end

/-! ## what a run leaves as it was -/

/-- what every expression of a pool comes down to, and its parts -/
def outlook (truth : Part α → Bool) (pool : Pool α) : List (Value × List (Part α)) :=
  pool.exprs.map (Expr.aspect truth)

section
variable {pool pool' : Pool α} {truth : Part α → Bool} {key : Nat} {e : Expr (Part α)}

theorem length_eq_of_outlook (h : pool'.outlook truth = pool.outlook truth) :
    pool'.exprs.length = pool.exprs.length := by
  have hlength := congrArg List.length h
  rwa [outlook, outlook, List.length_map, List.length_map] at hlength

theorem map_find?_of_outlook (h : pool'.outlook truth = pool.outlook truth) (key : Nat) :
    (pool'.find? key).map (Expr.aspect truth) = (pool.find? key).map (Expr.aspect truth) := by
  have hkey := congrArg (·[key]?) h
  simp only [outlook, List.getElem?_map] at hkey
  exact hkey

theorem exists_of_outlook (h : pool'.outlook truth = pool.outlook truth)
    (hkey : pool.find? key = some e) :
    ∃ e', pool'.find? key = some e' ∧ e'.aspect truth = e.aspect truth := by
  have hfound := map_find?_of_outlook h key
  rw [hkey, Option.map_some] at hfound
  exact Option.map_eq_some_iff.mp hfound

/-- an expression may make way for one with the same upshot and the same parts -/
theorem outlook_set (h : (pool.find? key).map (Expr.aspect truth) = some (e.aspect truth)) :
    (pool.set key e).outlook truth = pool.outlook truth := by
  obtain ⟨old, hold, hsame⟩ := Option.map_eq_some_iff.mp h
  obtain ⟨hlt, rfl⟩ := List.getElem?_eq_some_iff.mp hold
  rw [outlook, outlook, set, List.map_set, ← hsame, ← List.map_set, List.set_getElem_self]

end

/-- the pool in this state has the outlook that it started with, and the world is as it should be -/
structure Stands (pool : Pool α) (truth : Part α → Bool) (I : σ → Prop)
    (state : Pool α × σ) : Prop where
  outlook : state.1.outlook truth = pool.outlook truth
  world : I state.2

/-! ## ticks -/

theorem callPart_own (call : Expr.Call α σ) (depth : Nat) (a : α) (state : Pool α × σ) :
    callPart call depth (.own a) state =
      ⟨(call a state.2).answer, .own (call a state.2).after, (state.1, (call a state.2).world)⟩ := by
  cases depth <;> rfl

theorem callPart_of_find? {pool : Pool α} {key : Nat} {e : Expr (Part α)}
    (h : pool.find? key = some e) (call : Expr.Call α σ) (depth : Nat) (world : σ) :
    let turn := e.evaluate (callPart call depth) (pool, world)
    callPart call (depth + 1) (.shared key) (pool, world) =
      ⟨turn.answer.map Value.isTruthy, .shared key,
        (turn.world.1.set key turn.after, turn.world.2)⟩ := by
  simp only [callPart, h]

theorem evaluate_of_find? {pool : Pool α} {key : Nat} {e : Expr (Part α)}
    (h : pool.find? key = some e) (call : Expr.Call α σ) (world : σ) :
    let turn := e.evaluate (callPart call pool.exprs.length) (pool, world)
    pool.evaluate call key world =
      (turn.answer, turn.world.1.set key turn.after, turn.world.2) := by
  simp only [evaluate, h]

section
variable {pool : Pool α} {I : σ → Prop} {call : Expr.Call α σ}

/-- a tick of the expression under a key, when its parts are fixed: what it becomes has the upshot
and the parts that it had -/
theorem Stands.tick {t : Part α → Bool} {state : Pool α × σ} (hstate : pool.Stands t I state)
    {key : Nat} {e : Expr (Part α)} (hkey : state.1.find? key = some e) {depth : Nat}
    (hparts : ∀ part ∈ e.leaves, Expr.Fixed (pool.Stands t I) (callPart call depth) t part) :
    let turn := e.evaluate (callPart call depth) state
    turn.answer = .ok (e.upshot t) ∧
      pool.Stands t I (turn.world.1.set key turn.after, turn.world.2) := by
  intro turn
  have hturn : Expr.Reveals (pool.Stands t I) t e turn := Expr.evaluate_fixed hparts hstate
  refine ⟨hturn.answer, ?_, hturn.world.world⟩
  have hfound : (turn.world.1.find? key).map (Expr.aspect t) = some (turn.after.aspect t) := by
    rw [map_find?_of_outlook (hturn.world.outlook.trans hstate.outlook.symm) key, hkey,
      Option.map_some, hturn.aspect]
  exact (outlook_set hfound).trans hturn.world.outlook

variable {truth : α → Bool}

/-- the leaves of their own that the expressions of a pool have are fixed -/
def Rests (pool : Pool α) (I : σ → Prop) (call : Expr.Call α σ) (truth : α → Bool) : Prop :=
  ∀ e ∈ pool.exprs, ∀ a, .own a ∈ e.leaves → Expr.Fixed I call truth a

/-- the part is fixed as long as the pool has the outlook that it started with -/
def FixedPart (pool : Pool α) (I : σ → Prop) (call : Expr.Call α σ) (truth : α → Bool)
    (depth : Nat) (part : Part α) : Prop :=
  Expr.Fixed (pool.Stands (pool.truthOf truth) I) (callPart call depth) (pool.truthOf truth) part

theorem fixedPart_own (depth : Nat) {a : α} (ha : Expr.Fixed I call truth a) :
    pool.FixedPart I call truth depth (.own a) := by
  constructor
  case answer =>
    intro state hstate
    rw [callPart_own, truthOf_own, ha.answer _ hstate.world]
  case after =>
    intro state hstate
    rw [callPart_own, ha.after _ hstate.world]
  case world =>
    intro state hstate
    rw [callPart_own]
    exact ⟨hstate.outlook, ha.world _ hstate.world⟩

/-- a name is fixed when the parts of what it names are -/
theorem fixedPart_shared (hpool : pool.Ordered) {key : Nat} {e : Expr (Part α)}
    (he : pool.find? key = some e) {depth : Nat}
    (hparts : ∀ part ∈ e.leaves, pool.FixedPart I call truth depth part) :
    pool.FixedPart I call truth (depth + 1) (.shared key) := by
  have htick : ∀ state, pool.Stands (pool.truthOf truth) I state →
      let turn := callPart call (depth + 1) (.shared key) state
      turn.answer = .ok (pool.truthOf truth (.shared key)) ∧ turn.after = .shared key ∧
        pool.Stands (pool.truthOf truth) I turn.world := by
    rintro ⟨now, world⟩ hstate
    -- what the key stands for by now differs from `e` in cursors at most
    obtain ⟨e', he', haspect⟩ := exists_of_outlook hstate.outlook he
    obtain ⟨hupshot, hleaves⟩ := Prod.mk.inj haspect
    obtain ⟨hanswer, hworld⟩ := hstate.tick he' (hleaves ▸ hparts)
    rw [callPart_of_find? he', truthOf_shared truth hpool he, ← hupshot]
    exact ⟨by rw [hanswer]; rfl, rfl, hworld⟩
  exact ⟨fun state hstate => (htick state hstate).1, fun state hstate => (htick state hstate).2.1,
    fun state hstate => (htick state hstate).2.2⟩

/-- **A name is as fixed as the leaves behind it.** -/
theorem fixedPart_of_rests (hpool : pool.Ordered) (hown : pool.Rests I call truth) :
    ∀ depth ≤ pool.exprs.length, ∀ part : Part α, part.Before depth →
      (∀ a, part = .own a → Expr.Fixed I call truth a) →
      pool.FixedPart I call truth depth part := by
  intro depth
  induction depth with
  | zero =>
    intro _ part hpart hfixed
    cases part with
    | own a => exact fixedPart_own 0 (hfixed a rfl)
    | shared key => exact absurd hpart (Nat.not_lt_zero key)
  | succ depth ih =>
    intro hdepth part hpart hfixed
    cases part with
    | own a => exact fixedPart_own (depth + 1) (hfixed a rfl)
    | shared key =>
      obtain ⟨e, he⟩ : ∃ e, pool.find? key = some e :=
        ⟨_, List.getElem?_eq_getElem (Nat.lt_of_lt_of_le hpart hdepth)⟩
      refine fixedPart_shared hpool he fun part hleaf => ?_
      have hbefore := (hpool key e he part hleaf).mono (Nat.le_of_lt_succ hpart)
      exact ih (Nat.le_of_succ_le hdepth) part hbefore fun a ha =>
        hown e (List.mem_of_getElem? he) a (ha ▸ hleaf)

/-- what a tree needs that stands over a pool: it names expressions of the pool, and its own leaves
are fixed -/
theorem fixedPart_of_leaf (hpool : pool.Ordered) (hown : pool.Rests I call truth)
    {leaves : List (Part α)} (hnames : ∀ part ∈ leaves, part.Before pool.exprs.length)
    (hleaves : ∀ a, .own a ∈ leaves → Expr.Fixed I call truth a) :
    ∀ part ∈ leaves, pool.FixedPart I call truth pool.exprs.length part :=
  fun part hpart => fixedPart_of_rests hpool hown _ (Nat.le_refl _) part (hnames part hpart)
    fun a ha => hleaves a (ha ▸ hpart)

/-- **And, or and the policies agree** over trees that share expressions, when all leaves are
fixed. -/
theorem agreement_of_rests (hpool : pool.Ordered) (hown : pool.Rests I call truth)
    {children : List (Expr (Part α))}
    (hnames : ∀ part ∈ Expr.leavesOf children, part.Before pool.exprs.length)
    (hleaves : ∀ a, .own a ∈ Expr.leavesOf children → Expr.Fixed I call truth a) {world : σ}
    (hworld : I world) :
    Expr.Agreement (callPart call pool.exprs.length) children (pool, world)
      fun e => (e.upshot (pool.truthOf truth)).isTruthy :=
  Expr.agreement_of_fixed (fixedPart_of_leaf hpool hown hnames hleaves) ⟨rfl, hworld⟩

end

/-! ## expressions without leaves -/

/-- no leaves but names of earlier expressions, and no bare name as an expression -/
structure Plain (pool : Pool α) : Prop where
  names : ∀ key e, pool.find? key = some e → ∀ part ∈ e.leaves, ∃ k < key, part = .shared k
  nodes : ∀ key e, pool.find? key = some e → ∀ part, e ≠ .leaf part

/-- a pool after ticks of these expressions in these worlds -/
def afterTicks (call : Expr.Call α σ) (pool : Pool α) (ticks : List (Nat × σ)) : Pool α :=
  ticks.foldl (fun pool tick => (pool.evaluate call tick.1 tick.2).2.1) pool

namespace Plain

variable {pool pool' : Pool α} (h : pool.Plain) (call : Expr.Call α σ) (truth : α → Bool)
include h

theorem ordered : pool.Ordered := by
  intro key e he part hpart
  obtain ⟨k, hk, rfl⟩ := h.names key e he part hpart
  exact hk

theorem rests (I : σ → Prop) : pool.Rests I call truth := by
  intro e he a ha
  obtain ⟨key, hkey⟩ := List.getElem?_of_mem he
  obtain ⟨_, _, hpart⟩ := h.names key e hkey _ ha
  exact nomatch hpart

/-- a tick of any expression, in any state of the pool that a run can come to -/
theorem evaluate (hpool : pool'.outlook (pool.truthOf truth) = pool.outlook (pool.truthOf truth))
    (key : Nat) (world : σ) :
    (pool'.evaluate call key world).1 = .ok ((pool.unfold key).upshot truth) ∧
      (pool'.evaluate call key world).2.1.outlook (pool.truthOf truth) =
        pool.outlook (pool.truthOf truth) ∧
      (pool'.evaluate call key world).2.2 = world := by
  have hstate : pool.Stands (pool.truthOf truth) (· = world) (pool', world) := ⟨hpool, rfl⟩
  cases hkey : pool.find? key with
  | none =>
    have hkey' := map_find?_of_outlook hpool key
    rw [hkey, Option.map_none, Option.map_eq_none_iff] at hkey'
    have htick : pool'.evaluate call key world = (.ok .nil, pool', world) := by
      simp only [Pool.evaluate, hkey']
    rw [htick, unfold_of_find?_none hkey]
    exact ⟨rfl, hpool, rfl⟩
  | some e =>
    obtain ⟨e', hkey', haspect⟩ := exists_of_outlook hpool hkey
    obtain ⟨hupshot, hleaves⟩ := Prod.mk.inj haspect
    have hparts : ∀ part ∈ e'.leaves,
        pool.FixedPart (· = world) call truth pool'.exprs.length part := by
      rw [hleaves, length_eq_of_outlook hpool]
      have hmem := List.mem_of_getElem? hkey
      exact fixedPart_of_leaf h.ordered (h.rests call truth _)
        (fun part hpart => (h.ordered key e hkey part hpart).mono (Nat.le_of_lt (lt_of_find? hkey)))
        (h.rests call truth _ e hmem)
    obtain ⟨hanswer, hafter⟩ := hstate.tick hkey' hparts
    rw [evaluate_of_find? hkey', upshot_unfold truth h.ordered hkey (h.nodes key e hkey),
      ← hupshot]
    exact ⟨hanswer, hafter.outlook, hafter.world⟩

theorem outlook_afterTicks (ticks : List (Nat × σ)) :
    ∀ {pool' : Pool α},
      pool'.outlook (pool.truthOf truth) = pool.outlook (pool.truthOf truth) →
      (pool'.afterTicks call ticks).outlook (pool.truthOf truth) =
        pool.outlook (pool.truthOf truth) := by
  induction ticks with
  | nil => exact fun hpool => hpool
  | cons tick ticks ih =>
    exact fun hpool => ih (h.evaluate call truth hpool tick.1 tick.2).2.1

end Plain

/-- **Without leaves the meaning stands**: every tick of a run, the first one and all later ones,
answers with the meaning of the tree as it was built and leaves the world alone, although cursors
move. The same holds of expressions that share other expressions, whichever of them have had ticks
before. -/
theorem meaning_stands (call : Expr.Call α σ) (truth : α → Bool) :
    (∀ e : Expr α, e.leaves = [] → e.rewound = e → ∀ before world,
      let turn := (Expr.afterTicks call e before).evaluate call world
      turn.answer = .ok (e.meaning truth) ∧ turn.world = world) ∧
    (∀ pool : Pool α, pool.Plain → ∀ key, (pool.unfold key).rewound = pool.unfold key →
      ∀ before world,
        let turn := (pool.afterTicks call before).evaluate call key world
        turn.1 = .ok ((pool.unfold key).meaning truth) ∧ turn.2.2 = world) := by
  constructor
  · intro e he hstart before world turn
    obtain ⟨hupshot, hleaves⟩ := Prod.mk.inj (Expr.aspect_afterTicks he call truth before)
    have hturn := Expr.evaluate_leafless (hleaves.trans he) call truth world
    rw [Expr.meaning_of_rewound truth hstart, ← hupshot]
    exact ⟨hturn.answer, hturn.world⟩
  · intro pool hpool key hstart before world turn
    have hstands := hpool.outlook_afterTicks call truth before rfl
    obtain ⟨hanswer, _, hworld⟩ := hpool.evaluate call truth hstands key world
    rw [Expr.meaning_of_rewound truth hstart]
    exact ⟨hanswer, hworld⟩

/-- two steps that pass and one that does not -/
def steps : Expr Unit := .sequential [] [.bool true, .not (.bool false), .bool false]

/-- a sequence, and a disjunction that names it twice -/
def sharing : Pool Unit :=
  ⟨[.sequential [] [.nil, .bool false],
    .junction .or [.leaf (.shared 0),
      .parallel .majority [.leaf (.shared 0), .bool true, .value (.number 3.0)]]]⟩

theorem plain_sharing : sharing.Plain := by
  constructor
  case names =>
    intro key e he part hpart
    match key with
    | 0 =>
      obtain rfl := Option.some.inj he
      exact absurd hpart List.not_mem_nil
    | 1 =>
      obtain rfl := Option.some.inj he
      have hleaves : part ∈ [Part.shared 0, Part.shared 0] := hpart
      exact ⟨0, Nat.one_pos, by simpa using hleaves⟩
    | key + 2 => exact nomatch he
  case nodes =>
    intro key e he part
    match key with
    | 0 =>
      obtain rfl := Option.some.inj he
      exact nofun
    | 1 =>
      obtain rfl := Option.some.inj he
      exact nofun
    | key + 2 => exact nomatch he

/-- children of which one in two is true, behind a sequence that moves on -/
def halfTrue (policy : Policy) : Expr Unit :=
  .parallel policy [.sequential [] [.nil, .bool true], .not (.bool true)]

/-- the steps stay false on their second tick, one in two is neither all nor a majority but some, and
the disjunction is true when its sequence has moved before -/
theorem meaning_stands_of_steps_and_sharing :
    let call : Expr.Call Unit Unit := Expr.still fun _ => .ok false
    ((Expr.afterTicks call steps [()]).evaluate call ()).answer = .ok (.bool false) ∧
      ((Expr.afterTicks call (halfTrue .all) [()]).evaluate call ()).answer = .ok (.bool false) ∧
      ((Expr.afterTicks call (halfTrue .any) [()]).evaluate call ()).answer = .ok (.bool true) ∧
      ((Expr.afterTicks call (halfTrue .majority) [()]).evaluate call ()).answer =
        .ok (.bool false) ∧
      ((sharing.afterTicks call [(0, ()), (1, ())]).evaluate call 1 ()).1 = .ok (.bool true) := by
  intro call
  obtain ⟨trees, pools⟩ := meaning_stands call fun _ => false
  have hhalf : ∀ policy, ((Expr.afterTicks call (halfTrue policy) [()]).evaluate call ()).answer =
      .ok ((halfTrue policy).meaning fun _ => false) :=
    fun policy => (trees (halfTrue policy) rfl rfl [()] ()).1
  exact ⟨(trees steps rfl rfl [()] ()).1, hhalf .all, hhalf .any, hhalf .majority,
    (pools sharing plain_sharing 1 rfl [(0, ()), (1, ())] ()).1⟩

end Pool

end SignalScript
