import SignalScript.Proofs.Expr.Tour
import SignalScript.Proofs.Scenario.Verdict

/-!
# Conditions are updated in reading order

A tick updates the conditions of the configured leaves on its tour, so it updates them in reading
order and none of them twice. An update of a run goes through the failure tree and then, perhaps,
through the success tree, and updates nothing else.

* `Run.asked`              the leaves whose conditions a tick updates, with their places;
* `Run.updatedIn_eq`       the conditions that are written down in a tick are those of `Run.asked`;
* `Run.updatedBy_cases`    what an update of a run goes through;
* `Run.updates_in_reading_order`  the order of the updates, in a tick and in a run.
-/

namespace SignalScript

variable {π S : Type}

namespace Procedure

/-- the condition that is updated when the procedure is called -/
def updated? (p : Procedure π) : Option π :=
  match p.binding with
  | .ready c => some c
  | _ => none

/-- a world in which the conditions are listed that the called procedures have updated -/
def Listed (w : World (Traced π S)) (w' : World S × List (Procedure π)) : Prop :=
  w = w'.1.traced (w'.2.filterMap updated?)

theorem listed_call (family : Condition π (World S)) (p : Procedure π) {w : World (Traced π S)}
    {w' : World S × List (Procedure π)} (hw : Listed w w') :
    (call family.traced p w).Alike Eq Listed (Expr.Call.journaled (call family) p w') := by
  obtain ⟨world, calls⟩ := w'
  obtain rfl := hw
  obtain ⟨role, typeName, binding⟩ := p
  cases binding with
  | ready c =>
    refine ⟨rfl, rfl, ?_⟩
    show (family.update c world).world.traced (calls.filterMap updated? ++ [c]) =
      (family.update c world).world.traced ((calls ++ [_]).filterMap updated?)
    rw [List.filterMap_append]
    rfl
  | rejected | missing =>
    -- nothing is updated and nothing is listed
    refine ⟨rfl, rfl, ?_⟩
    show world.traced (calls.filterMap updated?) = world.traced ((calls ++ [_]).filterMap updated?)
    rw [List.filterMap_append]
    exact congrArg world.traced (List.append_nil _).symm

end Procedure

/-- the condition that is updated when the site is evaluated -/
def Site.condition? (site : Site (Procedure π)) : Option π :=
  site.leaf?.bind Procedure.updated?

namespace Expr

variable {α : Type}

/-- the leaves of a tree with their places, in reading order -/
def leafSites (e : Expr α) : List (Site α) := e.sites.filter (·.leaf?.isSome)

theorem leaves_leafSites (e : Expr α) : e.leafSites.filterMap Site.leaf? = e.leaves := by
  have hleaf : (fun site : Site α => if site.leaf?.isSome = true then site.leaf? else none) =
      Site.leaf? := by
    funext site
    cases site.leaf? <;> rfl
  rw [leafSites, List.filterMap_filter, hleaf, leaves_sites]

/-- some leaves of the tree, in reading order and none of them twice -/
structure InReadingOrder (e : Expr α) (sites : List (Site α)) : Prop where
  sublist : sites.Sublist e.leafSites
  once : (sites.map Site.place).Nodup

theorem InReadingOrder.nil (e : Expr α) : e.InReadingOrder [] :=
  ⟨List.nil_sublist _, List.nodup_nil⟩

end Expr

namespace Run

variable (family : Condition π (World S))

/-- the leaves whose conditions a tick of the tree updates, in order -/
def asked (e : Expr (Procedure π)) (world : World S) : List (Site (Procedure π)) :=
  (e.tour (Procedure.call family) world).filter (·.condition?.isSome)

theorem inReadingOrder_asked (e : Expr (Procedure π)) (world : World S) :
    e.InReadingOrder (asked family e world) := by
  have hsome : ∀ site : Site (Procedure π), site.condition?.isSome = true →
      site.leaf?.isSome = true := by
    intro site h
    rw [Site.condition?] at h
    cases hleaf : site.leaf? with
    | none => rw [hleaf] at h; exact nomatch h
    | some p => rfl
  have hboth : (fun site : Site (Procedure π) =>
      site.condition?.isSome && site.leaf?.isSome) = (·.condition?.isSome) := by
    funext site
    cases h : site.condition?.isSome with
    | true => rw [hsome site h]; rfl
    | false => rfl
  have hsub := ((e.tour_sublist (Procedure.call family) world).filter
    (·.condition?.isSome))
  have hleaves : (e.sites.filter (·.condition?.isSome)).Sublist e.leafSites := by
    rw [← hboth, ← List.filter_filter]
    exact List.filter_sublist
  exact ⟨hsub.trans hleaves, (e.nodup_tour _ world).sublist (List.filter_sublist.map _)⟩

/-- **The conditions that a tick updates** are those of the configured leaves on its tour. -/
theorem updatedIn_eq (e : Expr (Procedure π)) (world : World S) :
    updatedIn family e world = (asked family e world).filterMap Site.condition? := by
  have hstart : Procedure.Listed (world.traced []) (world, ([] : List (Procedure π))) := rfl
  have hlisted := (Expr.evaluate_alike (fun p _ _ => Procedure.listed_call family p) e hstart).world
  rw [e.journal_tour world []] at hlisted
  have hupdated : updatedIn family e world =
      ((e.tour (Procedure.call family) world).filterMap Site.leaf?).filterMap
        Procedure.updated? := congrArg (fun w => w.simulator.updated) hlisted
  have hsite : (fun site : Site (Procedure π) =>
      if site.condition?.isSome = true then site.condition? else none) = Site.condition? := by
    funext site
    cases site.condition? <;> rfl
  rw [hupdated, List.filterMap_filterMap, asked, List.filterMap_filter, hsite]
  rfl

/-! ## runs -/

/-- what a tick of the success tree lists, behind conditions that are listed already -/
theorem updated_tickSuccess (run : Run π) (world : World S) (seen : List π) :
    (tickSuccess family.traced run (world.traced seen)).2.2.simulator.updated =
      seen ++ updatedIn family run.success world := by
  have hscene := (tickSuccess_scene family.traced run (world.traced seen)).2.2
  rw [evaluate_traced] at hscene
  exact congrArg (fun scene => scene.simulator.updated) hscene

theorem updated_tick (run : Run π) (world : World S) :
    (tick family.traced run (world.traced [])).2.2.simulator.updated = [] ∨
    (tick family.traced run (world.traced [])).2.2.simulator.updated =
      updatedIn family run.failure world ∨
    ∃ world', (tick family.traced run (world.traced [])).2.2.simulator.updated =
      updatedIn family run.failure world ++ updatedIn family run.success world' := by
  have htraced := evaluate_traced family run.failure world []
  have hn := update_ne_failed (world.traced ([] : List π)).network
  cases he : run.errors with
  | cons first others =>
    rw [tick_of_not_configured he]
    exact .inl rfl
  | nil =>
    cases ha : (evaluate family.traced run.failure (world.traced [])).answer with
    | error error =>
      rw [tick_of_failure_error he hn ha, htraced]
      exact .inr (.inl rfl)
    | ok v =>
      cases hv : v.isTruthy with
      | true =>
        rw [tick_of_failing he hn ha hv, htraced]
        exact .inr (.inl rfl)
      | false =>
        rw [tick_of_not_failing he hn ha hv, htraced]
        exact .inr (.inr ⟨_, updated_tickSuccess family _
          ((evaluate family run.failure world).world.note _) _⟩)

/-- an update of a run updates nothing, or what a tick of the failure tree updates, and perhaps
what a tick of the success tree updates behind it -/
theorem updatedBy_cases (sim : Simulator S) (run : Run π) (world : World S) :
    updatedBy family sim run world = [] ∨
    updatedBy family sim run world = updatedIn family run.failure world ∨
    ∃ world', updatedBy family sim run world =
      updatedIn family run.failure world ++ updatedIn family run.success world' := by
  cases hs : run.status.isTerminal with
  | true => exact .inl (updatedBy_of_terminal hs sim)
  | false =>
    have hscene : (run.update family.traced sim.traced (world.traced [])).2.scene =
        (tick family.traced run (world.traced [])).2.2.scene := by
      rw [update_of_ongoing hs, scene_verdictLine]
    have hupdated : updatedBy family sim run world =
        (tick family.traced run (world.traced [])).2.2.simulator.updated :=
      congrArg (fun scene => scene.simulator.updated) hscene
    rw [hupdated]
    exact updated_tick family run world

/-- **Conditions are updated in reading order.** Whatever the cursors and the conditions of a tree
are, and whatever the world, a tick updates the conditions of some of its leaves, in reading order
and none twice, however it ends. If the tree has no errors, every child of a parallel tree that is
evaluated is evaluated exactly once. An update of a run updates the conditions of such leaves of
the failure tree, then those of such leaves of the success tree, and nothing else. -/
theorem updates_in_reading_order :
    (∀ (e : Expr (Procedure π)) (world : World S),
      e.leafSites.filterMap Site.leaf? = e.leaves ∧
      e.InReadingOrder (asked family e world) ∧
      updatedIn family e world = (asked family e world).filterMap Site.condition? ∧
      (e.errors = [] → ∀ site ∈ e.tour (Procedure.call family) world, ∀ policy children,
        site.tree = .parallel policy children → ∀ k < children.length,
          ((e.tour (Procedure.call family) world).map Site.place).count (site.place ++ [k]) = 1)) ∧
    (∀ (sim : Simulator S) (run : Run π) (world : World S), ∃ first second,
      run.failure.InReadingOrder first ∧ run.success.InReadingOrder second ∧
      updatedBy family sim run world = (first ++ second).filterMap Site.condition?) := by
  refine ⟨fun e world => ⟨e.leaves_leafSites, inReadingOrder_asked family e world,
    updatedIn_eq family e world, fun herrors => ?_⟩, fun sim run world => ?_⟩
  · have hsound : e.Sound (Procedure.call family) := by
      intro p hp world' error hcall
      exact Procedure.error?_ne_none_of_call hcall (List.filterMap_eq_nil_iff.1 herrors p hp)
    intro site hsite policy children htree k hk
    have hmem := e.complete_tour hsound world site hsite policy children htree k hk
    have hle := List.nodup_iff_count.mp (e.nodup_tour (Procedure.call family) world)
      (site.place ++ [k])
    exact Nat.le_antisymm hle (List.count_pos_iff.mpr hmem)
  · have hfailure := inReadingOrder_asked family run.failure world
    rcases updatedBy_cases family sim run world with h | h | ⟨world', h⟩
    · exact ⟨[], [], .nil _, .nil _, h⟩
    · refine ⟨asked family run.failure world, [], hfailure, .nil _, ?_⟩
      rw [h, updatedIn_eq, List.append_nil]
    · refine ⟨asked family run.failure world, asked family run.success world', hfailure,
        inReadingOrder_asked family run.success world', ?_⟩
      rw [h, updatedIn_eq, updatedIn_eq, List.filterMap_append]

end Run

end SignalScript
