import Mathlib.Algebra.Order.Floor.Div
import SignalScript.Proofs.Scene.Frame
import SignalScript.Proofs.Scenario.Verdict
import SignalScript.Scenario.Drive

/-!
# The loop of a run

A run is driven tick by tick, and it ends with a verdict or when its time is up. The bound on its
ticks is never felt: with any bound from `Run.limit` on, `Run.drive` is the loop that knows no bound.

* `Run.Loop`               the loop without a bound, with the states in front of its ticks;
* `Run.exists_loop`        the loop comes to an end, and `Run.drive` ends as it does;
* `Condition.KeepsClock`   conditions that do not move the clock, such as the built-in ones;
* `Run.clock_rounds`       the clock after some rounds is a multiple of the step;
* `Run.Timely`             when the ticks are, how many there are, and what the loop reports;
* `Run.Loop.timely`        every loop that starts at time zero is timely;
* `Run.Untroubled`         what decides the loop of a run without errors.
-/

namespace SignalScript

variable {π : Type}

namespace Run

/-! ## the loop without a bound -/

/-- how the loop goes on from a run and its world: the runs and worlds in front of its ticks, in
order, and the verdict and the world that it ends with -/
inductive Loop (family : Condition π (World Offline)) (step timeout : Duration) :
    Run π → World Offline → List (Run π × World Offline) → Status × World Offline → Prop where
  /-- the update has a final verdict -/
  | verdict {run next : Run π} {world after : World Offline}
    (hupdate : run.update family Offline.simulator world = (next, after))
    (hfinal : next.status.isTerminal = true) :
    Loop family step timeout run world [(run, world)] (next.status, after)
  /-- it has none, and the time is up -/
  | timeUp {run next : Run π} {world after : World Offline}
    (hupdate : run.update family Offline.simulator world = (next, after))
    (hopen : next.status.isTerminal = false)
    (hlate : timeout.inNanos ≤ after.simulator.clock.inNanos) :
    Loop family step timeout run world [(run, world)] (.failed, after)
  /-- it has none, and there is time for another step -/
  | again {run next : Run π} {world after : World Offline}
    {ticks : List (Run π × World Offline)} {final : Status × World Offline}
    (hupdate : run.update family Offline.simulator world = (next, after))
    (hopen : next.status.isTerminal = false)
    (hearly : after.simulator.clock.inNanos < timeout.inNanos)
    (hrest : Loop family step timeout next (advance step after) ticks final) :
    Loop family step timeout run world ((run, world) :: ticks) final

/-- the status that the update of a tick returns -/
def returned (family : Condition π (World Offline)) (tick : Run π × World Offline) : Status :=
  (tick.1.update family Offline.simulator tick.2).1.status

end Run

/-! ## the clock -/

/-- the conditions do not move the clock: they see the simulator only through its commands and
questions -/
def Condition.KeepsClock (family : Condition π (World Offline)) : Prop :=
  ∀ c world, (family.update c world).world.simulator.clock = world.simulator.clock

theorem Offline.lightsOnly : Offline.simulator.LightsOnly :=
  ⟨fun _ _ => rfl, fun _ _ => rfl, fun _ _ => rfl⟩

theorem Builtin.keepsClock : (condition Offline.simulator).KeepsClock := by
  intro c world
  have hscene := update_changeAll Offline.simulator c world
  rw [Scene.changeAll_eq] at hscene
  have hsimulator : ((condition Offline.simulator).update c world).world.simulator =
      (Offline.simulator.perform (c.demand?.toList.flatMap world.network.commands)
        world.simulator).2 := congrArg Scene.simulator hscene
  rw [hsimulator]
  exact Simulator.perform_keeps Offline.lightsOnly.clock _ _

namespace Run

section
variable {family : Condition π (World Offline)} (hclock : family.KeepsClock)
include hclock

theorem clock_evaluate (e : Expr (Procedure π)) (world : World Offline) :
    (evaluate family e world).world.simulator.clock = world.simulator.clock :=
  Expr.evaluate_invariant (fun w : World Offline => w.simulator.clock = world.simulator.clock)
    (fun c w hw => (hclock c w).trans hw) e rfl

theorem clock_tickSuccess (run : Run π) (world : World Offline) :
    (run.tickSuccess family world).2.2.simulator.clock = world.simulator.clock := by
  have hscene := (tickSuccess_scene family run world).2.2
  have hsimulator : (run.tickSuccess family world).2.2.simulator =
      (evaluate family run.success world).world.simulator := congrArg Scene.simulator hscene
  rw [hsimulator]
  exact clock_evaluate hclock run.success world

theorem clock_tick (run : Run π) (world : World Offline) :
    (run.tick family world).2.2.simulator.clock = world.simulator.clock := by
  have hfailure := clock_evaluate hclock run.failure world
  have hn := update_ne_failed world.network
  cases he : run.errors with
  | cons first others =>
    rw [tick_of_not_configured he]
    rfl
  | nil =>
    cases ha : (evaluate family run.failure world).answer with
    | error error =>
      rw [tick_of_failure_error he hn ha]
      exact hfailure
    | ok v =>
      cases hv : v.isTruthy with
      | true =>
        rw [tick_of_failing he hn ha hv]
        exact hfailure
      | false =>
        rw [tick_of_not_failing he hn ha hv, clock_tickSuccess hclock]
        exact hfailure

theorem clock_update (run : Run π) (world : World Offline) :
    (run.update family Offline.simulator world).2.simulator.clock = world.simulator.clock := by
  cases hs : run.status.isTerminal with
  | true => rw [update_of_terminal hs]
  | false =>
    have hscene : (run.update family Offline.simulator world).2.scene =
        (run.tick family world).2.2.scene := by
      rw [update_of_ongoing hs, scene_verdictLine]
    have hsimulator : (run.update family Offline.simulator world).2.simulator =
        (run.tick family world).2.2.simulator := congrArg Scene.simulator hscene
    rw [hsimulator, clock_tick hclock]

/-- **No drift**: after `n` rounds the clock has gone `n` steps, to the nanosecond. -/
theorem clock_rounds (step : Duration) (n : Nat) :
    ∀ (run : Run π) (world : World Offline),
      (run.rounds family step world n).2.simulator.clock.inNanos =
        world.simulator.clock.inNanos + n * step.inNanos := by
  induction n with
  | zero => intro run world; simp [rounds_zero]
  | succ n ih =>
    intro run world
    rw [rounds_succ, ih, advance_clock, Duration.inNanos_add, clock_update hclock, Nat.succ_mul]
    omega

end

/-! ## the loop comes to an end -/

section
variable {family : Condition π (World Offline)} {step timeout : Duration}

theorem loop_or_again (family : Condition π (World Offline)) (step timeout : Duration) (run : Run π)
    (world : World Offline) (n : Nat) :
    (∃ ticks, Loop family step timeout run world ticks
        (run.drive family step timeout world (n + 1))) ∨
      ∃ next after, run.update family Offline.simulator world = (next, after) ∧
        next.status.isTerminal = false ∧ after.simulator.clock.inNanos < timeout.inNanos ∧
        run.drive family step timeout world (n + 1) =
          next.drive family step timeout (advance step after) n := by
  rcases hupdate : run.update family Offline.simulator world with ⟨next, after⟩
  rw [drive, hupdate]
  cases hfinal : next.status.isTerminal with
  | true => exact .inl ⟨_, by simpa [hfinal] using .verdict hupdate hfinal⟩
  | false =>
    by_cases hlate : timeout.inNanos ≤ after.simulator.clock.inNanos
    · exact .inl ⟨_, by simpa [hfinal, hlate] using .timeUp hupdate hfinal hlate⟩
    · have hearly := Nat.lt_of_not_le hlate
      exact .inr ⟨next, after, rfl, hfinal, hearly, by simp [hfinal, hlate]⟩

/-- **The loop comes to an end**, when `m` steps reach the end of its time. -/
theorem exists_loop (hclock : family.KeepsClock) (m : Nat) :
    ∀ {run : Run π} {world : World Offline},
      timeout.inNanos ≤ world.simulator.clock.inNanos + m * step.inNanos →
      ∃ ticks, Loop family step timeout run world ticks
        (run.drive family step timeout world (m + 1)) := by
  induction m with
  | zero =>
    intro run world htime
    rcases loop_or_again family step timeout run world 0 with
      h | ⟨next, after, hupdate, _, hearly, _⟩
    · exact h
    · have hsame := clock_update hclock run world
      rw [hupdate] at hsame
      rw [hsame] at hearly
      omega
  | succ m ih =>
    intro run world htime
    rcases loop_or_again family step timeout run world (m + 1) with
      h | ⟨next, after, hupdate, hopen, hearly, hdrive⟩
    · exact h
    · have hsame := clock_update hclock run world
      rw [hupdate] at hsame
      have htime' : timeout.inNanos ≤
          (advance step after).simulator.clock.inNanos + m * step.inNanos := by
        rw [advance_clock, Duration.inNanos_add, hsame]
        rw [Nat.succ_mul] at htime
        omega
      obtain ⟨ticks, hrest⟩ : ∃ ticks, Loop family step timeout next (advance step after) ticks
          (next.drive family step timeout (advance step after) (m + 1)) := ih htime'
      rw [hdrive]
      exact ⟨_, .again hupdate hopen hearly hrest⟩

/-! ## what a loop does -/

namespace Loop

variable {run : Run π} {world : World Offline} {ticks : List (Run π × World Offline)}
  {final : Status × World Offline}

/-- each tick is the one behind the rounds before it -/
theorem eq_rounds (h : Loop family step timeout run world ticks final) :
    ∀ j tick, ticks[j]? = some tick → tick = run.rounds family step world j := by
  induction h with
  | verdict | timeUp =>
    intro j tick htick
    cases j with
    | zero => exact (Option.some.inj htick).symm
    | succ j => exact nomatch htick
  | again hupdate _ _ _ ih =>
    intro j tick htick
    cases j with
    | zero => exact (Option.some.inj htick).symm
    | succ j =>
      rw [rounds_succ, hupdate]
      exact ih j tick htick

theorem open_of_lt (h : Loop family step timeout run world ticks final) :
    ∀ j tick, ticks[j]? = some tick → j + 1 < ticks.length →
      (returned family tick).isTerminal = false ∧
      (tick.1.update family Offline.simulator tick.2).2.simulator.clock.inNanos <
        timeout.inNanos := by
  induction h with
  | verdict | timeUp =>
    intro j tick _ hlast
    simp at hlast
  | again hupdate hopen hearly _ ih =>
    intro j tick htick hlast
    cases j with
    | zero =>
      obtain rfl := Option.some.inj htick
      rw [returned, hupdate]
      exact ⟨hopen, hearly⟩
    | succ j => exact ih j tick htick (by simpa using hlast)

theorem exists_last (h : Loop family step timeout run world ticks final) :
    ∃ tick, ticks[ticks.length - 1]? = some tick ∧
      final.2 = (tick.1.update family Offline.simulator tick.2).2 ∧ ticks ≠ [] := by
  induction h with
  | verdict hupdate | timeUp hupdate => exact ⟨_, rfl, by rw [hupdate], List.cons_ne_nil _ _⟩
  | @again run next world after ticks final hupdate hopen hearly hrest ih =>
    obtain ⟨tick, htick, hworld, hne⟩ := ih
    obtain ⟨first, rest, rfl⟩ := List.exists_cons_of_ne_nil hne
    exact ⟨tick, by simpa using htick, hworld, List.cons_ne_nil _ _⟩

/-- **The verdict**: the first final status that a tick returns, and without one the run failed. -/
theorem status_eq (h : Loop family step timeout run world ticks final) :
    final.1 = ((ticks.map (returned family)).find? (·.isTerminal)).getD .failed := by
  induction h with
  | verdict hupdate hfinal => simp [returned, hupdate, hfinal]
  | timeUp hupdate hopen => simp [returned, hupdate, hopen]
  | again hupdate hopen _ _ ih => simpa [returned, hupdate, hopen] using ih

theorem late_of_open (h : Loop family step timeout run world ticks final) :
    (∀ tick ∈ ticks, (returned family tick).isTerminal = false) →
      timeout.inNanos ≤ final.2.simulator.clock.inNanos := by
  induction h with
  | verdict hupdate hfinal =>
    intro hopen
    have hfirst := hopen _ List.mem_cons_self
    rw [returned, hupdate, hfinal] at hfirst
    exact nomatch hfirst
  | timeUp _ _ hlate => exact fun _ => hlate
  | again _ _ _ _ ih => exact fun hopen => ih fun tick htick => hopen tick (List.mem_cons_of_mem _ htick)

end Loop

end

end Run

/-- the whole seconds of the span are a number of 64 bits -/
def Duration.Fits (d : Duration) : Prop := d.secs < 2 ^ 64

theorem Duration.Fits.of_le {d d' : Duration} (h : d'.Fits) (hle : d.inNanos ≤ d'.inNanos) :
    d.Fits := by
  have hd := d.nanos_lt
  have hd' := d'.nanos_lt
  simp only [Fits, inNanos] at *
  omega

namespace Run

/-- **When the ticks of a loop are and what it reports**, if it starts at time zero. -/
structure Timely (family : Condition π (World Offline)) (step timeout : Duration) (run : Run π)
    (world : World Offline) (ticks : List (Run π × World Offline))
    (final : Status × World Offline) : Prop where
  /-- tick `j` is the one behind `j` rounds, `j` steps after the start to the nanosecond -/
  times : ∀ j tick, ticks[j]? = some tick →
    tick = run.rounds family step world j ∧
      tick.2.simulator.clock.inNanos = j * step.inNanos
  /-- there is a tick, and there are no more than the steps that reach the end of the time -/
  count : 0 < ticks.length ∧ ticks.length ≤ timeout.inNanos ⌈/⌉ step.inNanos + 1
  /-- only the last tick can have a final verdict, or be at an instant when the time is up -/
  early : ∀ j tick, ticks[j]? = some tick → j + 1 < ticks.length →
    (returned family tick).isTerminal = false ∧ tick.2.simulator.clock.inNanos < timeout.inNanos
  /-- the clock stays where it was at the last tick, less than a step after the end of the time -/
  clock : final.2.simulator.clock.inNanos = (ticks.length - 1) * step.inNanos ∧
    final.2.simulator.clock.inNanos < timeout.inNanos + step.inNanos
  /-- the first final verdict is reported, and without one the run failed -/
  status : final.1 = ((ticks.map (returned family)).find? (·.isTerminal)).getD .failed
  /-- without a final verdict there is a tick at an instant when the time is up -/
  late : (∀ tick ∈ ticks, (returned family tick).isTerminal = false) →
    timeout.inNanos ≤ final.2.simulator.clock.inNanos
  /-- the clock never gets further than its end and one step -/
  fits : (timeout.add step).Fits →
    final.2.simulator.clock.Fits ∧ ∀ tick ∈ ticks, tick.2.simulator.clock.Fits

/-- **Every loop that starts at time zero is timely.** -/
theorem Loop.timely {family : Condition π (World Offline)} (hclock : family.KeepsClock)
    {step timeout : Duration} (hstep : 0 < step.inNanos) {run : Run π} {world : World Offline}
    (hstart : world.simulator.clock = .zero) {ticks : List (Run π × World Offline)}
    {final : Status × World Offline} (h : Loop family step timeout run world ticks final) :
    Timely family step timeout run world ticks final := by
  have htimes : ∀ j tick, ticks[j]? = some tick →
      tick.2.simulator.clock.inNanos = j * step.inNanos := by
    intro j tick htick
    rw [h.eq_rounds j tick htick, clock_rounds hclock, hstart, Duration.inNanos_zero, Nat.zero_add]
  have hearly : ∀ j tick, ticks[j]? = some tick → j + 1 < ticks.length →
      (returned family tick).isTerminal = false ∧
        tick.2.simulator.clock.inNanos < timeout.inNanos := by
    intro j tick htick hlast
    have hopen := h.open_of_lt j tick htick hlast
    rw [clock_update hclock] at hopen
    exact hopen
  obtain ⟨last, hlast, hworld, hne⟩ := h.exists_last
  have hlength : 0 < ticks.length := List.length_pos_of_ne_nil hne
  have hfinal : final.2.simulator.clock.inNanos = (ticks.length - 1) * step.inNanos := by
    rw [hworld, clock_update hclock, htimes _ _ hlast]
  -- the tick before the last one was early, and the last one is a step later
  have hbefore : ∀ k, ticks.length = k + 2 → k * step.inNanos < timeout.inNanos := by
    intro k hk
    have htick : ticks[k]? = some ticks[k] := List.getElem?_eq_getElem (by omega)
    have htime := (hearly k _ htick (by omega)).2
    rw [htimes k _ htick] at htime
    exact htime
  have hbound : final.2.simulator.clock.inNanos < timeout.inNanos + step.inNanos := by
    rw [hfinal]
    rcases hk : ticks.length with _ | _ | k
    · simpa using Nat.add_pos_right _ hstep
    · simpa using Nat.add_pos_right _ hstep
    · have hlt := hbefore k hk
      rw [Nat.add_sub_cancel, Nat.succ_mul]
      omega
  refine ⟨fun j tick htick => ⟨h.eq_rounds j tick htick, htimes j tick htick⟩, ⟨hlength, ?_⟩,
    hearly, ⟨hfinal, hbound⟩, h.status_eq, h.late_of_open, fun hfits => ⟨?_, fun tick htick => ?_⟩⟩
  · -- with more ticks there would have been one before the last at which the time was up
    by_contra hmany
    obtain ⟨k, hk⟩ : ∃ k, ticks.length = k + 2 := ⟨ticks.length - 2, by omega⟩
    have hceil : timeout.inNanos ⌈/⌉ step.inNanos ≤ k := by omega
    have hreached : timeout.inNanos ≤ step.inNanos * k := (ceilDiv_le_iff_le_mul hstep).mp hceil
    have hlt := hbefore k hk
    rw [Nat.mul_comm] at hlt
    omega
  · refine hfits.of_le ?_
    rw [Duration.inNanos_add]
    omega
  · obtain ⟨j, hj, rfl⟩ := List.getElem_of_mem htick
    have hle : j * step.inNanos ≤ (ticks.length - 1) * step.inNanos :=
      Nat.mul_le_mul_right _ (by omega)
    refine hfits.of_le ?_
    rw [htimes j _ (List.getElem?_eq_getElem hj), Duration.inNanos_add]
    omega

/-- with any bound from `limit` on, driving a run is the loop without a bound -/
theorem exists_loop_of_limit {family : Condition π (World Offline)} (hclock : family.KeepsClock)
    {step timeout : Duration} (hstep : 0 < step.inNanos) (run : Run π) {world : World Offline}
    (hstart : world.simulator.clock = .zero) {n : Nat} (hn : limit step timeout ≤ n) :
    ∃ ticks, Loop family step timeout run world ticks
      (run.drive family step timeout world n) := by
  have hlimit : limit step timeout = timeout.inNanos ⌈/⌉ step.inNanos + 1 := by
    rw [limit, Nat.ceilDiv_eq_add_pred_div]
  obtain ⟨m, rfl⟩ : ∃ m, n = m + 1 := ⟨n - 1, by omega⟩
  have hsteps : timeout.inNanos ≤ step.inNanos * m :=
    (ceilDiv_le_iff_le_mul hstep).mp (by omega)
  refine exists_loop hclock m ?_
  rw [hstart, Duration.inNanos_zero, Nat.zero_add, Nat.mul_comm]
  exact hsteps

/-! ## a run without errors -/

/-- **The loop of a run without errors**: nothing but the two trees and the time decides it. -/
structure Untroubled (family : Condition π (World Offline)) (timeout : Duration) (run : Run π)
    (ticks : List (Run π × World Offline)) (final : Status × World Offline) : Prop where
  /-- in front of every tick there are no errors, and the texts of the trees are those of the run -/
  configured : ∀ tick ∈ ticks, tick.1.errors = [] ∧
    tick.1.success.line = run.success.line ∧ tick.1.failure.line = run.failure.line
  /-- the trees answer with booleans, never with an error -/
  answers : ∀ tick ∈ ticks, ∃ f s,
    (evaluate family tick.1.failure tick.2).answer = .ok (.bool f) ∧
    (successTurn family tick.1 tick.2).answer = .ok (.bool s)
  /-- every tick evaluates the failure tree, and the success tree unless that one is true -/
  judged : ∀ tick ∈ ticks, Judged family Offline.simulator tick.1 tick.2
  /-- without success the failure tree was true at the last tick, or neither tree was true at any
  tick and the time is up -/
  cause : final.1 ≠ .succeeded →
    (∃ tick ∈ ticks.getLast?, (evaluate family tick.1.failure tick.2).answer = .ok (.bool true)) ∨
    (∀ tick ∈ ticks, (evaluate family tick.1.failure tick.2).answer = .ok (.bool false) ∧
      (successTurn family tick.1 tick.2).answer = .ok (.bool false)) ∧
    timeout.inNanos ≤ final.2.simulator.clock.inNanos

theorem eq_ongoing_of_open {status : Status} (h : status.isTerminal = false) :
    status = .ongoing := by
  cases status with
  | ongoing => rfl
  | succeeded | failed => exact nomatch h

namespace Loop

variable {family : Condition π (World Offline)} {step timeout : Duration} {first run : Run π}
  {world : World Offline} {ticks : List (Run π × World Offline)} {final : Status × World Offline}

theorem standing (h : Loop family step timeout run world ticks final) :
    Standing first run → run.status = .ongoing →
      ∀ tick ∈ ticks, Standing first tick.1 ∧ tick.1.status = .ongoing := by
  induction h with
  | verdict | timeUp =>
    intro hstanding hongoing tick htick
    obtain rfl := List.mem_singleton.mp htick
    exact ⟨hstanding, hongoing⟩
  | @again run next world after ticks final hupdate hopen _ _ ih =>
    intro hstanding hongoing
    -- the update that leads to the next tick keeps the configuration
    have hnext : Standing first (run.update family Offline.simulator world).1 :=
      hstanding.update Offline.simulator world
    rw [hupdate] at hnext
    exact List.forall_mem_cons.mpr ⟨⟨hstanding, hongoing⟩, ih hnext (eq_ongoing_of_open hopen)⟩

/-- a loop without success ends with the tick that fails, or no tick had a verdict in time -/
theorem failed_or_late (h : Loop family step timeout run world ticks final) :
    final.1 ≠ .succeeded →
      (∃ tick ∈ ticks.getLast?, returned family tick = .failed) ∨
      (∀ tick ∈ ticks, returned family tick = .ongoing) ∧
        timeout.inNanos ≤ final.2.simulator.clock.inNanos := by
  induction h with
  | @verdict run next world after hupdate hfinal =>
    intro hfails
    refine .inl ⟨(run, world), rfl, ?_⟩
    rw [returned, hupdate]
    cases hstatus : next.status with
    | ongoing => rw [hstatus] at hfinal; exact nomatch hfinal
    | succeeded => exact absurd hstatus hfails
    | failed => rfl
  | timeUp hupdate hopen hlate =>
    intro _
    refine .inr ⟨fun tick htick => ?_, hlate⟩
    obtain rfl := List.mem_singleton.mp htick
    rw [returned, hupdate]
    exact eq_ongoing_of_open hopen
  | @again run next world after ticks final hupdate hopen _ hrest ih =>
    intro hfails
    rcases ih hfails with ⟨last, hlast, hfailed⟩ | ⟨hall, hlate⟩
    · refine .inl ⟨last, ?_, hfailed⟩
      rw [List.getLast?_cons, Option.mem_def.mp hlast]
      rfl
    · refine .inr ⟨List.forall_mem_cons.mpr ⟨?_, hall⟩, hlate⟩
      rw [returned, hupdate]
      exact eq_ongoing_of_open hopen

/-- **The loop of a run whose trees have no errors is untroubled.** -/
theorem untroubled (h : Loop family step timeout run world ticks final)
    (hongoing : run.status = .ongoing) (he : run.errors = []) (hs : run.success.errors = [])
    (hf : run.failure.errors = []) (hdecides : run.success.Decides ∧ run.failure.Decides) :
    Untroubled family timeout run ticks final := by
  have hstanding := h.standing (Standing.refl run) hongoing
  have hanswers : ∀ tick ∈ ticks, ∃ f s,
      (evaluate family tick.1.failure tick.2).answer = .ok (.bool f) ∧
      (successTurn family tick.1 tick.2).answer = .ok (.bool s) := by
    intro tick htick
    obtain ⟨hshape, _⟩ := hstanding tick htick
    obtain ⟨f, hfailure⟩ := Expr.exists_bool_of_no_errors
      ((Expr.errors_eq_of_shape hshape.failure).trans hf)
      (hdecides.2.of_shape hshape.failure) family tick.2
    obtain ⟨s, hsuccess⟩ := Expr.exists_bool_of_no_errors
      ((Expr.errors_eq_of_shape hshape.success).trans hs)
      (hdecides.1.of_shape hshape.success) family (behindFailure family tick.1 tick.2)
    exact ⟨f, s, hfailure, hsuccess⟩
  have hjudged : ∀ tick ∈ ticks, Judged family Offline.simulator tick.1 tick.2 := by
    intro tick htick
    obtain ⟨hshape, hstatus⟩ := hstanding tick htick
    obtain ⟨f, s, hfailure, hsuccess⟩ := hanswers tick htick
    exact judged_of_answers hstatus (hshape.errors.trans he) hfailure hsuccess _
  refine ⟨fun tick htick => ?_, hanswers, hjudged, fun hfails => ?_⟩
  · obtain ⟨hshape, _⟩ := hstanding tick htick
    exact ⟨hshape.errors.trans he, Expr.line_eq_of_shape hshape.success,
      Expr.line_eq_of_shape hshape.failure⟩
  · rcases h.failed_or_late hfails with ⟨last, hlast, hfailed⟩ | ⟨hopen, hlate⟩
    · have hmem := List.mem_of_getLast? (Option.mem_def.mp hlast)
      exact .inl ⟨last, hlast, (hjudged last hmem).failed_iff.mp hfailed⟩
    · exact .inr ⟨fun tick htick => (hjudged tick htick).ongoing_iff.mp (hopen tick htick), hlate⟩

end Loop

end Run

end SignalScript
