import SignalScript.Scenario.Run
import SignalScript.Simulation.Offline

/-!
# Driving a run to its end

A run goes tick by tick on the offline simulator, the clock moving one step between two ticks,
until it has a verdict or its time is up.

* `Run.advance`   the clock moves one step on;
* `Run.rounds`    the run and the world after some ticks, with a step after each;
* `Run.drive`     the verdict, and the world it was reached in;
* `Run.limit`     no run takes more ticks than this.
-/

namespace SignalScript.Run

variable {π : Type}

/-- the clock moves one step on, and what was logged is not kept -/
def advance (step : Duration) (world : World Offline) : World Offline :=
  { world with simulator := world.simulator.advance step, journal := #[] }

/-- the run and the world after `n` ticks, with a step of the clock after each -/
def rounds (family : Condition π (World Offline)) (step : Duration) (run : Run π)
    (world : World Offline) : Nat → Run π × World Offline
  | 0 => (run, world)
  | n + 1 =>
    let (run, world) := run.update family Offline.simulator world
    rounds family step run (advance step world) n

/-- tick after tick, at most `limit` of them; without a verdict in time a run has failed -/
def drive (family : Condition π (World Offline)) (step timeout : Duration) (run : Run π)
    (world : World Offline) : Nat → Status × World Offline
  | 0 => (.failed, world)
  | limit + 1 =>
    let (run, world) := run.update family Offline.simulator world
    if run.status.isTerminal then (run.status, world)
    else if timeout.inNanos ≤ world.simulator.clock.inNanos then (.failed, world)
    else drive family step timeout run (advance step world) limit

theorem rounds_zero (family : Condition π (World Offline)) (step : Duration) (run : Run π)
    (world : World Offline) : rounds family step run world 0 = (run, world) := rfl

theorem rounds_succ (family : Condition π (World Offline)) (step : Duration) (run : Run π)
    (world : World Offline) (n : Nat) :
    rounds family step run world (n + 1) =
      rounds family step (run.update family Offline.simulator world).1
        (advance step (run.update family Offline.simulator world).2) n := rfl

theorem advance_clock (step : Duration) (world : World Offline) :
    (advance step world).simulator.clock = world.simulator.clock.add step := rfl

/-- the ticks up to the first at which the time is up -/
def limit (step timeout : Duration) : Nat :=
  (timeout.inNanos + step.inNanos - 1) / step.inNanos + 1

end SignalScript.Run
