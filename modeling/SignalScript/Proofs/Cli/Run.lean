import SignalScript.Cli.Outcome
import SignalScript.Proofs.Scenario.Drive

/-!
# What `run` reports

The command `run` drives a prepared scenario on the offline simulator, and the process succeeds
exactly if the verdict of the loop is success.

* `Outcome.prepare_eq_ok_iff`  a scenario is prepared by loading its file and starting its run;
* `Outcome.ofRun_of_prepare`   the outcome of `run` is that of the verdict of the loop;
* `Outcome.run_in_time`        the loop ends in time, without drift, and its verdict is reported.
-/

namespace SignalScript.Outcome

variable {files : Files} {file : String} {run : Run Builtin} {world : Bench}

theorem prepare_eq_ok_iff {speed : Float} :
    prepare files file speed = .ok (run, world) ↔
      ∃ script, Script.ofFile? (files file) = .ok script ∧
        Run.start family Registry.builtin script ⟨.start speed, #[]⟩ = (.ok run, world) := by
  unfold prepare
  cases hscript : Script.ofFile? (files file) with
  | error error => simp
  | ok script =>
    rcases hstart : Run.start family Registry.builtin script ⟨.start speed, #[]⟩ with ⟨result, after⟩
    cases result with
    | error error => simp [hstart]
    | ok started => simp [hstart]

theorem clock_of_prepare {speed : Float} (h : prepare files file speed = .ok (run, world)) :
    world.simulator.clock = .zero := by
  obtain ⟨script, _, hstart⟩ := prepare_eq_ok_iff.mp h
  obtain ⟨_, _, _, _, hscene⟩ := Run.read_of_start hstart
  have hsimulator : world.simulator = Offline.start speed := congrArg Scene.simulator hscene
  rw [hsimulator]
  rfl

theorem inNanos_step_pos {pace : Pace} (h : 0 < pace.tickMillis) :
    0 < (Duration.ofMillis pace.tickMillis).inNanos := by
  rw [Duration.inNanos_ofMillis]
  omega

theorem code_ofVerdict (file : String) (status : Status) (world : Bench) :
    (ofVerdict file status world).ending.code = 0 ↔ status = .succeeded := by
  cases status <;> simp [ofVerdict, Ending.code]

/-- a command on a scenario that is prepared does what is said about its run and its world -/
theorem of_prepared {prepared : Except String (Run Builtin × Bench)}
    (f : Run Builtin → Bench → Outcome) :
    prepared = .ok (run, world) →
      (match prepared with
        | .error message => failure message
        | .ok (run, world) => f run world) = f run world := by
  intro h
  subst h
  rfl

theorem ofRun_of_prepare {pace : Pace} (htick : 0 < pace.tickMillis)
    (h : prepare files file pace.speed = .ok (run, world)) {final : Status × Bench}
    (hfinal : run.drive family (.ofMillis pace.tickMillis) (.ofSecs pace.timeoutSeconds) world
      (Run.limit (.ofMillis pace.tickMillis) (.ofSecs pace.timeoutSeconds)) = final) :
    ofRun files file pace = ofVerdict file final.1 final.2 := by
  have hne : pace.tickMillis ≠ 0 := Nat.ne_of_gt htick
  unfold ofRun
  rw [if_neg hne]
  -- step, timeout and verdict have names of their own, for nothing should evaluate the loop here
  extract_lets step timeout
  have hreached : run.drive family step timeout world (Run.limit step timeout) = final := hfinal
  refine (of_prepared _ h).trans ?_
  rw [hreached]

/-- **A run ends in time and reports its verdict.** Take any step of at least a millisecond and any
timeout. Whatever the conditions are, as long as they do not move the clock, the loop comes to an
end, and more ticks than `Run.limit` allows would make no difference. Its ticks are at the times 0,
one step, two steps and so on, to the nanosecond; there are at most `⌈timeout / step⌉ + 1` of them,
and the clock stops less than a step after the timeout. The first final status that a tick returns
is the verdict, also at the first instant when the timeout is reached, and without one the run has
failed. The built-in conditions do not move the clock. So the command `run` ends with the verdict of
such a loop for every scenario that is prepared, and its exit code is zero exactly if that is
success. -/
theorem run_in_time (files : Files) (file : String) (pace : Pace) (htick : 0 < pace.tickMillis) :
    let step := Duration.ofMillis pace.tickMillis
    let timeout := Duration.ofSecs pace.timeoutSeconds
    (∀ (π : Type) (family : Condition π Bench), family.KeepsClock →
      ∀ (run : Run π) (world : Bench), world.simulator.clock = .zero →
      ∀ n, Run.limit step timeout ≤ n → ∃ ticks,
        Run.Loop family step timeout run world ticks (run.drive family step timeout world n) ∧
        Run.Timely family step timeout run world ticks
          (run.drive family step timeout world n)) ∧
    (∀ run world, prepare files file pace.speed = .ok (run, world) → ∃ ticks final,
      Run.Loop family step timeout run world ticks final ∧
      Run.Timely family step timeout run world ticks final ∧
      ofRun files file pace = ofVerdict file final.1 final.2 ∧
      ((ofRun files file pace).ending.code = 0 ↔ final.1 = .succeeded)) := by
  intro step timeout
  have hstep : 0 < step.inNanos := inNanos_step_pos htick
  refine ⟨fun π family hclock run world hstart n hn => ?_, fun run world hprepare => ?_⟩
  · obtain ⟨ticks, hloop⟩ := Run.exists_loop_of_limit hclock hstep run hstart hn
    exact ⟨ticks, hloop, hloop.timely hclock hstep hstart⟩
  · have hstart := clock_of_prepare hprepare
    have hclock : family.KeepsClock := Builtin.keepsClock
    obtain ⟨ticks, hloop⟩ := Run.exists_loop_of_limit hclock hstep run hstart
      (Nat.le_refl (Run.limit step timeout))
    have houtcome := ofRun_of_prepare htick hprepare rfl
    refine ⟨ticks, _, hloop, hloop.timely hclock hstep hstart, houtcome, ?_⟩
    rw [houtcome]
    exact code_ofVerdict _ _ _

/-- a directory with one file: a scenario that never succeeds -/
def endless : Files := fun name =>
  if name = "endless.yaml" then
    some "Story: \x7bEndCondition: \x7bSuccess: \x7bType: AlwaysFalse\x7d\x7d\x7d\n".toUTF8
  else none

/-- with a tick each 400 ms it fails after 1 s, and it has four ticks at most -/
theorem run_in_time_endless :
    let pace : Pace := { tickMillis := 400, timeoutSeconds := 1 }
    ∃ run world ticks final, prepare endless "endless.yaml" pace.speed = .ok (run, world) ∧
      Run.Loop family (.ofMillis 400) (.ofSecs 1) run world ticks final ∧
      ticks.length ≤ 4 ∧ final.2.simulator.clock.inNanos < 1400000000 ∧
      final.1 ≠ .succeeded ∧ (ofRun endless "endless.yaml" pace).ending.code = 1 := by
  intro pace
  have hprepared : (prepare endless "endless.yaml" pace.speed).isOk = true := by decide +kernel
  have hcode : (ofRun endless "endless.yaml" pace).ending.code = 1 := by decide +kernel
  obtain ⟨_, hcommand⟩ := run_in_time endless "endless.yaml" pace (by decide)
  cases hprepare : prepare endless "endless.yaml" pace.speed with
  | error message =>
    rw [hprepare] at hprepared
    exact nomatch hprepared
  | ok prepared =>
    obtain ⟨ticks, final, hloop, htimely, _, hverdict⟩ := hcommand prepared.1 prepared.2 hprepare
    have hstep : (Duration.ofMillis 400).inNanos = 400000000 := by decide
    have htimeout : (Duration.ofSecs 1).inNanos = 1000000000 := by decide
    have hcount := htimely.count.2
    have hend := htimely.clock.2
    rw [htimeout, hstep] at hcount hend
    rw [Nat.ceilDiv_eq_add_pred_div] at hcount
    rw [hcode] at hverdict
    exact ⟨_, _, ticks, final, rfl, hloop, hcount, hend,
      fun hsucceeded => absurd (hverdict.mpr hsucceeded) (by decide), hcode⟩

end SignalScript.Outcome
