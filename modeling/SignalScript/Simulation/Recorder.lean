import SignalScript.Simulation.Basic

/-!
# Recording and refusing commands

A simulator behind a recorder: every command that the engine sends is written down, and commands
that a rule refuses never reach the simulator.

* `Recorder`            a simulator and the commands sent so far;
* `Simulator.recorded`  the recorder as a simulator.
-/

namespace SignalScript

/-- a simulator and the commands sent to it so far, in order -/
structure Recorder (S : Type) where
  inner : S
  sent : List Command

namespace Simulator

variable {S : Type}

/-- write every command down; refused ones do not reach the simulator -/
def recorded (sim : Simulator S) (refuses : Command → Bool) : Simulator (Recorder S) where
  command c recorder :=
    let sent := recorder.sent ++ [c]
    if refuses c then ⟨false, ⟨recorder.inner, sent⟩, []⟩
    else
      let reply := sim.command c recorder.inner
      ⟨reply.accepted, ⟨reply.state, sent⟩, reply.log⟩
  clock recorder := sim.clock recorder.inner
  distance recorder := sim.distance recorder.inner
  speed recorder := sim.speed recorder.inner

/-- every command is written down, accepted or not -/
theorem recorded_sent (sim : Simulator S) (refuses : Command → Bool) (c : Command)
    (recorder : Recorder S) :
    ((sim.recorded refuses).command c recorder).state.sent = recorder.sent ++ [c] := by
  simp only [recorded]
  split <;> rfl

end Simulator

end SignalScript
