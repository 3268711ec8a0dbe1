import SignalScript.Simulation.Duration

/-!
# The simulator as the engine sees it

The engine sends commands to a simulator and asks it for its clock, the distance driven and the
speed. Any type of states can be a simulator.

* `Command`         show a colour or an arrow on one traffic light;
* `Simulator`       how a state answers commands and questions;
* `Record`          one line of the log;
* `Stage`           a simulator and the log so far;
* `Stage.sendAll`   sends every command of a list and tells if all of them were accepted.
-/

namespace SignalScript

/-- the value of a colour or an arrow that is off -/
def blank : String := "Blank"

inductive Aspect where
  | color
  | arrow
  deriving DecidableEq

/-- show `value` as the colour or the arrow of a traffic light -/
structure Command where
  aspect : Aspect
  light : Nat
  value : String
  deriving DecidableEq

/-! ## the log -/

inductive Level where
  | error
  | warn
  | info
  | debug
  deriving DecidableEq

/-- one line of the log -/
structure Record where
  level : Level
  line : String
  deriving DecidableEq

namespace Record

def error (line : String) : Record := ⟨.error, line⟩
def warn (line : String) : Record := ⟨.warn, line⟩
def info (line : String) : Record := ⟨.info, line⟩
def debug (line : String) : Record := ⟨.debug, line⟩

end Record

/-! ## simulators -/

/-- the answer to a command: was it accepted, the state after it, and what was logged -/
structure Reply (S : Type) where
  accepted : Bool
  state : S
  log : List Record

/-- how the states of a simulator answer -/
structure Simulator (S : Type) where
  command : Command → S → Reply S
  clock : S → Duration
  distance : S → Float
  speed : S → Float

/-- a simulator and the log so far -/
structure Stage (S : Type) where
  simulator : S
  journal : Array Record

namespace Stage

variable {S : Type}

/-- write one record into the log -/
def note (stage : Stage S) (record : Record) : Stage S :=
  { stage with journal := stage.journal.push record }

/-- write records into the log, in order -/
def noteAll (stage : Stage S) (records : List Record) : Stage S :=
  { stage with journal := stage.journal ++ records }

/-- send one command; the simulator may write into the log -/
def send (sim : Simulator S) (command : Command) (stage : Stage S) : Bool × Stage S :=
  let reply := sim.command command stage.simulator
  (reply.accepted, ⟨reply.state, stage.journal ++ reply.log⟩)

/-- send every command, also after one that was refused; true if all were accepted -/
def sendAll (sim : Simulator S) : List Command → Stage S → Bool × Stage S
  | [], stage => (true, stage)
  | command :: rest, stage =>
    let first := send sim command stage
    let others := sendAll sim rest first.2
    (first.1 && others.1, others.2)

theorem note_simulator (stage : Stage S) (record : Record) :
    (stage.note record).simulator = stage.simulator := rfl

end Stage

/-! ## the verdict of a tick -/

inductive Status where
  | ongoing
  | succeeded
  | failed
  deriving DecidableEq

namespace Status

/-- a final verdict -/
def isTerminal : Status → Bool
  | .ongoing => false
  | _ => true

def word : Status → String
  | .ongoing => "ongoing"
  | .succeeded => "succeeded"
  | .failed => "failed"

end Status

end SignalScript
