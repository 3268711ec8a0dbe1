import SignalScript.Cli.Request
import SignalScript.Condition.Registry
import SignalScript.Scenario.Drive
import SignalScript.Scenario.Loader

/-!
# What a command does

* `Outcome`              the text that a command prints, and how it ends;
* `Outcome.ofRun`        runs a scenario on the offline simulator;
* `Outcome.ofCheck`      lists what a scenario holds and what is wrong with it;
* `Outcome.ofArguments`  what a command line does, given the files and the variables.
-/

namespace SignalScript

/-- how a command ends -/
inductive Ending where
  | success
  | failure (message : String)
  | usage (error : UsageError)
  deriving DecidableEq

/-- what a command prints, and how it ends -/
structure Outcome where
  output : String
  ending : Ending

namespace Ending

/-- the exit code -/
def code : Ending → Nat
  | .success => 0
  | .failure _ => 1
  | .usage _ => 2

/-- the complaint for the standard error -/
def complaint : Ending → String
  | .success => ""
  | .failure message => "Error: " ++ message ++ "\n"
  | .usage error => "error: " ++ error.message ++ "\n"

end Ending

namespace Outcome

def failure (message : String) : Outcome := ⟨"", .failure message⟩

/-- the content of a file, if it can be read -/
abbrev Files := String → Option ByteArray

abbrev Bench := World Offline

/-- the built-in conditions on the offline simulator -/
def family : Condition Builtin Bench := Builtin.condition Offline.simulator

/-- load a scenario and begin a run of it; `speed` is the speed of the vehicle -/
def prepare (files : Files) (file : String) (speed : Float) :
    Except String (Run Builtin × Bench) :=
  match Script.ofFile? (files file) with
  | .error _ => .error ("failed to load " ++ file)
  | .ok script =>
    match Run.start family Registry.builtin script ⟨.start speed, #[]⟩ with
    | (.error error, _) => .error error.message
    | (.ok run, world) => .ok (run, world)

/-- what is printed about a verdict -/
def verdictLine (status : Status) (world : Bench) : String :=
  "Scenario " ++ status.word ++ " at " ++ Places.write 2 world.simulator.clock.toSeconds ++
    "s, mileage " ++ Places.write 2 world.simulator.distance ++ "m\n"

/-- the outcome of a run with a verdict -/
def ofVerdict (file : String) (status : Status) (world : Bench) : Outcome where
  output := verdictLine status world
  ending := if status = .succeeded then .success
    else .failure ("scenario " ++ status.word ++ " in " ++ file)

def ofRun (files : Files) (file : String) (pace : Pace) : Outcome :=
  if pace.tickMillis = 0 then failure "--tick-ms must be greater than zero"
  else
    match prepare files file pace.speed with
    | .error message => failure message
    | .ok (run, world) =>
      let step := Duration.ofMillis pace.tickMillis
      let timeout := Duration.ofSecs pace.timeoutSeconds
      let (status, world) := run.drive family step timeout world (Run.limit step timeout)
      ofVerdict file status world

/-- what is wrong with a scenario: its end condition, then its intersections -/
def errors (run : Run Builtin) (world : Bench) : List ConfigurationError :=
  run.errors ++ world.network.errors

/-- the lines about a scenario -/
def lines (run : Run Builtin) (world : Bench) : List String :=
  world.network.map (fun i => "Intersection " ++ bracketed i.ids) ++
    ["Success: " ++ run.success.line, "Failure: " ++ run.failure.line] ++
    (errors run world).map fun error => "error: " ++ error.message

def ofCheck (files : Files) (file : String) : Outcome :=
  match prepare files file 0.0 with
  | .error message => failure message
  | .ok (run, world) =>
    { output := String.join ((lines run world).map (· ++ "\n"))
      ending := match (errors run world).length with
        | 0 => .success
        | n => .failure (toString n ++ " configuration error(s) in " ++ file) }

/-- the name of the program and its version -/
def versionText : String := "scenario-rs 0.1.0\n"

def helpText : String :=
  "Usage: scenario-rs <COMMAND>\n\n" ++
  "Commands:\n" ++
  "  run    Run a scenario against the offline simulator\n" ++
  "  check  Parse a scenario and report its expression trees\n" ++
  "  help   Print this message\n\n" ++
  "Options of run and check:\n" ++
  "  -f, --file <FILE>                  Path to the scenario file\n\n" ++
  "Options of run:\n" ++
  "      --tick-ms <TICK_MS>            Simulation step in milliseconds\n" ++
  "      --timeout-secs <TIMEOUT_SECS>  Simulated seconds before the run counts as failed\n" ++
  "      --speed <SPEED>                Constant ego speed in metres per second\n\n" ++
  "Options:\n" ++
  "  -h, --help     Print help\n" ++
  "  -V, --version  Print version\n"

def ofRequest (files : Files) : Request → Outcome
  | .run file pace => ofRun files file pace
  | .check file => ofCheck files file
  | .help => ⟨helpText, .success⟩
  | .version => ⟨versionText, .success⟩

/-- what a command line does; `.env` may hold variables that the environment lacks -/
def ofArguments (files : Files) (env : Environment) (arguments : List String) : Outcome :=
  let env := match (files ".env").bind String.fromUTF8? with
    | some text => env.load text
    | none => env
  match Request.ofArguments? env arguments with
  | .ok request => ofRequest files request
  | .error error => ⟨"", .usage error⟩

end Outcome

end SignalScript
