import SignalScript.Cli.Environment
import SignalScript.Decimal.Reader

/-!
# The command line

    run --file F [--tick-ms N] [--timeout-secs N] [--speed X]
    check --file F
    help [COMMAND]

* `Request`               what a command line asks for;
* `UsageError`            why a command line asks for nothing;
* `Given.read`            the options of a command, one after the other;
* `Request.ofArguments?`  the request of a command line: an option that is not given has the value
                          of its variable of the environment, or else its default.
-/

namespace SignalScript

/-- how a run goes on: the time between two ticks, the time it may take, the speed of the vehicle -/
structure Pace where
  tickMillis : Nat := 100
  timeoutSeconds : Nat := 300
  speed : Float := 10.0

/-- what a command line asks for -/
inductive Request where
  | run (file : String) (pace : Pace)
  | check (file : String)
  | help
  | version

/-- the commands that work on a file -/
inductive Verb where
  | run
  | check
  deriving DecidableEq

/-- what an option sets -/
inductive Setting where
  | file
  | tickMillis
  | timeoutSeconds
  | speed
  deriving DecidableEq

namespace Verb

def word : Verb → String
  | .run => "run"
  | .check => "check"

def ofWord? (word : String) : Option Verb :=
  if word = "run" then some .run else if word = "check" then some .check else none

def settings : Verb → List Setting
  | .run => [.file, .tickMillis, .timeoutSeconds, .speed]
  | .check => [.file]

theorem ofWord?_word (verb : Verb) : ofWord? verb.word = some verb := by cases verb <;> rfl

end Verb

namespace Setting

/-- the option without its hyphens -/
def word : Setting → String
  | .file => "file"
  | .tickMillis => "tick-ms"
  | .timeoutSeconds => "timeout-secs"
  | .speed => "speed"

/-- the variable that stands in for an option -/
def variableName? : Setting → Option String
  | .file => none
  | .tickMillis => some "SCENARIO_TICK_MS"
  | .timeoutSeconds => some "SCENARIO_TIMEOUT_SECS"
  | .speed => some "SCENARIO_SPEED"

end Setting

/-- why a command line asks for nothing -/
inductive UsageError where
  | noCommand
  | unexpected (word : String)
  | missingValue (setting : Setting)
  | invalidValue (setting : Setting) (value : String)
  | repeated (setting : Setting)
  | missing (setting : Setting)
  deriving DecidableEq

namespace UsageError

def message : UsageError → String
  | .noCommand => "a command is required"
  | .unexpected word => "unexpected argument '" ++ word ++ "' found"
  | .missingValue setting => "a value is required for '--" ++ setting.word ++ "'"
  | .invalidValue setting value => "invalid value '" ++ value ++ "' for '--" ++ setting.word ++ "'"
  | .repeated setting => "the argument '--" ++ setting.word ++ "' cannot be used multiple times"
  | .missing setting => "the required argument '--" ++ setting.word ++ "' was not provided"

end UsageError

/-! ## values -/

/-- the settings that have a value -/
structure Given where
  file : Option String := none
  tickMillis : Option Nat := none
  timeoutSeconds : Option Nat := none
  speed : Option Float := none

namespace Given

/-- a whole number of 64 bits; a plus sign may stand before it -/
def natural? (text : String) : Option Nat :=
  let digits := match text.toList with
    | '+' :: rest => rest
    | cs => cs
  if digits.isEmpty || digits.any (fun c => !c.isDigit) then none
  else (some (digitsValue digits)).filter (· ≤ 0xffffffffffffffff)

def has (given : Given) : Setting → Bool
  | .file => given.file.isSome
  | .tickMillis => given.tickMillis.isSome
  | .timeoutSeconds => given.timeoutSeconds.isSome
  | .speed => given.speed.isSome

/-- give a setting the value that a text stands for -/
def set? (given : Given) (value : String) : Setting → Option Given
  | .file => some { given with file := some value }
  | .tickMillis => (natural? value).map fun n => { given with tickMillis := some n }
  | .timeoutSeconds => (natural? value).map fun n => { given with timeoutSeconds := some n }
  | .speed => (Decimal.readFloat? value.toList).map fun x => { given with speed := some x }

/-- a value for a setting that has none -/
def put (given : Given) (setting : Setting) (value : String) : Except UsageError Given :=
  if given.has setting then .error (.repeated setting)
  else
    match given.set? value setting with
    | some given => .ok given
    | none => .error (.invalidValue setting value)

/-! ## words -/

/-- what a word of the command line is -/
inductive Word where
  | help
  | finish
  | named (setting : Setting)
  | valued (setting : Setting) (value : String)
  | other
  deriving DecidableEq

/-- the long form of an option: its name, with an equals sign and a value or alone -/
def longWord (verb : Verb) (name : List Char) : Word :=
  let head := String.ofList (name.takeWhile (· ≠ '='))
  match verb.settings.find? (·.word == head), name.dropWhile (· ≠ '=') with
  | some setting, [] => .named setting
  | some setting, _ :: value => .valued setting (String.ofList value)
  | none, [] => if head = "help" then .help else .other
  | none, _ => .other

/-- the short form of an option: one letter, its value behind it or in the next word -/
def shortWord : List Char → Word
  | ['f'] => .named .file
  | 'f' :: '=' :: value => .valued .file (String.ofList value)
  | 'f' :: value => .valued .file (String.ofList value)
  | 'h' :: _ => .help
  | _ => .other

def classify (verb : Verb) (word : String) : Word :=
  match word.toList with
  | ['-', '-'] => .finish
  | '-' :: '-' :: name => longWord verb name
  | '-' :: letters => shortWord letters
  | _ => .other

/-- can a word be the value of the option before it? -/
def isValue (word : String) : Bool := word.toList.head? ≠ some '-' || word = "-"

/-- the options of a command in order; nothing if they ask for help before anything is wrong -/
def read (verb : Verb) (given : Given) : List String → Except UsageError (Option Given)
  | [] => .ok (some given)
  | word :: rest =>
    match classify verb word with
    | .help => .ok none
    | .finish =>
      match rest with
      | [] => .ok (some given)
      | next :: _ => .error (.unexpected next)
    | .named setting =>
      match rest with
      | [] => .error (.missingValue setting)
      | value :: rest =>
        if isValue value then
          match given.put setting value with
          | .ok given => read verb given rest
          | .error error => .error error
        else .error (.missingValue setting)
    | .valued setting value =>
      match given.put setting value with
      | .ok given => read verb given rest
      | .error error => .error error
    | .other => .error (.unexpected word)

/-- the value of a variable for every setting that has none -/
def fill (env : Environment) (given : Given) : List Setting → Except UsageError Given
  | [] => .ok given
  | setting :: rest =>
    if given.has setting then fill env given rest
    else
      match setting.variableName?.bind env.value? with
      | none => fill env given rest
      | some value =>
        match given.put setting value with
        | .ok given => fill env given rest
        | .error error => .error error

/-- the pace of a run, with the defaults for what is not given -/
def pace (given : Given) : Pace :=
  let usual : Pace := {}
  { tickMillis := given.tickMillis.getD usual.tickMillis
    timeoutSeconds := given.timeoutSeconds.getD usual.timeoutSeconds
    speed := given.speed.getD usual.speed }

end Given

/-! ## requests -/

namespace Request

/-- the scenario that a request is about -/
def file? : Request → Option String
  | .run file _ | .check file => some file
  | .help | .version => none

/-- the request of a command whose options are known -/
def ofGiven? (verb : Verb) (given : Given) : Except UsageError Request :=
  match given.file with
  | none => .error (.missing .file)
  | some file =>
    match verb with
    | .run => .ok (.run file given.pace)
    | .check => .ok (.check file)

/-- the request of the words after a command -/
def ofOptions? (env : Environment) (verb : Verb) (words : List String) :
    Except UsageError Request :=
  match Given.read verb {} words with
  | .error error => .error error
  | .ok none => .ok .help
  | .ok (some given) =>
    match given.fill env verb.settings with
    | .error error => .error error
    | .ok given => ofGiven? verb given

/-- the request of the words after `help`: at most one command -/
def ofHelp? : List String → Except UsageError Request
  | [] => .ok .help
  | topic :: rest =>
    if (Verb.ofWord? topic).isSome || topic = "help" then
      match rest with
      | [] => .ok .help
      | word :: _ => .error (.unexpected word)
    else .error (.unexpected topic)

/-- what stands in place of a command -/
def ofFlag? (word : String) : Except UsageError Request :=
  match word.toList with
  | '-' :: 'h' :: _ => .ok .help
  | '-' :: 'V' :: _ => .ok .version
  | _ =>
    if word = "--help" then .ok .help
    else if word = "--version" then .ok .version
    else .error (.unexpected word)

/-- the request of a command line -/
def ofArguments? (env : Environment) : List String → Except UsageError Request
  | [] => .error .noCommand
  | word :: rest =>
    match Verb.ofWord? word with
    | some verb => ofOptions? env verb rest
    | none => if word = "help" then ofHelp? rest else ofFlag? word

end Request

end SignalScript
