import Mathlib.Data.List.Induction
import SignalScript.Proofs.Scenario.Drive
import SignalScript.Proofs.Scene.Lights

/-!
# The offline simulator, step by step

Whatever is done with an offline simulator, its clock adds up the advances and nothing else, and a
light keeps the last colour and the last arrow it was given.

* `Offline.Step`             what can be done with an offline simulator;
* `Offline.inNanos_run`      the clock has moved by the sum of the advances;
* `Command.lastValue?`       the last colour, or the last arrow, that a light is given;
* `Command.shown?`           what a dark light shows after commands;
* `Offline.light?_run`       a light shows what the commands for it come down to;
* `Offline.exact_of_span`    the clock, the lights and the replies of a fresh simulator.
-/

namespace SignalScript

/-! ## what commands leave on a light -/

namespace Command

/-- the last value that a light is given as its colour or as its arrow -/
def lastValue? (aspect : Aspect) (id : Nat) (commands : List Command) : Option String :=
  (commands.filter fun c => c.aspect = aspect ∧ c.light = id).getLast?.map (·.value)

/-- what a dark light shows after commands: it stays dark if none is for it -/
def shown? (id : Nat) (commands : List Command) : Option Light :=
  if ∃ c ∈ commands, c.light = id then
    some ⟨(lastValue? .color id commands).getD blank, (lastValue? .arrow id commands).getD blank⟩
  else none

theorem lastValue?_concat (aspect : Aspect) (id : Nat) (commands : List Command)
    (command : Command) :
    lastValue? aspect id (commands ++ [command]) =
      if command.aspect = aspect ∧ command.light = id then some command.value
      else lastValue? aspect id commands := by
  rw [lastValue?, List.filter_append]
  by_cases h : command.aspect = aspect ∧ command.light = id
  · rw [if_pos h, List.filter_cons_of_pos (by simpa using h), List.filter_nil,
      List.getLast?_concat, Option.map_some]
  · rw [if_neg h, List.filter_cons_of_neg (by simpa using h), List.filter_nil, List.append_nil,
      lastValue?]

theorem lastValue?_eq_none {id : Nat} {commands : List Command}
    (h : ¬∃ c ∈ commands, c.light = id) (aspect : Aspect) :
    lastValue? aspect id commands = none := by
  rw [lastValue?, Option.map_eq_none_iff, List.getLast?_eq_none_iff, List.filter_eq_nil_iff]
  intro c hc hfor
  exact h ⟨c, hc, (of_decide_eq_true hfor).2⟩

theorem shown?_getD (id : Nat) (commands : List Command) :
    (shown? id commands).getD {} =
      ⟨(lastValue? .color id commands).getD blank, (lastValue? .arrow id commands).getD blank⟩ := by
  rw [shown?]
  split
  case isTrue => rfl
  case isFalse h => rw [lastValue?_eq_none h, lastValue?_eq_none h]; rfl

/-- one more command replaces one aspect of its light, and leaves the other lights alone -/
theorem shown?_concat (id : Nat) (commands : List Command) (command : Command) :
    shown? id (commands ++ [command]) =
      if command.light = id then
        some (((shown? id commands).getD {}).set command.aspect command.value)
      else shown? id commands := by
  by_cases h : command.light = id
  · have hsome : ∃ c ∈ commands ++ [command], c.light = id :=
      ⟨command, List.mem_append_right _ (List.mem_singleton_self _), h⟩
    rw [if_pos h, shown?_getD, shown?, if_pos hsome, lastValue?_concat, lastValue?_concat]
    cases ha : command.aspect <;> simp [h, Light.set]
  · have hiff : (∃ c ∈ commands ++ [command], c.light = id) ↔ ∃ c ∈ commands, c.light = id := by
      simp [or_and_right, exists_or, h]
    have hlast (aspect : Aspect) :
        lastValue? aspect id (commands ++ [command]) = lastValue? aspect id commands := by
      rw [lastValue?_concat, if_neg fun hfor => h hfor.2]
    rw [if_neg h, shown?, shown?, hlast, hlast, if_congr hiff rfl rfl]

theorem shown?_eq_none_iff {id : Nat} {commands : List Command} :
    shown? id commands = none ↔ ∀ c ∈ commands, c.light ≠ id := by
  rw [shown?]
  split
  case isTrue h =>
    obtain ⟨c, hc, hid⟩ := h
    exact ⟨fun hnone => (Option.some_ne_none _ hnone).elim, fun hnone => absurd hid (hnone c hc)⟩
  case isFalse h => exact ⟨fun _ c hc hid => h ⟨c, hc, hid⟩, fun _ => rfl⟩

theorem shown?_filter (id : Nat) (commands : List Command) :
    shown? id (commands.filter (·.light = id)) = shown? id commands := by
  induction commands using List.reverseRecOn with
  | nil => rfl
  | append_singleton commands command ih =>
    rw [List.filter_append, shown?_concat, ← ih]
    by_cases h : command.light = id
    · rw [if_pos h, List.filter_cons_of_pos (by simpa using h), List.filter_nil, shown?_concat,
        if_pos h]
    · rw [if_neg h, List.filter_cons_of_neg (by simpa using h), List.filter_nil, List.append_nil]

end Command

namespace Offline

/-! ## steps -/

/-- what can be done with an offline simulator -/
inductive Step
  | advance (dt : Duration)
  | setSpeed (speed : Float)
  | command (command : Command)

namespace Step

def perform (sim : Offline) : Step → Offline
  | advance dt => sim.advance dt
  | setSpeed speed => sim.setSpeed speed
  | command c => (simulator.command c sim).state

/-- by how many nanoseconds the step advances -/
def nanos : Step → Nat
  | advance dt => dt.inNanos
  | setSpeed _ | command _ => 0

def command? : Step → Option Command
  | command c => some c
  | _ => none

/-- the reply to a command; the other steps have none -/
def reply? (sim : Offline) : Step → Option Bool
  | command c => some (simulator.command c sim).accepted
  | _ => none

end Step

def run (steps : List Step) (sim : Offline) : Offline := steps.foldl Step.perform sim

/-- the nanoseconds of all advances -/
def span (steps : List Step) : Nat := (steps.map Step.nanos).sum

def commands (steps : List Step) : List Command := steps.filterMap Step.command?

def replies : List Step → Offline → List Bool
  | [], _ => []
  | step :: rest, sim => (step.reply? sim).toList ++ replies rest (step.perform sim)

theorem run_concat (steps : List Step) (step : Step) (sim : Offline) :
    sim.run (steps ++ [step]) = step.perform (sim.run steps) := by
  rw [run, List.foldl_append, run]
  rfl

/-! ## the clock -/

theorem inNanos_perform (step : Step) (sim : Offline) :
    (step.perform sim).clock.inNanos = sim.clock.inNanos + step.nanos := by
  cases step with
  | advance dt => rw [Step.perform, Step.nanos, advance, Duration.inNanos_add]
  | setSpeed | command => rw [Step.nanos, Nat.add_zero]; rfl

theorem inNanos_run (steps : List Step) (sim : Offline) :
    (sim.run steps).clock.inNanos = sim.clock.inNanos + span steps := by
  induction steps generalizing sim with
  | nil => rw [span, List.map_nil, List.sum_nil, Nat.add_zero]; rfl
  | cons step rest ih =>
    have hspan : span (step :: rest) = step.nanos + span rest := by
      rw [span, List.map_cons, List.sum_cons, span]
    calc (sim.run (step :: rest)).clock.inNanos
        = ((step.perform sim).run rest).clock.inNanos := rfl
      _ = sim.clock.inNanos + step.nanos + span rest := by rw [ih, inNanos_perform]
      _ = sim.clock.inNanos + span (step :: rest) := by rw [hspan, Nat.add_assoc]

theorem inNanos_run_start (steps : List Step) (speed : Float) :
    ((start speed).run steps).clock.inNanos = span steps := by
  have hzero : (start speed).clock = .zero := rfl
  rw [inNanos_run, hzero, Duration.inNanos_zero, Nat.zero_add]

theorem span_le_of_prefix {before steps : List Step} (h : before <+: steps) :
    span before ≤ span steps := by
  obtain ⟨after, rfl⟩ := h
  rw [span, span, List.map_append, List.sum_append]
  exact Nat.le_add_right _ _

/-! ## the lights -/

theorem light?_perform_step (step : Step) (sim : Offline) (id : Nat) :
    (step.perform sim).light? id =
      match step.command? with
      | some c =>
        if c.light = id then some (((sim.light? id).getD {}).set c.aspect c.value)
        else sim.light? id
      | none => sim.light? id := by
  cases step with
  | advance | setSpeed => rfl
  | command c =>
    show (sim.apply c).light? id = ite _ _ _
    by_cases h : c.light = id
    · subst h
      rw [if_pos rfl, light?_apply_self]
    · rw [if_neg h, light?_apply_ne (Ne.symm h)]

theorem light?_run (steps : List Step) (speed : Float) (id : Nat) :
    ((start speed).run steps).light? id = Command.shown? id (commands steps) := by
  induction steps using List.reverseRecOn with
  | nil => rfl
  | append_singleton steps step ih =>
    -- the last step adds at most one command to those before it
    have hcommands : commands (steps ++ [step]) = commands steps ++ step.command?.toList := by
      rw [commands, List.filterMap_append]
      cases step <;> rfl
    rw [run_concat, light?_perform_step, hcommands, ih]
    cases step.command? with
    | none => rw [Option.toList_none, List.append_nil]
    | some c => rw [Option.toList_some, Command.shown?_concat]

theorem eq_true_of_mem_replies {steps : List Step} {sim : Offline} {accepted : Bool}
    (h : accepted ∈ replies steps sim) : accepted = true := by
  induction steps generalizing sim with
  | nil => exact nomatch h
  | cons step rest ih =>
    obtain hfirst | hrest := List.mem_append.mp h
    · cases step with
      | command => exact List.mem_singleton.mp hfirst
      | advance | setSpeed => exact nomatch hfirst
    · exact ih hrest

/-- what steps do to a fresh simulator whose vehicle has a speed -/
structure Exact (speed : Float) (steps : List Step) : Prop where
  /-- no advance overflows the clock on the way -/
  fits : ∀ before, before <+: steps → ((start speed).run before).clock.Fits
  /-- the clock is the sum of the advances, to the nanosecond -/
  adds : let clock := ((start speed).run steps).clock
    clock.secs * 1000000000 + clock.nanos = span steps ∧ clock.nanos < 1000000000
  /-- in whatever order they come and however they are cut -/
  regroups : ∀ (other : List Step) (speed' : Float), span other = span steps →
    ((start speed').run other).clock = ((start speed).run steps).clock
  /-- a light is not there as long as no command names it -/
  dark : ∀ id, ((start speed).run steps).light? id = none ↔ ∀ c ∈ commands steps, c.light ≠ id
  /-- else it has the last colour and the last arrow that it was given -/
  shows : ∀ id light, ((start speed).run steps).light? id = some light →
    light.color = (Command.lastValue? .color id (commands steps)).getD blank ∧
    light.arrow = (Command.lastValue? .arrow id (commands steps)).getD blank
  /-- only the commands that name it count -/
  apart : ∀ (id : Nat) (other : List Step) (speed' : Float),
    (commands other).filter (·.light = id) = (commands steps).filter (·.light = id) →
    ((start speed').run other).light? id = ((start speed).run steps).light? id
  /-- every command is accepted -/
  accepts : ∀ accepted ∈ replies steps (start speed), accepted = true

/-- **An exact clock, and lights that keep what they were last given.** Any steps on a fresh
simulator do this, if the advances add up to a span of whole seconds below `2 ^ 64`. -/
theorem exact_of_span (speed : Float) {steps : List Step}
    (h : span steps < 2 ^ 64 * 1000000000) : Exact speed steps := by
  have hclock := inNanos_run_start steps speed
  constructor
  case fits =>
    intro before hbefore
    have hle := span_le_of_prefix hbefore
    rw [← inNanos_run_start before speed, Duration.inNanos] at hle
    rw [Duration.Fits]
    omega
  case adds => exact ⟨hclock, Duration.nanos_lt _⟩
  case regroups =>
    intro other speed' hspan
    apply Duration.ext_inNanos
    rw [hclock, inNanos_run_start, hspan]
  case dark =>
    intro id
    rw [light?_run, Command.shown?_eq_none_iff]
  case shows =>
    intro id light hlight
    have hshown := Command.shown?_getD id (commands steps)
    rw [← light?_run steps speed, hlight, Option.getD_some] at hshown
    exact ⟨congrArg Light.color hshown, congrArg Light.arrow hshown⟩
  case apart =>
    intro id other speed' hsame
    rw [light?_run, light?_run, ← Command.shown?_filter, hsame, Command.shown?_filter]
  case accepts => exact fun _ => eq_true_of_mem_replies

/-- Two advances that make up a second and a half, and a light whose arrow is set first. -/
theorem exact_of_span_carried :
    let steps : List Step := [.advance (.ofMillis 800), .command ⟨.arrow, 7, "Left"⟩, .setSpeed 0,
      .command ⟨.color, 8, "Red"⟩, .advance (.ofMillis 700), .command ⟨.color, 7, "Amber"⟩]
    span steps < 2 ^ 64 * 1000000000 ∧ Exact 10 steps ∧
      (∀ speed, ((start speed).run [.advance ⟨1, 500000000, by decide⟩]).clock =
        ((start 10).run steps).clock) ∧
      ((start 10).run steps).light? 7 = some ⟨"Amber", "Left"⟩ ∧
      ((start 10).run steps).light? 8 = some ⟨"Red", blank⟩ ∧
      ((start 10).run steps).light? 9 = none := by
  intro steps
  have hspan : span steps = 1500000000 := by decide
  have hfits : span steps < 2 ^ 64 * 1000000000 := by rw [hspan]; decide
  have hexact := exact_of_span 10 hfits
  refine ⟨hfits, hexact, fun speed => ?_, rfl, rfl, ?_⟩
  · exact hexact.regroups _ speed (by rw [hspan]; decide)
  · exact (hexact.dark 9).mpr (by decide)

end Offline

end SignalScript
