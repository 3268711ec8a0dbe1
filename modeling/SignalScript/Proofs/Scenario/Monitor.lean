import SignalScript.Proofs.Scenario.Events
import SignalScript.Proofs.Scene.Predicate
import SignalScript.Simulation.Offline
import SignalScript.Simulation.Recorder

/-!
# A failure tree that only watches

A failure tree of built-in predicates moves its own cursors and nothing else. As long as it is
false, the run goes on as if the scenario had no failure tree.

* `Run.sights`           what can be seen of a run after each event;
* `Run.failureAnswers`   the answers of the failure tree at the ticks that evaluate it;
* `Run.Alongside`        a run with a failure tree that only watches, and the run without it;
* `Run.Alongside.tick`   one tick keeps them alongside each other;
* `Run.sights_watched`   the two runs look the same.
-/

namespace SignalScript

variable {π ρ S : Type}

namespace Run

/-! ## what can be seen of a run -/

/-- what can be seen of a run: its status, the commands that were sent in order, the states that the
intersections are in, and the simulator with its traffic lights -/
structure Sight (S : Type) where
  status : Status
  sent : List Command
  currents : List String
  simulator : S

def sight (state : Run π × World (Recorder S)) : Sight S :=
  ⟨state.1.status, state.2.simulator.sent, state.2.network.map Intersection.current,
    state.2.simulator.inner⟩

/-- the sights after each of the events -/
def sights (family : Condition π (World (Recorder S))) (sim : Simulator (Recorder S))
    (state : Run π × World (Recorder S)) : List (Event (Recorder S)) → List (Sight S)
  | [] => []
  | event :: events =>
    sight (after family sim state event) :: sights family sim (after family sim state event) events

/-- the answer of the failure tree, if the next update evaluates it -/
def failureAnswer? (family : Condition π (World S)) (run : Run π) (world : World S) :
    Option (Except EvaluationError Value) :=
  if run.status.isTerminal || !run.isConfigured || world.network.update = .failed then none
  else some (evaluate family run.failure world).answer

/-- the answers of the failure tree at the updates that evaluate it -/
def failureAnswers (family : Condition π (World S)) (sim : Simulator S)
    (state : Run π × World S) : List (Event S) → List (Except EvaluationError Value)
  | [] => []
  | .update :: events =>
    (failureAnswer? family state.1 state.2).toList ++
      failureAnswers family sim (after family sim state .update) events
  | .outside change :: events =>
    failureAnswers family sim (after family sim state (.outside change)) events

theorem failureAnswer?_of_ongoing {family : Condition π (World S)} {run : Run π} {world : World S}
    (hs : run.status.isTerminal = false) (he : run.errors = [])
    (hn : world.network.update ≠ .failed) :
    failureAnswer? family run world = some (evaluate family run.failure world).answer := by
  simp [failureAnswer?, hs, isConfigured, he, hn]

/-! ## with the failure tree and without it -/

/-- a run whose failure tree only watches, and the run of the same scenario without failure tree -/
structure Alongside (family : Condition π (World S)) (watched plain : Run π × World S) : Prop where
  success : watched.1.success = plain.1.success
  errors : watched.1.errors = plain.1.errors
  status : watched.1.status = plain.1.status
  scene : watched.2.scene = plain.2.scene
  watches : ∀ p ∈ watched.1.failure.leaves, Steady World.scene (Procedure.call family) p
  never : plain.1.failure = .bool false

namespace Alongside

variable {family : Condition π (World S)} {run plain : Run π} {world world' : World S}

/-- what the success tree decides, it decides in both runs -/
theorem tickSuccess (hblind : family.Blind) (h : Alongside family (run, world) (plain, world')) :
    (run.tickSuccess family world).1 = (plain.tickSuccess family world').1 ∧
      Alongside family (run.tickSuccess family world).2 (plain.tickSuccess family world').2 := by
  have t := evaluate_scene hblind run.success h.scene
  obtain ⟨hverdict, hrun, hscene⟩ := tickSuccess_scene family run world
  obtain ⟨hverdict', hplain, hscene'⟩ := tickSuccess_scene family plain world'
  have hsuccess : run.success = plain.success := h.success
  rw [← hsuccess] at hverdict' hplain hscene'
  refine ⟨?_, ?_, ?_, ?_, ?_, ?_, ?_⟩
  · rw [hverdict, hverdict', t.answer]
  · rw [hrun, hplain, t.after]
  · rw [hrun, hplain]
    exact h.errors
  · rw [hrun, hplain]
    exact h.status
  · rw [hscene, hscene', t.world]
  · rw [hrun]
    exact h.watches
  · rw [hplain]
    exact h.never

/-- **One tick keeps the runs alongside each other**, when the failure tree is false. -/
theorem tick (hblind : family.Blind) (h : Alongside family (run, world) (plain, world'))
    (hs : run.status.isTerminal = false)
    (hfalse : ∀ answer, failureAnswer? family run world = some answer →
      answer = .ok (.bool false)) :
    (run.tick family world).1 = (plain.tick family world').1 ∧
      Alongside family (run.tick family world).2 (plain.tick family world').2 := by
  have herrors : run.errors = plain.errors := h.errors
  have hplain : plain.failure = .bool false := h.never
  have hnetwork : world.network = world'.network := congrArg Scene.network h.scene
  cases he : run.errors with
  | cons first others =>
    rw [tick_of_not_configured he, tick_of_not_configured (herrors ▸ he)]
    exact ⟨rfl, h.success, h.errors, h.status, h.scene, h.watches, h.never⟩
  | nil =>
    by_cases hn : world.network.update = .failed
    · rw [tick_of_network_failed he hn, tick_of_network_failed (herrors ▸ he) (hnetwork ▸ hn)]
      exact ⟨rfl, h⟩
    · -- both failure trees are asked, both say no, and neither touches the scene
      have hwatched := hfalse _ (failureAnswer?_of_ongoing hs he hn)
      have hnever : (evaluate family plain.failure world').answer = .ok (.bool false) := by
        rw [hplain]
        rfl
      have hquiet := Expr.evaluate_steady h.watches (rfl : world.scene = world.scene)
      rw [tick_of_not_failing he hn hwatched rfl,
        tick_of_not_failing (herrors ▸ he) (hnetwork ▸ hn) hnever rfl]
      apply Alongside.tickSuccess hblind
      refine ⟨h.success, h.errors, h.status, ?_, hquiet.after.2, ?_⟩
      · rw [World.scene_note, World.scene_note, hplain]
        exact hquiet.world.trans h.scene
      · show (evaluate family plain.failure world').after = _
        rw [hplain]
        rfl

/-- and so does every event -/
theorem after (hblind : family.Blind) (sim : Simulator S)
    (h : Alongside family (run, world) (plain, world')) {event : Event S}
    (hfalse : event = .update → ∀ answer, failureAnswer? family run world = some answer →
      answer = .ok (.bool false)) :
    Alongside family (after family sim (run, world) event)
      (after family sim (plain, world') event) := by
  have hstatus : run.status = plain.status := h.status
  cases event with
  | outside change =>
    refine ⟨h.success, h.errors, h.status, ?_, h.watches, h.never⟩
    show change world.scene = change world'.scene
    exact congrArg change h.scene
  | update =>
    show Alongside family (run.update family sim world) (plain.update family sim world')
    cases hs : run.status.isTerminal with
    | true =>
      rw [update_of_terminal hs, update_of_terminal (hstatus ▸ hs)]
      exact h
    | false =>
      obtain ⟨hverdict, ht⟩ := h.tick hblind hs (hfalse rfl)
      rw [update_of_ongoing hs, update_of_ongoing (hstatus ▸ hs)]
      refine ⟨ht.success, ht.errors, hverdict, ?_, ht.watches, ht.never⟩
      rw [scene_verdictLine, scene_verdictLine]
      exact ht.scene

/-- runs alongside each other look the same -/
theorem sight_eq {family : Condition π (World (Recorder S))}
    {watched plain : Run π × World (Recorder S)} (h : Alongside family watched plain) :
    sight watched = sight plain := by
  have hsimulator : watched.2.simulator = plain.2.simulator := congrArg Scene.simulator h.scene
  have hnetwork : watched.2.network = plain.2.network := congrArg Scene.network h.scene
  rw [sight, sight, h.status, hsimulator, hnetwork]

/-- and go on looking the same -/
theorem sights_eq {family : Condition π (World (Recorder S))} (hblind : family.Blind)
    (sim : Simulator (Recorder S)) (events : List (Event (Recorder S))) :
    ∀ {watched plain : Run π × World (Recorder S)}, Alongside family watched plain →
      (∀ answer ∈ failureAnswers family sim watched events, answer = .ok (.bool false)) →
      sights family sim watched events = sights family sim plain events := by
  induction events with
  | nil =>
    intro watched plain _ _
    rfl
  | cons event events ih =>
    intro watched plain h hfalse
    have hnow : event = .update → ∀ answer,
        failureAnswer? family watched.1 watched.2 = some answer → answer = .ok (.bool false) := by
      rintro rfl answer ha
      exact hfalse answer (List.mem_append_left _ (Option.mem_toList.2 ha))
    have hlater : ∀ answer ∈ failureAnswers family sim (Run.after family sim watched event) events,
        answer = .ok (.bool false) := by
      intro answer ha
      cases event with
      | update => exact hfalse answer (List.mem_append_right _ ha)
      | outside change => exact hfalse answer ha
    have hafter := h.after hblind sim hnow
    rw [sights, sights, hafter.sight_eq, ih hafter hlater]

end Alongside

/-! ## whole runs -/

section
variable (sim : Simulator S) (refuses : Command → Bool) (other : Condition ρ (World (Recorder S)))

/-- the built-in conditions on a simulator whose commands are recorded, and others beside them -/
abbrev conditions : Condition (Builtin ⊕ ρ) (World (Recorder S)) :=
  (Builtin.condition (sim.recorded refuses)).sum other

variable {registry : Registry (Builtin ⊕ ρ)} {script : Script} {stage : Stage (Recorder S)}
  {run : Run (Builtin ⊕ ρ)} {world : World (Recorder S)}

/-- **A failure tree that only watches does not disturb the run.** Let the failure tree be read
without errors, from built-in predicates only, and let it be false at every update that evaluates
it, whatever happens to the scene in between. Then the same scenario without its failure tree has
the same status, the same commands in the same order, the same states of the intersections and the
same simulator after every event. -/
theorem sights_watched (hother : other.Blind)
    (hstart : start (conditions sim refuses other) registry script stage = (.ok run, world))
    (hconfigured : run.failure.errors = [])
    (hroles : ∀ p ∈ run.failure.leaves, p.role = .predicate)
    (hbuiltin : ∀ p ∈ run.failure.leaves, p.condition?.all Sum.isLeft = true)
    (events : List (Event (Recorder S)))
    (hfalse : ∀ answer ∈ failureAnswers (conditions sim refuses other) (sim.recorded refuses)
      (run, world) events, answer = .ok (.bool false)) :
    ∃ plain world',
      start (conditions sim refuses other) registry { script with failure := none } stage =
        (.ok plain, world') ∧
      sights (conditions sim refuses other) (sim.recorded refuses) (run, world) events =
        sights (conditions sim refuses other) (sim.recorded refuses) (plain, world') events := by
  obtain ⟨hs, hf, herrors, hstatus, hscene⟩ := read_of_start hstart
  have hwatches : ∀ p ∈ run.failure.leaves,
      Steady World.scene (Procedure.call (conditions sim refuses other)) p := by
    cases hnode : script.failure with
    | none =>
      rw [hnode] at hf
      rw [← Except.ok.inj hf]
      exact fun p hp => nomatch hp
    | some node =>
      rw [hnode] at hf
      apply Expr.steady_of_predicates hf hroles
      intro p hp c hc
      have hleft := hbuiltin p hp
      rw [Procedure.condition?, hc] at hleft
      obtain ⟨b, rfl⟩ := Sum.isLeft_iff.1 hleft
      exact (Builtin.quiet (sim.recorded refuses) b).inl other
  obtain ⟨world', hplain, hscene'⟩ := start_of_read { script with failure := none }
    stage hs rfl
  refine ⟨_, world', hplain, ?_⟩
  refine Alongside.sights_eq ((Builtin.blind _).sum hother) _ events ?_ hfalse
  refine ⟨rfl, ?_, hstatus, hscene.trans hscene'.symm, hwatches, rfl⟩
  rw [herrors, hconfigured]
  rfl

end

/-! ## a scenario with a watching failure tree -/

/-- one intersection, whose light 7 turns green at once; the scenario would fail if it were red -/
def stayGreen : Script where
  intersections := [.mapping [(.text "TrafficLightId", .sequence [.number (.int 7)]),
    (.text "Control", .sequence [
      .mapping [(.text "StateName", .text "Green"), (.text "Color", .text "Green")]])]]
  success := .mapping [(.text "Sequential", .sequence [
    .mapping [(.text "Type", .text "TrafficLightState"),
      (.text "Params", .mapping [(.text "TrafficLightId", .number (.int 7)),
        (.text "StateName", .text "Green")])],
    .mapping [(.text "Type", .text "AlwaysFalse")]])]
  failure := some Expr.waitForRed

/-- its run before the first update -/
def stayingGreen : Run (Builtin ⊕ Unit) where
  success := .sequential [] [
    .leaf ⟨.action, "TrafficLightState",
      .ready (.inl (.lightState ⟨"TrafficLightState", .change, 7, "Green"⟩))⟩,
    .leaf ⟨.predicate, "AlwaysFalse", .ready (.inl (.constant ⟨false, "AlwaysFalse"⟩))⟩]
  failure := .sequential [] [
    .leaf ⟨.predicate, "AlwaysTrue", .ready (.inl (.constant ⟨true, "AlwaysTrue"⟩))⟩,
    .leaf ⟨.predicate, "TrafficLightState",
      .ready (.inl (.lightState ⟨"TrafficLightState", .check, 7, "Red"⟩))⟩]
  errors := []
  status := .ongoing

/-- a condition beside the built-in ones; it is always true -/
def bare : Condition Unit (World S) where
  typeName _ := "Bare"
  name _ := "Bare"
  configure _ c := (.ok (), c)
  update c world := ⟨true, c, world⟩

theorem blind_bare : (bare : Condition Unit (World S)).Blind := fun _ _ _ hw => ⟨rfl, rfl, hw⟩

/-- the built-in conditions and the one beside them, under their names -/
def everyone : Registry (Builtin ⊕ Unit) :=
  (Registry.builtin.map Sum.inl).register "BareCondition" (.inr ())

theorem outline_stayGreen :
    stayGreen.success.outline = .ok (.sequential [] [
      .leaf (.mapping [(.text "Type", .text "TrafficLightState"),
        (.text "Params", .mapping [(.text "TrafficLightId", .number (.int 7)),
          (.text "StateName", .text "Green")])]),
      .leaf (.mapping [(.text "Type", .text "AlwaysFalse")])]) := by
  unfold stayGreen
  rw [Node.outline_of_sequential rfl, Node.outlineList_sequence,
    Node.outlineItems_cons (Node.outline_of_procedure rfl)
      (Node.outlineItems_cons (Node.outline_of_procedure rfl) Node.outlineItems_nil)]
  rfl

section
variable (sim : Simulator S) (refuses : Command → Bool)

theorem read_stayGreen :
    Expr.read (conditions sim refuses bare) everyone stayGreen.success =
      .ok stayingGreen.success := by
  rw [Expr.read, outline_stayGreen]
  rfl

theorem readFailure_stayGreen :
    readFailure (conditions sim refuses bare) everyone stayGreen.failure =
      .ok stayingGreen.failure := by
  show Expr.read _ _ Expr.waitForRed = _
  rw [Expr.read, Expr.outline_waitForRed]
  rfl

end

/-- the light 7 never turns red, and nobody misses the failure tree -/
theorem sights_watched_stayGreen :
    let family := conditions Offline.simulator (fun _ => false) bare
    let sim := Offline.simulator.recorded fun _ => false
    let stage : Stage (Recorder Offline) := ⟨⟨Offline.start 0.0, []⟩, #[]⟩
    let events : List (Event (Recorder Offline)) := [.update, .outside id, .update]
    ∃ world plain world',
      start family everyone stayGreen stage = (.ok stayingGreen, world) ∧
      failureAnswers family sim (stayingGreen, world) events =
        [.ok (.bool false), .ok (.bool false)] ∧
      start family everyone { stayGreen with failure := none } stage = (.ok plain, world') ∧
      sights family sim (stayingGreen, world) events =
        sights family sim (plain, world') events := by
  intro family sim stage events
  obtain ⟨⟨⟨simulator, journal⟩, network⟩, hstart, hscene⟩ := start_of_read _ stage
    (read_stayGreen Offline.simulator fun _ => false) (readFailure_stayGreen _ _)
  obtain ⟨rfl, rfl⟩ := Scene.mk.inj hscene
  have hanswers : failureAnswers family sim
      (stayingGreen, ⟨⟨stage.simulator, journal⟩, (Network.ofBlocks stayGreen.intersections).1⟩)
      events = [.ok (.bool false), .ok (.bool false)] := rfl
  have hfalse : ∀ answer ∈ failureAnswers family sim
      (stayingGreen, ⟨⟨stage.simulator, journal⟩, (Network.ofBlocks stayGreen.intersections).1⟩)
      events, answer = .ok (.bool false) := by
    rw [hanswers]
    simp
  obtain ⟨plain, world', hplain, hsights⟩ := sights_watched Offline.simulator (fun _ => false) bare
    blind_bare hstart rfl (by decide) (by decide) events hfalse
  exact ⟨_, plain, world', hstart, hanswers, hplain, hsights⟩

end Run

end SignalScript
