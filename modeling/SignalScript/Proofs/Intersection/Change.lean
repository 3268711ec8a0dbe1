import SignalScript.Proofs.Scene.Frame

/-!
# Entering a state

An intersection that enters a state commands each of its lights, also after a refusal. The answers
of the simulator decide on the answer of the intersection and on its warning, and on nothing else.

* `Simulator.Answers`          a simulator answers commands one after the other;
* `Stage.exists_answers`       all commands of a list are sent, whatever the answers are;
* `Intersection.state_cases`   the payload of a name is one of the script, or off;
* `Intersection.changeTo_every_light`  what is sent, answered and logged when a state is entered.
-/

namespace SignalScript

variable {S : Type}

/-! ## commands and their answers -/

namespace Simulator

/-- the simulator answers commands one after the other, each in the state that the last one left -/
inductive Answers (sim : Simulator S) : S → List (Command × Reply S) → S → Prop
  | done (s : S) : Answers sim s [] s
  | next {s last : S} {command : Command} {later : List (Command × Reply S)}
      (h : Answers sim (sim.command command s).state later last) :
      Answers sim s ((command, sim.command command s) :: later) last

end Simulator

namespace Stage

/-- **All commands of a list are sent and answered.** A refusal stops nothing: it only shows in the
answer, which is true if every command was accepted. -/
theorem exists_answers (sim : Simulator S) (commands : List Command) (stage : Stage S) :
    ∃ exchanges, sim.Answers stage.simulator exchanges (stage.sendAll sim commands).2.simulator ∧
      exchanges.map (·.1) = commands ∧
      (stage.sendAll sim commands).1 = exchanges.all (·.2.accepted) ∧
      (stage.sendAll sim commands).2.journal =
        stage.journal ++ exchanges.flatMap (·.2.log) := by
  induction commands generalizing stage with
  | nil => exact ⟨[], .done _, rfl, rfl, by simp [sendAll]⟩
  | cons command rest ih =>
    obtain ⟨later, hanswers, hcommands, haccepted, hjournal⟩ := ih (stage.send sim command).2
    have hstate : (stage.send sim command).2.simulator =
        (sim.command command stage.simulator).state := rfl
    have hlog : (stage.send sim command).2.journal =
        stage.journal ++ (sim.command command stage.simulator).log := rfl
    rw [hstate] at hanswers
    rw [hlog] at hjournal
    refine ⟨_, .next hanswers, ?_, ?_, ?_⟩
    · rw [List.map_cons, hcommands]
    · show ((stage.send sim command).1 && _) = _
      rw [haccepted, List.all_cons]
      rfl
    · show (sendAll sim rest (stage.send sim command).2).2.journal = _
      rw [hjournal, List.flatMap_cons]
      apply Array.toList_inj.mp
      simp

end Stage

/-! ## payloads -/

namespace Intersection

/-- the payload of a name is that of the script, or there is none of that name and all is off -/
theorem state_cases (name : String) (i : Intersection) :
    (i.state name ∈ i.states ∧ (i.state name).name = name) ∨
      ((∀ payload ∈ i.states, payload.name ≠ name) ∧ i.state name = Payload.blank) := by
  unfold state defined?
  cases hfound : i.states.find? (·.name == name) with
  | some payload =>
    have hname := List.find?_some hfound
    exact .inl ⟨List.mem_of_find?_eq_some hfound, by simpa using hname⟩
  | none =>
    have hnone := List.find?_eq_none.mp hfound
    exact .inr ⟨fun payload hmem => by simpa using hnone payload hmem, rfl⟩

theorem state_eq_blank {name : String} {i : Intersection}
    (h : ∀ payload ∈ i.states, payload.name ≠ name) : i.state name = Payload.blank := by
  obtain ⟨hmem, hname⟩ | ⟨_, hblank⟩ := i.state_cases name
  · exact absurd hname (h _ hmem)
  · exact hblank

/-! ## changes -/

/-- the warning that the simulator has refused a command -/
def refusal (i : Intersection) (name : String) : Record :=
  .warn ("Simulator rejected state '" ++ name ++ "' for " ++ bracketed i.ids)

/-- the warning, if there is one, is the last that is logged -/
theorem journal_changeTo (sim : Simulator S) (name : String) (i : Intersection) (stage : Stage S) :
    (i.changeTo sim name stage).2.2.journal =
      (Stage.sendAll sim (i.changeCommands name)
        (stage.note (.info (i.changeLine name)))).2.journal ++
        if (i.changeTo sim name stage).1 then [] else [i.refusal name] := by
  unfold changeTo
  generalize Stage.sendAll sim _ _ = sent
  obtain ⟨accepted, after⟩ := sent
  cases accepted with
  | true => simp
  | false => simp [Stage.note, refusal]

/-- **Entering a state commands every light.** Let the simulator be in any state and answer each
command as it likes. A change gives the colour and then the arrow of the payload to each id of the
list, in order and as often as it is listed. The payload is the one of the script under the name, or
off if there is none. Every one of the commands is answered, and the change is answered with true
exactly if all of them were accepted. The intersection is then in the state of that name, and stays
as it was in all else. It writes one line when it enters, and one warning at the end if a command
was refused; what stands in between is the simulator's. -/
theorem changeTo_every_light (sim : Simulator S) (name : String) (i : Intersection)
    (stage : Stage S) :
    let payload := i.state name
    let commands : List Command := i.ids.flatMap fun id =>
      [⟨.color, id, payload.color⟩, ⟨.arrow, id, payload.arrow⟩]
    let accepted := (i.changeTo sim name stage).1
    let after := (i.changeTo sim name stage).2.2
    ((∃ defined ∈ i.states, defined.name = name) → payload ∈ i.states ∧ payload.name = name) ∧
    ((∀ defined ∈ i.states, defined.name ≠ name) →
      payload.color = "Blank" ∧ payload.arrow = "Blank") ∧
    (i.changeTo sim name stage).2.1 = { i with current := name } ∧
    (∀ log, sim.Logs log → log after.simulator = log stage.simulator ++ commands) ∧
    ∃ exchanges, sim.Answers stage.simulator exchanges after.simulator ∧
      exchanges.map (·.1) = commands ∧
      (accepted = true ↔ ∀ exchange ∈ exchanges, exchange.2.accepted = true) ∧
      after.journal = stage.journal ++
        ([.info (i.changeLine name)] ++ exchanges.flatMap (·.2.log) ++
          if accepted then [] else [i.refusal name]) := by
  intro payload commands accepted after
  have hperform : after.simulator = (sim.perform commands stage.simulator).2 :=
    congrArg Prod.snd (i.changeTo_perform sim name stage)
  refine ⟨?_, fun hundefined => ?_, rfl, fun log hlog => ?_, ?_⟩
  · rintro ⟨defined, hmem, hname⟩
    obtain h | ⟨hundefined, _⟩ := i.state_cases name
    · exact h
    · exact absurd hname (hundefined defined hmem)
  · have hblank : payload = Payload.blank := state_eq_blank hundefined
    rw [hblank]
    exact ⟨rfl, rfl⟩
  · rw [hperform, hlog.perform]
  · obtain ⟨exchanges, hanswers, hcommands, haccepted, hjournal⟩ :=
      Stage.exists_answers sim (i.changeCommands name) (stage.note (.info (i.changeLine name)))
    have hsent := congrArg Prod.snd (Stage.sendAll_perform sim (i.changeCommands name)
      (stage.note (.info (i.changeLine name))))
    have hafter : after.simulator = _ := hperform.trans hsent.symm
    have hanswer : accepted = exchanges.all (·.2.accepted) := haccepted
    refine ⟨exchanges, hafter ▸ hanswers, hcommands, ?_, ?_⟩
    · rw [hanswer, List.all_eq_true]
    · show (i.changeTo sim name stage).2.2.journal = _
      rw [journal_changeTo, hjournal]
      apply Array.toList_inj.mp
      simp [Stage.note, accepted]

/-- Light 1 refuses its colour, and all the same its arrow and light 2 are commanded. -/
example :
    let sim := Offline.simulator.recorded fun c => c.light = 1 ∧ c.aspect = .color
    let i : Intersection := ⟨[1, 2], [], "Blank", []⟩
    let result := i.changeTo sim "Go" ⟨⟨Offline.start 0.0, []⟩, #[]⟩
    result.1 = false ∧ result.2.2.simulator.sent.map (·.light) = [1, 1, 2, 2] := ⟨rfl, rfl⟩

end Intersection

end SignalScript
