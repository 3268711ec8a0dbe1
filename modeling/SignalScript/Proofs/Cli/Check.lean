import SignalScript.Proofs.Cli.Run

/-!
# What `check` tells about `run`

The command `check` prepares a scenario as `run` does, only with another speed of the vehicle, and
the speed shows in nothing but the simulator. So both have the same trees and the same errors.

* `Node.faults`                 what is wrong with the procedures of a node, in reading order;
* `Script.faults`               what is wrong with the two trees of a script;
* `Script.blockFaults`          what is wrong with its intersections;
* `Outcome.prepare_at`          a scenario is prepared at every speed or at none;
* `Outcome.errors_of_prepare`   the errors of a prepared scenario are those of its script;
* `Outcome.check_predicts_run`  what the outcome of `check` says about every `run` of the file.
-/

namespace SignalScript

/-! ## what is wrong with a script -/

/-- what is wrong with the procedures of a node, in reading order -/
def Node.faults (node : Node) : List ConfigurationError :=
  node.procedures.filterMap fun leaf =>
    (Expr.loadLeaf Outcome.family Registry.builtin leaf).1.error?

namespace Script

/-- what is wrong with the two trees: first with the one of success, then with the one of failure -/
def faults (script : Script) : List ConfigurationError :=
  script.success.faults ++ script.failure.elim [] Node.faults

/-- what is wrong with the intersections, block by block -/
def blockFaults (script : Script) : List ConfigurationError :=
  script.intersections.flatMap fun block => (Intersection.ofNode block).1.errors

end Script

namespace Network

theorem addBlocks_fst (blocks : List Node) :
    ∀ (network : Network) (index : Nat), (network.addBlocks blocks index).1 =
      network ++ blocks.map fun block => (Intersection.ofNode block).1 := by
  induction blocks with
  | nil => exact fun network _ => (List.append_nil network).symm
  | cons block rest ih =>
    intro network index
    show ((network ++ [(Intersection.ofNode block).1]).addBlocks rest (index + 1)).1 = _
    rw [ih, List.map_cons, List.append_assoc, List.singleton_append]

theorem ofBlocks_fst (blocks : List Node) :
    (ofBlocks blocks).1 = blocks.map fun block => (Intersection.ofNode block).1 :=
  addBlocks_fst blocks [] 0

end Network

namespace Outcome

variable {files : Files} {file : String} {run : Run Builtin} {world : Bench}

theorem errors_of_read {node : Node} {tree : Expr (Procedure Builtin)}
    (h : Expr.read family Registry.builtin node = .ok tree) : tree.errors = node.faults := by
  rw [Expr.errors, Expr.leaves_of_read h, List.filterMap_map]
  rfl

theorem errors_of_readFailure {node : Option Node} {tree : Expr (Procedure Builtin)}
    (h : Run.readFailure family Registry.builtin node = .ok tree) :
    tree.errors = node.elim [] Node.faults := by
  cases node with
  | some node => exact errors_of_read h
  | none =>
    obtain rfl := Except.ok.inj h
    rfl

/-! ## preparing -/

/-- **A scenario is prepared at every speed or at none**, with the same trees and intersections. -/
theorem prepare_at {speed : Float} (h : prepare files file speed = .ok (run, world))
    (other : Float) :
    ∃ world', prepare files file other = .ok (run, world') ∧ world'.network = world.network := by
  obtain ⟨script, hfile, hstart⟩ := prepare_eq_ok_iff.mp h
  obtain ⟨hsuccess, hfailure, herrors, hstatus, hscene⟩ := Run.read_of_start hstart
  -- the speed is in the simulator alone, so the trees are read as before
  obtain ⟨world', hstart', hscene'⟩ :=
    Run.start_of_read script ⟨Offline.start other, #[]⟩ hsuccess hfailure
  have hrun : (⟨run.success, run.failure, run.success.errors ++ run.failure.errors, .ongoing⟩ :
      Run Builtin) = run := by
    rw [← herrors, ← hstatus]
  rw [hrun] at hstart'
  refine ⟨world', prepare_eq_ok_iff.mpr ⟨script, hfile, hstart'⟩, ?_⟩
  have hnetwork : world.network = (Network.ofBlocks script.intersections).1 :=
    congrArg Scene.network hscene
  have hnetwork' : world'.network = (Network.ofBlocks script.intersections).1 :=
    congrArg Scene.network hscene'
  rw [hnetwork, hnetwork']

theorem errors_of_prepare {speed : Float} (h : prepare files file speed = .ok (run, world)) :
    ∃ script, Script.ofFile? (files file) = .ok script ∧ run.errors = script.faults ∧
      errors run world = script.faults ++ script.blockFaults := by
  obtain ⟨script, hfile, hstart⟩ := prepare_eq_ok_iff.mp h
  obtain ⟨hsuccess, hfailure, herrors, _, hscene⟩ := Run.read_of_start hstart
  have hnetwork : world.network = (Network.ofBlocks script.intersections).1 :=
    congrArg Scene.network hscene
  have htrees : run.errors = script.faults := by
    rw [herrors, errors_of_read hsuccess, errors_of_readFailure hfailure]
    rfl
  have hblocks : world.network.errors = script.blockFaults := by
    rw [hnetwork, Network.ofBlocks_fst, Network.errors, List.flatMap_map]
    rfl
  refine ⟨script, hfile, htrees, ?_⟩
  rw [errors, htrees, hblocks]

theorem ofCheck_of_prepare (h : prepare files file 0.0 = .ok (run, world)) :
    ofCheck files file =
      ⟨String.join ((lines run world).map (· ++ "\n")),
        match (errors run world).length with
        | 0 => .success
        | n => .failure (toString n ++ " configuration error(s) in " ++ file)⟩ :=
  of_prepared _ h

theorem exists_prepare_of_success (h : (ofCheck files file).ending = .success) :
    ∃ run world, prepare files file 0.0 = .ok (run, world) ∧ errors run world = [] := by
  rcases hprepare : prepare files file 0.0 with message | ⟨run, world⟩
  · unfold ofCheck at h
    rw [hprepare] at h
    exact nomatch h
  · refine ⟨run, world, rfl, ?_⟩
    rw [ofCheck_of_prepare hprepare] at h
    cases herrors : errors run world with
    | nil => rfl
    | cons first others => rw [herrors] at h; exact nomatch h

/-- **A scenario whose trees have no errors runs untroubled**, at every pace. -/
theorem untroubled_of_prepare {speed : Float} (h : prepare files file speed = .ok (run, world))
    (he : run.errors = []) (pace : Pace) (htick : 0 < pace.tickMillis) :
    let step := Duration.ofMillis pace.tickMillis
    let timeout := Duration.ofSecs pace.timeoutSeconds
    ∃ world' ticks final, prepare files file pace.speed = .ok (run, world') ∧
      Run.Loop family step timeout run world' ticks final ∧
      ofRun files file pace = ofVerdict file final.1 final.2 ∧
      Run.Untroubled family timeout run ticks final := by
  intro step timeout
  obtain ⟨world', hprepare, _⟩ := prepare_at h pace.speed
  obtain ⟨script, _, hstart⟩ := prepare_eq_ok_iff.mp hprepare
  obtain ⟨_, _, herrors, hongoing, _⟩ := Run.read_of_start hstart
  obtain ⟨hs, hf⟩ := List.append_eq_nil_iff.mp (herrors.symm.trans he)
  obtain ⟨ticks, hloop⟩ := Run.exists_loop_of_limit Builtin.keepsClock (inNanos_step_pos htick)
    run (clock_of_prepare hprepare) (Nat.le_refl (Run.limit step timeout))
  exact ⟨world', ticks, _, hprepare, hloop, ofRun_of_prepare htick hprepare rfl,
    hloop.untroubled hongoing he hs hf (Run.decides_of_start hstart)⟩

/-- **`check` predicts `run`.** If it ends well, then it has printed the text of the trees that any
run of the file has, no tick of any run meets an error, and a run that does not succeed has a
failure tree that is true or no time left. If it does not, for a scenario that can be prepared, then
it has printed exactly what is wrong with the success tree, with the failure tree and with the
intersections, in this order; and if nothing is wrong with the trees, then every tick of any run
evaluates them all the same. -/
theorem check_predicts_run (files : Files) (file : String) :
    ((ofCheck files file).ending = .success →
      ∃ run world, prepare files file 0.0 = .ok (run, world) ∧
        (ofCheck files file).output = String.join
          ((world.network.map (fun i => "Intersection " ++ bracketed i.ids) ++
            ["Success: " ++ run.success.line, "Failure: " ++ run.failure.line]).map (· ++ "\n")) ∧
        ∀ pace : Pace, 0 < pace.tickMillis → ∃ world' ticks final,
          prepare files file pace.speed = .ok (run, world') ∧
          Run.Loop family (.ofMillis pace.tickMillis) (.ofSecs pace.timeoutSeconds) run world'
            ticks final ∧
          ofRun files file pace = ofVerdict file final.1 final.2 ∧
          Run.Untroubled family (.ofSecs pace.timeoutSeconds) run ticks final) ∧
    (∀ run world, prepare files file 0.0 = .ok (run, world) →
      (ofCheck files file).ending ≠ .success →
      ∃ script, Script.ofFile? (files file) = .ok script ∧
        (ofCheck files file).output = String.join
          ((world.network.map (fun i => "Intersection " ++ bracketed i.ids) ++
            ["Success: " ++ run.success.line, "Failure: " ++ run.failure.line] ++
            (script.faults ++ script.blockFaults).map fun error =>
              "error: " ++ error.message).map (· ++ "\n")) ∧
        (ofCheck files file).ending = .failure
          (toString (script.faults ++ script.blockFaults).length ++
            " configuration error(s) in " ++ file) ∧
        (script.faults = [] → ∀ pace : Pace, 0 < pace.tickMillis → ∃ world' ticks final,
          prepare files file pace.speed = .ok (run, world') ∧
          Run.Loop family (.ofMillis pace.tickMillis) (.ofSecs pace.timeoutSeconds) run world'
            ticks final ∧
          ofRun files file pace = ofVerdict file final.1 final.2 ∧
          Run.Untroubled family (.ofSecs pace.timeoutSeconds) run ticks final)) := by
  refine ⟨fun hsuccess => ?_, fun run world hprepare hfails => ?_⟩
  · obtain ⟨run, world, hprepare, herrors⟩ := exists_prepare_of_success hsuccess
    have he : run.errors = [] := (List.append_eq_nil_iff.mp herrors).1
    refine ⟨run, world, hprepare, ?_, untroubled_of_prepare hprepare he⟩
    rw [ofCheck_of_prepare hprepare, lines, herrors, List.map_nil, List.append_nil]
  · obtain ⟨script, hfile, htrees, herrors⟩ := errors_of_prepare hprepare
    refine ⟨script, hfile, ?_, ?_, fun hnone => untroubled_of_prepare hprepare (htrees.trans hnone)⟩
    · rw [ofCheck_of_prepare hprepare, lines, herrors]
    · rw [ofCheck_of_prepare hprepare, herrors] at hfails ⊢
      cases hlength : (script.faults ++ script.blockFaults).length with
      | zero => rw [hlength] at hfails; exact absurd rfl hfails
      | succ n => rfl

/-- a directory with one file: a scenario with an intersection that has no lights -/
def unlit : Files := fun name =>
  if name = "unlit.yaml" then
    some ("Intersection: [\x7bControl: [\x7bStateName: Go\x7d]\x7d]\n" ++
      "Story: \x7bEndCondition: \x7bSuccess: \x7bType: AlwaysFalse\x7d\x7d\x7d\n").toUTF8
  else none

/-- nothing is wrong with the trees of it, so it runs like the scenario that never succeeds -/
theorem check_predicts_run_unlit :
    let pace : Pace := ⟨400, 1, 10.0⟩
    (ofCheck endless "endless.yaml").ending = .success ∧
    (ofCheck unlit "unlit.yaml").ending = .failure "1 configuration error(s) in unlit.yaml" ∧
    (∃ run ticks final, Run.Untroubled family (.ofSecs 1) run ticks final ∧
      ofRun endless "endless.yaml" pace = ofVerdict "endless.yaml" final.1 final.2) ∧
    (∃ run ticks final, Run.Untroubled family (.ofSecs 1) run ticks final ∧
      ofRun unlit "unlit.yaml" pace = ofVerdict "unlit.yaml" final.1 final.2) := by
  intro pace
  have hgood : (ofCheck endless "endless.yaml").ending = .success := by decide +kernel
  obtain ⟨hprepared, hfaults, hbad⟩ : (prepare unlit "unlit.yaml" 0.0).isOk = true ∧
      ((Script.ofFile? (unlit "unlit.yaml")).toOption.map fun script =>
        script.faults.isEmpty) = some true ∧
      (ofCheck unlit "unlit.yaml").ending =
        .failure "1 configuration error(s) in unlit.yaml" := by decide +kernel
  refine ⟨hgood, hbad, ?_, ?_⟩
  · obtain ⟨run, _, _, _, hruns⟩ := (check_predicts_run endless "endless.yaml").1 hgood
    obtain ⟨_, ticks, final, _, _, hrun, huntroubled⟩ := hruns pace (by decide)
    exact ⟨run, ticks, final, huntroubled, hrun⟩
  · cases hprepare : prepare unlit "unlit.yaml" 0.0 with
    | error message =>
      rw [hprepare] at hprepared
      exact nomatch hprepared
    | ok prepared =>
      obtain ⟨script, hfile, _, _, hruns⟩ := (check_predicts_run unlit "unlit.yaml").2
        prepared.1 prepared.2 hprepare (by rw [hbad]; exact nofun)
      rw [hfile] at hfaults
      have hnone : script.faults = [] := List.isEmpty_iff.mp (Option.some.inj hfaults)
      obtain ⟨_, ticks, final, _, _, hrun, huntroubled⟩ := hruns hnone pace (by decide)
      exact ⟨prepared.1, ticks, final, huntroubled, hrun⟩

end Outcome

end SignalScript
