import SignalScript.Proofs.Expr.Configured
import SignalScript.Proofs.Scene.Frame

/-!
# Who answers for a light

Intersections are added behind one another, and what is done later changes nothing about them but
their current states. So a light is looked up among the intersections in the order in which they
were added, and the first that controls it answers for it ever after.

* `Network.roster`              the intersections without their current states;
* `Network.changeTo?_eq_set`    a change is made at the place that the look-up finds, and only there;
* `World.join`                  an intersection is added;
* `Condition.KeepsRoster`       conditions that at most add intersections, such as the built-in ones;
* `Move`                        an intersection is added, a state is changed, a tree is evaluated;
* `Move.roster_runAll`          after any moves the roster has grown by the intersections added;
* `Move.lookups_stable`         what look-ups, changes and additions do after any moves.
-/

namespace SignalScript

variable {π S : Type}

/-! ## what does not change -/

/-- the intersection without its current state -/
def Intersection.fixed (i : Intersection) : Intersection := { i with current := blank }

namespace Network

/-- the intersections without their current states -/
def roster (network : Network) : Network := network.map Intersection.fixed

theorem roster_append (network others : Network) :
    roster (network ++ others) = network.roster ++ roster others := List.map_append

theorem roster_drop (n : Nat) (network : Network) :
    roster (network.drop n) = network.roster.drop n := List.map_drop

theorem length_roster (network : Network) : network.roster.length = network.length :=
  List.length_map _

theorem place?_roster (id : Nat) (network : Network) :
    network.roster.place? id = network.place? id := by
  rw [roster, place?, List.findIdx?_map]
  rfl

theorem find?_roster (id : Nat) (network : Network) :
    network.roster.find? id = (network.find? id).map Intersection.fixed := by
  rw [roster, find?, List.find?_map]
  rfl

theorem place?_eq_of_roster {network network' : Network} (h : network.roster = network'.roster)
    (id : Nat) : network.place? id = network'.place? id := by
  rw [← place?_roster, h, place?_roster]

theorem find?_eq_of_roster {network network' : Network} (h : network.roster = network'.roster)
    (id : Nat) :
    (network.find? id).map Intersection.fixed = (network'.find? id).map Intersection.fixed := by
  rw [← find?_roster, h, find?_roster]

theorem roster_enter (id : Nat) (name : String) (network : Network) :
    (network.enter id name).roster = network.roster := by
  induction network with
  | nil => rfl
  | cons i rest ih =>
    cases hi : i.controls id with
    | true =>
      rw [enter_cons_of_controls hi]
      rfl
    | false =>
      rw [enter_cons_of_not_controls hi]
      exact congrArg (i.fixed :: ·) ih

theorem roster_meet (network : Network) (demands : List Demand) :
    (network.meet demands).roster = network.roster := by
  induction demands generalizing network with
  | nil => rfl
  | cons demand demands ih => rw [meet_cons, ih, roster_enter]

/-- an intersection that comes later takes no light from those before it -/
theorem place?_of_prefix {id p : Nat} {network network' : Network}
    (h : network.roster <+: network'.roster) (hp : network.place? id = some p) :
    network'.place? id = some p := by
  obtain ⟨more, hmore⟩ := h
  have hfirst : network.roster.place? id = some p := (place?_roster id network).trans hp
  rw [← place?_roster, ← hmore]
  unfold place? at hfirst ⊢
  rw [List.findIdx?_append, hfirst]
  rfl

/-! ## changes -/

section
variable {id p : Nat} {i : Intersection} (sim : Simulator S) (name : String)

/-- **A change is made at the place of the light**: the intersection there is changed and put back,
and the others are left alone. -/
theorem changeTo?_eq_set {network : Network} (hp : network.place? id = some p)
    (hi : network[p]? = some i) (stage : Stage S) :
    network.changeTo? sim id name stage =
      some ((i.changeTo sim name stage).1, network.set p (i.changeTo sim name stage).2.1,
        (i.changeTo sim name stage).2.2) := by
  induction network generalizing p with
  | nil => exact nomatch hi
  | cons first rest ih =>
    cases hfirst : first.controls id with
    | true =>
      rw [place?_cons_of_controls hfirst] at hp
      obtain rfl := Option.some.inj hp
      obtain rfl := Option.some.inj hi
      rw [changeTo?_cons_of_controls hfirst]
      rfl
    | false =>
      rw [place?_cons_of_not_controls hfirst] at hp
      obtain ⟨q, hq, rfl⟩ := Option.map_eq_some_iff.mp hp
      rw [changeTo?_cons_of_not_controls hfirst, ih hq hi]
      rfl

theorem changeTo?_eq_none {network : Network} (hp : network.place? id = none) (stage : Stage S) :
    network.changeTo? sim id name stage = none := by
  induction network with
  | nil => rfl
  | cons first rest ih =>
    cases hfirst : first.controls id with
    | true =>
      rw [place?_cons_of_controls hfirst] at hp
      exact nomatch hp
    | false =>
      rw [place?_cons_of_not_controls hfirst] at hp
      rw [changeTo?_cons_of_not_controls hfirst, ih (Option.map_eq_none_iff.mp hp)]
      rfl

end

/-- the warning that a new intersection shares a light with an earlier one -/
def overlapWarning (id : Nat) : Record :=
  .warn ("Traffic light " ++ toString id ++
    " is already controlled by another intersection; lookups resolve to the first")

theorem overlapWarnings_eq {network added : Network} (h : network.roster = added.roster)
    (ids : List Nat) :
    network.overlapWarnings ids =
      (ids.filter fun id => added.any (·.controls id)).map overlapWarning := by
  have hcontrolled : (fun id => (network.find? id).isSome) =
      fun id => added.any (·.controls id) := by
    funext id
    rw [← Option.isSome_map (f := Intersection.fixed), find?_eq_of_roster h, Option.isSome_map,
      find?, List.isSome_find?]
  rw [overlapWarnings, hcontrolled]
  rfl

end Network

namespace World

/-- add an intersection; the lights that it shares with earlier ones are logged -/
def join (world : World S) (i : Intersection) : World S :=
  { world.noteAll (world.network.add i).2 with network := (world.network.add i).1 }

/-- an intersection is built from its block, and then it is added -/
theorem add_eq_join (world : World S) (block : Node) :
    world.add block =
      (world.noteAll (Intersection.ofNode block).2).join (Intersection.ofNode block).1 := by
  have hjournal : ∀ records : List Record,
      world.journal ++ ((Intersection.ofNode block).2 ++ records) =
        world.journal ++ (Intersection.ofNode block).2 ++ records := by
    intro records
    apply Array.toList_inj.mp
    simp
  simp only [add, join, noteAll, Stage.noteAll, hjournal]

section
variable {id p : Nat} {i : Intersection} (sim : Simulator S) (name : String) {world : World S}

theorem changeTo_eq_set (hp : world.network.place? id = some p)
    (hi : world.network[p]? = some i) :
    world.changeTo sim id name =
      ((i.changeTo sim name world.toStage).1,
        ⟨(i.changeTo sim name world.toStage).2.2,
          world.network.set p (i.changeTo sim name world.toStage).2.1⟩) := by
  rw [changeTo, changeTo?, Network.changeTo?_eq_set sim name hp hi]
  rfl

theorem changeTo_eq_note (hp : world.network.place? id = none) :
    world.changeTo sim id name =
      (false, world.note (.warn ("No intersection controls traffic light " ++ toString id))) := by
  rw [changeTo, changeTo?, Network.changeTo?_eq_none sim name hp]
  rfl

end

end World

/-! ## conditions -/

/-- the conditions look intersections up, change their states and perhaps add others behind them -/
def Condition.KeepsRoster (family : Condition π (World S)) : Prop :=
  ∀ c world, world.network.roster <+: (family.update c world).world.network.roster

theorem Builtin.roster_update (sim : Simulator S) (c : Builtin) (world : World S) :
    ((condition sim).update c world).world.network.roster = world.network.roster := by
  have hscene := update_changeAll sim c world
  rw [Scene.changeAll_eq] at hscene
  have hnetwork : ((condition sim).update c world).world.network =
      world.network.meet c.demand?.toList := congrArg Scene.network hscene
  rw [hnetwork, Network.roster_meet]

theorem Builtin.roster_evaluate (sim : Simulator S) (e : Expr (Procedure Builtin))
    (world : World S) :
    (e.evaluate (Procedure.call (condition sim)) world).world.network.roster =
      world.network.roster :=
  Expr.evaluate_invariant (fun w : World S => w.network.roster = world.network.roster)
    (fun c w hw => (roster_update sim c w).trans hw) e rfl

theorem Builtin.keepsRoster (sim : Simulator S) : (condition sim).KeepsRoster :=
  fun c world => (roster_update sim c world) ▸ List.prefix_refl _

theorem Expr.roster_evaluate {family : Condition π (World S)} (hfamily : family.KeepsRoster)
    (e : Expr (Procedure π)) (world : World S) :
    world.network.roster <+:
      (e.evaluate (Procedure.call family) world).world.network.roster :=
  evaluate_invariant (fun w : World S => world.network.roster <+: w.network.roster)
    (fun c w hw => hw.trans (hfamily c w)) e (List.prefix_refl _)

/-! ## moves -/

/-- what is done with the intersections: one is added, a state is asked for, a tree is evaluated -/
inductive Move (π : Type) where
  | add (i : Intersection)
  | change (light : Nat) (state : String)
  | evaluate (e : Expr (Procedure π))

namespace Move

variable (family : Condition π (World S)) (sim : Simulator S)

def run : Move π → World S → World S
  | add i, world => world.join i
  | change light state, world => (world.changeTo sim light state).2
  | evaluate e, world => (e.evaluate (Procedure.call family) world).world

/-- the intersection that is added, when this is what is done -/
def intersection? : Move π → Option Intersection
  | add i => some i
  | _ => none

/-- the intersections that a move adds; those that conditions add are last in the network -/
def added : Move π → World S → List Intersection
  | add i, _ => [i]
  | change _ _, _ => []
  | evaluate e, world =>
    (e.evaluate (Procedure.call family) world).world.network.drop world.network.length

def runAll (moves : List (Move π)) (world : World S) : World S :=
  moves.foldl (fun world move => move.run family sim world) world

def addedBy : List (Move π) → World S → List Intersection
  | [], _ => []
  | move :: rest, world => move.added family world ++ addedBy rest (move.run family sim world)

theorem runAll_append (first second : List (Move π)) (world : World S) :
    runAll family sim (first ++ second) world =
      runAll family sim second (runAll family sim first world) := List.foldl_append

variable {family}

/-- **One move** leaves the roster as it was, and the intersections that it adds come last. -/
theorem roster_run (hfamily : family.KeepsRoster) (move : Move π) (world : World S) :
    (move.run family sim world).network.roster =
      world.network.roster ++ Network.roster (move.added family world) := by
  cases move with
  | add i => exact Network.roster_append world.network [i]
  | change light state =>
    show (world.changeTo sim light state).2.network.roster = world.network.roster ++ []
    rw [World.changeTo_network, Network.roster_enter, List.append_nil]
  | evaluate e =>
    obtain ⟨more, hmore⟩ := Expr.roster_evaluate hfamily e world
    show (e.evaluate (Procedure.call family) world).world.network.roster =
      world.network.roster ++ Network.roster (List.drop world.network.length _)
    -- behind the old roster there is what the conditions have added
    rw [Network.roster_drop, ← hmore, ← Network.length_roster, List.drop_left]

/-- **After any moves** the roster is the one before, and behind it what they have added. -/
theorem roster_runAll (hfamily : family.KeepsRoster) (moves : List (Move π)) (world : World S) :
    (runAll family sim moves world).network.roster =
      world.network.roster ++ Network.roster (addedBy family sim moves world) := by
  induction moves generalizing world with
  | nil => exact (List.append_nil _).symm
  | cons move rest ih =>
    show (runAll family sim rest (move.run family sim world)).network.roster = _
    rw [ih, roster_run sim hfamily, List.append_assoc, addedBy, Network.roster_append]

/-- with the built-in conditions only the additions add intersections -/
theorem addedBy_builtin (moves : List (Move Builtin)) (world : World S) :
    addedBy (Builtin.condition sim) sim moves world = moves.filterMap intersection? := by
  induction moves generalizing world with
  | nil => rfl
  | cons move rest ih =>
    rw [addedBy, ih, filterMap_cons_toList]
    congr 1
    cases move with
    | add i => rfl
    | change light state => rfl
    | evaluate e =>
      have hlength := congrArg List.length (Builtin.roster_evaluate sim e world)
      rw [Network.length_roster, Network.length_roster] at hlength
      exact List.drop_eq_nil_of_le (Nat.le_of_eq hlength)

/-- **Look-ups are stable, and a change goes to one intersection.** Let a network be empty at first
and let any moves follow. Then a light resolves to the place of the intersection that was added
first among those that control it, and no moves that follow change this place. A change is the one
that the intersection at this place makes, its answer, its commands and its log; the current state
of this intersection changes and no other. A light that nobody controls is answered with false and
a warning, and neither the simulator nor the network changes. An addition logs one warning for each
id in the list of the new intersection that an earlier one controls, as often as it is listed. The
intersections added are those of the additions, as far as the conditions are built in. -/
theorem lookups_stable {family : Condition π (World S)} (hfamily : family.KeepsRoster)
    (sim : Simulator S) (stage : Stage S) (moves : List (Move π)) :
    let world := runAll family sim moves ⟨stage, []⟩
    let added := addedBy family sim moves ⟨stage, []⟩
    (∀ id,
      world.network.place? id = added.findIdx? (·.controls id) ∧
      (world.network.find? id).map Intersection.fixed =
        (added.find? (·.controls id)).map Intersection.fixed ∧
      ∀ p, world.network.place? id = some p → ∀ later,
        (runAll family sim (moves ++ later) ⟨stage, []⟩).network.place? id = some p) ∧
    (∀ id p, world.network.place? id = some p → ∃ i,
      world.network.find? id = some i ∧ world.network[p]? = some i ∧
      ∀ name, world.changeTo sim id name =
          ((i.changeTo sim name world.toStage).1,
            ⟨(i.changeTo sim name world.toStage).2.2,
              world.network.set p (i.changeTo sim name world.toStage).2.1⟩) ∧
        ∀ q, (world.changeTo sim id name).2.network[q]? =
          if q = p then some { i with current := name } else world.network[q]?) ∧
    (∀ id name, world.network.place? id = none →
      world.changeTo sim id name =
        (false,
          world.note (.warn ("No intersection controls traffic light " ++ toString id)))) ∧
    (∀ i, (world.join i).network = world.network ++ [i] ∧
      (world.join i).simulator = world.simulator ∧
      (world.join i).journal = world.journal ++
        (i.ids.filter fun id => added.any (·.controls id)).map Network.overlapWarning) ∧
    (∀ moves' world', addedBy (Builtin.condition sim) sim moves' world' =
      moves'.filterMap intersection?) := by
  intro world added
  have hroster : world.network.roster = Network.roster added :=
    roster_runAll sim hfamily moves ⟨stage, []⟩
  refine ⟨fun id => ⟨Network.place?_eq_of_roster hroster id, Network.find?_eq_of_roster hroster id,
    fun p hp later => ?_⟩, fun id p hp => ?_, fun id name hp => world.changeTo_eq_note sim name hp,
    fun i => ⟨rfl, rfl, ?_⟩, addedBy_builtin sim⟩
  · rw [runAll_append]
    refine Network.place?_of_prefix ?_ hp
    rw [roster_runAll sim hfamily later world]
    exact List.prefix_append _ _
  · obtain ⟨i, hi, _⟩ := Network.exists_of_place? hp
    have hfind : world.network.find? id = some i := by
      rw [Network.find?_eq_place?, hp]
      exact hi
    refine ⟨i, hfind, hi, fun name => ⟨world.changeTo_eq_set sim name hp hi, fun q => ?_⟩⟩
    rw [World.changeTo_network, Network.getElem?_enter, hp]
    by_cases hq : q = p
    · subst hq
      rw [hi, if_pos rfl, Option.map_some, if_pos rfl]
    · have hne : ¬some p = some q := fun h => hq (Option.some.inj h).symm
      simp only [hne, hq, if_false, Option.map_id']
  · show world.journal ++ world.network.overlapWarnings i.ids = _
    rw [Network.overlapWarnings_eq hroster]

/-- a group of lights without states -/
def group (ids : List Nat) : Intersection := ⟨ids, [], blank, []⟩

/-- two groups share the light 1, which stays with the first of them -/
theorem lookups_stable_sharedLight :
    let sim := Offline.simulator.recorded fun _ => false
    let family := Builtin.condition sim
    let stage : Stage (Recorder Offline) := ⟨⟨Offline.start 0.0, []⟩, #[]⟩
    let moves : List (Move Builtin) := [.add (group [1]), .change 1 "Go", .add (group [1, 5])]
    let world := runAll family sim moves ⟨stage, []⟩
    (∀ later, (runAll family sim (moves ++ later) ⟨stage, []⟩).network.place? 1 = some 0) ∧
    (world.changeTo sim 1 "Stop").2.network = [{ group [1] with current := "Stop" }, group [1, 5]] ∧
    (world.changeTo sim 9 "Stop").1 = false ∧
    (world.changeTo sim 9 "Stop").2.simulator.sent = world.simulator.sent ∧
    (world.join (group [5, 5, 7, 7])).journal =
      world.journal ++ [Network.overlapWarning 5, Network.overlapWarning 5] := by
  intro sim family stage moves world
  obtain ⟨hlookups, hchanges, hnobody, hadditions, hadded⟩ :=
    lookups_stable (Builtin.keepsRoster sim) sim stage moves
  have hsource : addedBy family sim moves ⟨stage, []⟩ = [group [1], group [1, 5]] :=
    hadded moves ⟨stage, []⟩
  have hfirst : world.network.place? 1 = some 0 := by
    rw [(hlookups 1).1, hsource]
    rfl
  have hnone : world.network.place? 9 = none := by
    rw [(hlookups 9).1, hsource]
    rfl
  refine ⟨(hlookups 1).2.2 0 hfirst, ?_, ?_, ?_, ?_⟩
  · obtain ⟨i, _, hi, hchange⟩ := hchanges 1 0 hfirst
    obtain rfl := Option.some.inj hi
    rw [(hchange "Stop").1]
    rfl
  · rw [hnobody 9 "Stop" hnone]
  · rw [hnobody 9 "Stop" hnone]
    rfl
  · rw [(hadditions (group [5, 5, 7, 7])).2.2, hsource]
    rfl

end Move

end SignalScript
