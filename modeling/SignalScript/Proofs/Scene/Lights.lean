import SignalScript.Proofs.Scene.ReadBack

/-!
# What the lights show

On the offline simulator a light keeps what it was last given. An intersection that is changed gives
its payload to each of its lights, so a light shows the payload of the last change among all the
intersections that control it.

* `Network.changes`          the changes that demands come down to;
* `Change.shown?`            what a light shows after changes;
* `Lit`                      a scene in which demands were met and the lights show it;
* `Lit.act`                  a built-in condition keeps the scene lit;
* `Network.Apart`            no light belongs to two intersections;
* `Lit.light?_of_apart`      without shared lights, a light shows the current state of its
                             intersection.
-/

namespace SignalScript

/-! ## lights -/

/-- what a light shows under a payload -/
def Payload.light (payload : Payload) : Light := ⟨payload.color, payload.arrow⟩

namespace Offline

theorem light?_apply_self (command : Command) (sim : Offline) :
    (sim.apply command).light? command.light =
      some (((sim.light? command.light).getD {}).set command.aspect command.value) :=
  lookup_updateLight_self command.light _ sim.lights

theorem light?_apply_ne {command : Command} {id : Nat} (h : id ≠ command.light) (sim : Offline) :
    (sim.apply command).light? id = sim.light? id :=
  lookup_updateLight_ne h _ sim.lights

/-- colour and arrow of a light are replaced together -/
theorem light?_commands (payload : Payload) (id other : Nat) (sim : Offline) :
    (simulator.perform (payload.commands id) sim).2.light? other =
      if other = id then some payload.light else sim.light? other := by
  show ((sim.apply ⟨.color, id, payload.color⟩).apply ⟨.arrow, id, payload.arrow⟩).light? other = _
  by_cases h : other = id
  · subst h
    rw [if_pos rfl]
    have harrow := light?_apply_self ⟨.arrow, other, payload.arrow⟩
      (sim.apply ⟨.color, other, payload.color⟩)
    have hcolor := light?_apply_self ⟨.color, other, payload.color⟩ sim
    rw [harrow, hcolor]
    rfl
  · rw [if_neg h, light?_apply_ne h, light?_apply_ne h]

/-- every light of the ids shows the payload, also if it is named twice; the others stay -/
theorem light?_perform (payload : Payload) (ids : List Nat) (id : Nat) (sim : Offline) :
    (simulator.perform (ids.flatMap payload.commands) sim).2.light? id =
      if ids.contains id then some payload.light else sim.light? id := by
  induction ids generalizing sim with
  | nil => rfl
  | cons first rest ih =>
    have hsplit : (simulator.perform ((first :: rest).flatMap payload.commands) sim).2 =
        (simulator.perform (rest.flatMap payload.commands)
          (simulator.perform (payload.commands first) sim).2).2 := rfl
    rw [hsplit, ih, light?_commands, List.contains_cons]
    by_cases hfirst : id = first
    · simp [hfirst]
    · simp [hfirst]

end Offline

/-- only a light state that is entered asks for anything -/
def Builtin.demand? : Builtin → Option Demand
  | .constant _ => none
  | .measurement _ => none
  | .lightState c => c.demand?

/-! ## changes -/

/-- an intersection, and the state that it is asked to enter -/
structure Change where
  intersection : Intersection
  state : String

namespace Change

/-- what every light of the intersection is given -/
def light (change : Change) : Light := (change.intersection.state change.state).light

/-- what a light shows after changes: the last one that reaches it counts -/
def shown? (id : Nat) (changes : List Change) : Option Light :=
  (changes.filter (·.intersection.controls id)).getLast?.map light

theorem shown?_concat (id : Nat) (changes : List Change) (change : Change) :
    shown? id (changes ++ [change]) =
      if change.intersection.controls id then some change.light else shown? id changes := by
  rw [shown?, List.filter_append]
  cases hid : change.intersection.controls id with
  | true =>
    have hreached : [change].filter (·.intersection.controls id) = [change] :=
      List.filter_cons_of_pos hid
    rw [hreached, List.getLast?_concat]
    rfl
  | false =>
    have hmissed : [change].filter (·.intersection.controls id) = [] :=
      List.filter_cons_of_neg (by simp [hid])
    rw [hmissed, List.append_nil]
    rfl

theorem shown?_eq_none_iff {id : Nat} {changes : List Change} :
    shown? id changes = none ↔ ∀ change ∈ changes, change.intersection.controls id = false := by
  rw [shown?, Option.map_eq_none_iff, List.getLast?_eq_none_iff, List.filter_eq_nil_iff]
  simp

end Change

namespace Network

/-- the change that a demand comes down to, if an intersection controls its light -/
def change? (network : Network) (demand : Demand) : Option Change :=
  (network.find? demand.light).map fun i => ⟨i, demand.state⟩

/-- the changes that demands come down to, in order -/
def changes (network : Network) (demands : List Demand) : List Change :=
  demands.filterMap network.change?

theorem changes_append (network : Network) (first second : List Demand) :
    network.changes (first ++ second) = network.changes first ++ network.changes second :=
  List.filterMap_append

theorem changes_singleton (network : Network) (demand : Demand) :
    network.changes [demand] = (network.change? demand).toList := by
  rw [changes, filterMap_cons_toList, List.filterMap_nil, List.append_nil]

theorem exists_find?_meet {network : Network} {id : Nat} {i : Intersection}
    (h : network.find? id = some i) (demands : List Demand) :
    ∃ name, (network.meet demands).find? id = some { i with current := name } := by
  rw [find?_eq_place?] at h
  obtain ⟨p, hp, hi⟩ := Option.bind_eq_some_iff.mp h
  rw [find?_eq_place?, place?_meet, hp, Option.bind_some, getElem?_meet, hi]
  exact ⟨_, rfl⟩

end Network

/-! ## lit scenes -/

/-- the demands were met by the network, and each light shows the last change that reached it -/
structure Lit (network : Network) (demands : List Demand) (scene : Scene Offline) : Prop where
  met : scene.network = network.meet demands
  lights : ∀ id, scene.simulator.light? id = Change.shown? id (network.changes demands)

namespace Lit

variable {network : Network} {demands : List Demand} {scene : Scene Offline}

/-- **One more demand**: it is met, and the lights of the intersection show it. -/
theorem changeTo (h : Lit network demands scene) (id : Nat) (name : String) :
    Lit network (demands ++ [⟨id, name⟩]) (scene.changeTo Offline.simulator id name).2 := by
  have hchanges : network.changes (demands ++ [⟨id, name⟩]) =
      network.changes demands ++ (network.change? ⟨id, name⟩).toList := by
    rw [Network.changes_append, Network.changes_singleton]
  have hmeet : network.meet (demands ++ [⟨id, name⟩]) = (network.meet demands).enter id name :=
    Network.meet_append network demands [⟨id, name⟩]
  cases hi : network.find? id with
  | none =>
    have hnowhere : scene.network.find? id = none := by
      rw [h.met]
      exact Network.find?_meet_none hi demands
    have hnone : network.change? ⟨id, name⟩ = none := by rw [Network.change?, hi]; rfl
    rw [hnone, Option.toList_none, List.append_nil] at hchanges
    rw [Scene.changeTo_of_none hnowhere]
    refine ⟨?_, fun other => ?_⟩
    · rw [hmeet, ← h.met, Network.enter_of_find?_none hnowhere]
    · rw [hchanges]
      exact h.lights other
  | some i =>
    -- the scene finds the same intersection, in whatever state it is by now
    obtain ⟨current, hfound⟩ := Network.exists_find?_meet hi demands
    rw [← h.met] at hfound
    have hsome : network.change? ⟨id, name⟩ = some ⟨i, name⟩ := by rw [Network.change?, hi]; rfl
    rw [hsome, Option.toList_some] at hchanges
    rw [Scene.changeTo_of_some hfound]
    refine ⟨?_, fun other => ?_⟩
    · rw [hmeet, ← h.met]
    · rw [hchanges, Change.shown?_concat, ← h.lights]
      exact Offline.light?_perform (i.state name) i.ids other scene.simulator

/-- a built-in condition asks for a state, or leaves the scene as it is -/
theorem act (h : Lit network demands scene) (c : Builtin) :
    Lit network (demands ++ c.demand?.toList) (c.act Offline.simulator scene).2 := by
  cases c with
  | constant c =>
    rw [Builtin.demand?, Option.toList_none, List.append_nil]
    exact h
  | measurement m =>
    rw [Builtin.demand?, Option.toList_none, List.append_nil]
    exact h
  | lightState c =>
    show Lit network (demands ++ c.demand?.toList) (c.act Offline.simulator scene).2
    cases hmode : c.mode with
    | change =>
      rw [LightState.demand?_of_change hmode, LightState.act, hmode]
      exact h.changeTo c.light c.state
    | check =>
      rw [LightState.demand?_of_check hmode, Option.toList_none, List.append_nil, LightState.act,
        hmode]
      exact h

end Lit

/-! ## networks without shared lights -/

namespace Network

/-- no light belongs to two intersections -/
def Apart (network : Network) : Prop := network.Pairwise fun i j => ∀ id ∈ i.ids, id ∉ j.ids

instance (network : Network) : Decidable network.Apart :=
  inferInstanceAs (Decidable (List.Pairwise _ _))

variable {network : Network} {id p : Nat} {i : Intersection}

/-- the only intersection that controls a light stands at its place -/
theorem Apart.place? (h : network.Apart) (hi : network[p]? = some i)
    (hid : i.controls id = true) : network.place? id = some p := by
  obtain ⟨hp, rfl⟩ := List.getElem?_eq_some_iff.mp hi
  cases hq : network.place? id with
  | none =>
    have hnone := List.findIdx?_eq_none_iff.mp hq _ (List.getElem_mem hp)
    rw [hid] at hnone
    exact nomatch hnone
  | some q =>
    obtain ⟨j, hj, hjd⟩ := exists_of_place? hq
    obtain ⟨hq', rfl⟩ := List.getElem?_eq_some_iff.mp hj
    have hmem : id ∈ network[p].ids := List.contains_iff_mem.mp hid
    have hmem' : id ∈ network[q].ids := List.contains_iff_mem.mp hjd
    have hapart := List.pairwise_iff_getElem.mp h
    -- two places would be two intersections with the light
    rcases Nat.lt_trichotomy p q with hlt | rfl | hlt
    · exact absurd hmem' (hapart p q hp hq' hlt id hmem)
    · rfl
    · exact absurd hmem (hapart q p hq' hp hlt id hmem')

theorem change?_of_place {demand : Demand} (hp : network.place? demand.light = some p)
    (hi : network[p]? = some i) : network.change? demand = some ⟨i, demand.state⟩ := by
  rw [change?, find?_eq_place?, hp, Option.bind_some, hi]
  rfl

theorem Apart.filter_change? (h : network.Apart) (hi : network[p]? = some i)
    (hid : i.controls id = true) (demand : Demand) :
    (network.change? demand).filter (·.intersection.controls id) =
      if network.place? demand.light = some p then some ⟨i, demand.state⟩ else none := by
  cases hq : network.place? demand.light with
  | none =>
    have hnone : network.change? demand = none := by
      rw [change?, place?_eq_none_iff.mp hq]
      rfl
    rw [hnone]
    rfl
  | some q =>
    obtain ⟨j, hj, _⟩ := exists_of_place? hq
    rw [change?_of_place hq hj]
    by_cases hqp : q = p
    · subst hqp
      obtain rfl := Option.some.inj (hj.symm.trans hi)
      rw [if_pos rfl, Option.filter_some, if_pos hid]
    · have hmissed : j.controls id ≠ true := by
        intro hjd
        have hplace := h.place? hj hjd
        rw [h.place? hi hid] at hplace
        exact hqp (Option.some.inj hplace).symm
      rw [if_neg (by simpa using hqp), Option.filter_some, if_neg hmissed]

/-- the changes that reach a light are those demanded at its place -/
theorem Apart.filter_changes (h : network.Apart) (hi : network[p]? = some i)
    (hid : i.controls id = true) (demands : List Demand) :
    (network.changes demands).filter (·.intersection.controls id) =
      (network.demandsAt p demands).map fun demand => ⟨i, demand.state⟩ := by
  -- both histories pick the same demands, one by one
  have hpoint : (fun demand => (network.change? demand).filter (·.intersection.controls id)) =
      fun demand =>
        if network.place? demand.light = some p then some (⟨i, demand.state⟩ : Change)
        else none := funext (h.filter_change? hi hid)
  rw [changes, List.filter_filterMap, hpoint, demandsAt, ← List.filterMap_eq_map',
    List.filterMap_filter]
  simp only [decide_eq_true_eq]

end Network

/-- **Without shared lights** every light of an intersection that was changed shows the payload of
the state that its intersection is in. -/
theorem Lit.light?_of_apart {network : Network} {demands : List Demand} {scene : Scene Offline}
    (h : Lit network demands scene) (hapart : network.Apart) {change : Change}
    (hchange : change ∈ network.changes demands) {id : Nat}
    (hid : change.intersection.controls id = true) :
    ∃ i, scene.network.find? id = some i ∧
      scene.simulator.light? id = some (i.state i.current).light := by
  obtain ⟨demand, hdemand, hsome⟩ := List.mem_filterMap.mp hchange
  obtain ⟨i, hfound, rfl⟩ := Option.map_eq_some_iff.mp hsome
  rw [Network.find?_eq_place?] at hfound
  obtain ⟨p, hp, hi⟩ := Option.bind_eq_some_iff.mp hfound
  have hmem : demand ∈ network.demandsAt p demands := List.mem_filter.mpr ⟨hdemand, by simp [hp]⟩
  obtain ⟨last, hlast⟩ : ∃ last, (network.demandsAt p demands).getLast? = some last :=
    ⟨_, List.getLast?_eq_some_getLast (List.ne_nil_of_mem hmem)⟩
  refine ⟨{ i with current := last.state }, ?_, ?_⟩
  · rw [h.met, Network.find?_eq_place?, Network.place?_meet, hapart.place? hi hid,
      Option.bind_some, Network.getElem?_meet, hi, hlast]
    rfl
  · rw [h.lights, Change.shown?, hapart.filter_changes hi hid, List.getLast?_map, hlast]
    rfl

end SignalScript
