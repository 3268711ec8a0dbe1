import SignalScript.Proofs.Scene.Basic

/-!
# Demands on a network

A demand asks the intersection that controls a light for a state. Where the intersections stand and
which lights they control never changes, so of many demands the last one for a place decides which
state is current there.

* `Network.place?`            where the intersection stands that controls a light;
* `Network.meet`              the network after demands were met one after the other;
* `Network.demandsAt`         the demands for the intersection at a place;
* `Network.getElem?_meet`     the state at a place is the one of the last demand for it;
* `World.ofBlocks`            a world with one intersection for each block of a script.
-/

namespace SignalScript

variable {S : Type}

theorem filterMap_cons_toList {α β : Type} (f : α → Option β) (a : α) (rest : List α) :
    (a :: rest).filterMap f = (f a).toList ++ rest.filterMap f := by
  rw [List.filterMap_cons]
  cases f a <;> rfl

/-- a state asked of the intersection that controls a light -/
structure Demand where
  light : Nat
  state : String
  deriving DecidableEq

namespace Network

/-! ## places -/

/-- where the intersection stands that controls a light -/
def place? (id : Nat) (network : Network) : Option Nat := network.findIdx? (·.controls id)

section
variable {id : Nat} {i : Intersection}

theorem place?_cons_of_controls (h : i.controls id = true) (rest : Network) :
    place? id (i :: rest) = some 0 := by
  rw [place?, List.findIdx?_cons, if_pos h]

theorem place?_cons_of_not_controls (h : i.controls id = false) (rest : Network) :
    place? id (i :: rest) = (place? id rest).map (· + 1) := by
  rw [place?, List.findIdx?_cons, if_neg (by simp [h])]
  rfl

end

theorem find?_eq_place? (id : Nat) (network : Network) :
    network.find? id = (network.place? id).bind fun p => network[p]? := by
  induction network with
  | nil => rfl
  | cons i rest ih =>
    cases hi : i.controls id with
    | true =>
      rw [find?_cons_of_controls hi, place?_cons_of_controls hi]
      rfl
    | false =>
      rw [find?_cons_of_not_controls hi, place?_cons_of_not_controls hi, ih, Option.bind_map]
      rfl

/-- at the place of a light there is an intersection that controls it -/
theorem exists_of_place? {id p : Nat} {network : Network} (h : network.place? id = some p) :
    ∃ i, network[p]? = some i ∧ i.controls id = true := by
  obtain ⟨hp, hcontrols, _⟩ := List.findIdx?_eq_some_iff_getElem.mp h
  exact ⟨network[p], List.getElem?_eq_getElem hp, hcontrols⟩

theorem place?_eq_none_iff {id : Nat} {network : Network} :
    network.place? id = none ↔ network.find? id = none := by
  rw [find?_eq_place?]
  cases hp : network.place? id with
  | none => simp
  | some p =>
    obtain ⟨i, hi, _⟩ := exists_of_place? hp
    simp [hi]

/-! ## one demand -/

theorem place?_enter (id : Nat) (name : String) (other : Nat) (network : Network) :
    (network.enter id name).place? other = network.place? other := by
  induction network with
  | nil => rfl
  | cons i rest ih =>
    cases hi : i.controls id with
    | true =>
      rw [enter_cons_of_controls hi]
      rfl
    | false =>
      rw [enter_cons_of_not_controls hi]
      cases ho : i.controls other with
      | true => rw [place?_cons_of_controls ho, place?_cons_of_controls ho]
      | false => rw [place?_cons_of_not_controls ho, place?_cons_of_not_controls ho, ih]

/-- the state is entered at the place of the light, and nowhere else -/
theorem getElem?_enter (id : Nat) (name : String) (network : Network) (p : Nat) :
    (network.enter id name)[p]? = network[p]?.map fun i =>
      if network.place? id = some p then { i with current := name } else i := by
  induction network generalizing p with
  | nil => rfl
  | cons i rest ih =>
    cases hi : i.controls id with
    | true =>
      rw [enter_cons_of_controls hi, place?_cons_of_controls hi]
      cases p with
      | zero => rfl
      | succ p => simp
    | false =>
      rw [enter_cons_of_not_controls hi, place?_cons_of_not_controls hi]
      cases p with
      | zero => simp
      | succ p => simp [ih]

theorem enter_of_find?_none {id : Nat} {network : Network} (h : network.find? id = none)
    (name : String) : network.enter id name = network := by
  apply List.ext_getElem?
  intro p
  rw [getElem?_enter, place?_eq_none_iff.mpr h]
  simp

/-! ## demand after demand -/

/-- the network after demands were met one after the other -/
def meet (network : Network) (demands : List Demand) : Network :=
  demands.foldl (fun network demand => network.enter demand.light demand.state) network

theorem meet_nil (network : Network) : network.meet [] = network := rfl

theorem meet_cons (network : Network) (demand : Demand) (demands : List Demand) :
    network.meet (demand :: demands) = (network.enter demand.light demand.state).meet demands := rfl

theorem meet_append (network : Network) (first second : List Demand) :
    network.meet (first ++ second) = (network.meet first).meet second := List.foldl_append

theorem place?_meet (network : Network) (demands : List Demand) (id : Nat) :
    (network.meet demands).place? id = network.place? id := by
  induction demands generalizing network with
  | nil => rfl
  | cons demand demands ih => rw [meet_cons, ih, place?_enter]

theorem find?_meet_none {id : Nat} {network : Network} (h : network.find? id = none)
    (demands : List Demand) : (network.meet demands).find? id = none := by
  rw [← place?_eq_none_iff, place?_meet, place?_eq_none_iff]
  exact h

/-- the demands for the intersection at a place -/
def demandsAt (network : Network) (p : Nat) (demands : List Demand) : List Demand :=
  demands.filter fun demand => network.place? demand.light = some p

theorem demandsAt_enter (network : Network) (id : Nat) (name : String) (p : Nat)
    (demands : List Demand) :
    (network.enter id name).demandsAt p demands = network.demandsAt p demands := by
  simp only [demandsAt, place?_enter]

/-- **The last demand for a place counts**: its state is current there, and without any the
intersection is in the state that it was in. -/
theorem getElem?_meet (network : Network) (demands : List Demand) (p : Nat) :
    (network.meet demands)[p]? = network[p]?.map fun i =>
      { i with
        current := ((network.demandsAt p demands).getLast?.map (·.state)).getD i.current } := by
  -- a demand changes no place, so the demands behind it are for the same places as before
  induction demands generalizing network with
  | nil => simp [meet_nil, demandsAt]
  | cons demand demands ih =>
    rw [meet_cons, ih, getElem?_enter, demandsAt_enter, Option.map_map]
    congr 1
    funext i
    by_cases hp : network.place? demand.light = some p
    · have hfilter : network.demandsAt p (demand :: demands) =
          demand :: network.demandsAt p demands := List.filter_cons_of_pos (by simp [hp])
      rw [hfilter, List.getLast?_cons]
      cases (network.demandsAt p demands).getLast? with
      | none => simp [hp]
      | some last => simp [hp]
    · have hfilter : network.demandsAt p (demand :: demands) = network.demandsAt p demands :=
        List.filter_cons_of_neg (by simp [hp])
      simp [hfilter, hp]

/-! ## networks of a script -/

/-- an intersection is built in the state in which all lights are off -/
theorem current_addBlocks {network : Network} (blocks : List Node) (index : Nat)
    (h : ∀ i ∈ network, i.current = blank) :
    ∀ i ∈ (network.addBlocks blocks index).1, i.current = blank := by
  induction blocks generalizing network index with
  | nil => exact h
  | cons block rest ih =>
    apply ih
    intro i hi
    rcases List.mem_append.mp hi with hi | hi
    · exact h i hi
    · obtain rfl := List.mem_singleton.mp hi
      rfl

theorem current_ofBlocks (blocks : List Node) :
    ∀ i ∈ (ofBlocks blocks).1, i.current = blank :=
  current_addBlocks blocks 0 (by simp)

end Network

namespace World

/-- one intersection for each block, on a simulator that is already there -/
def ofBlocks (blocks : List Node) (stage : Stage S) : World S :=
  ⟨stage.noteAll (Network.ofBlocks blocks).2, (Network.ofBlocks blocks).1⟩

theorem changeTo_network (sim : Simulator S) (id : Nat) (name : String) (world : World S) :
    (world.changeTo sim id name).2.network = world.network.enter id name := by
  have h : (world.changeTo sim id name).2.network =
      (world.scene.changeTo sim id name).2.network :=
    congrArg Scene.network (scene_changeTo sim id name world)
  rw [h]
  cases hi : world.scene.network.find? id with
  | some i =>
    rw [Scene.changeTo_of_some hi]
    rfl
  | none =>
    rw [Scene.changeTo_of_none hi]
    exact (Network.enter_of_find?_none hi name).symm

end World

end SignalScript
