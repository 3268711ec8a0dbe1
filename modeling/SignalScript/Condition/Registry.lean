import SignalScript.Condition.Builtin

/-!
# The registry of conditions

A registry is a table from names to conditions that were not configured yet. The last condition
registered under a name counts.

* `Registry.register`  puts a condition under a name;
* `Registry.create?`   the condition under exactly that name;
* `Registry.names`     the names in increasing order, each once;
* `Registry.builtin`   the built-in conditions under their names.
-/

namespace SignalScript

/-- what follows the type of a condition in the name it is registered under -/
def conditionSuffix : String := "Condition"

/-- names with conditions, in increasing order of the names -/
structure Registry (π : Type) where
  entries : List (String × π) := []

namespace Registry

variable {π ρ : Type}

def empty : Registry π := {}

/-- put an entry where its name belongs, in place of an entry of the same name -/
def place (name : String) (p : π) : List (String × π) → List (String × π)
  | [] => [(name, p)]
  | (other, q) :: rest =>
    if name < other then (name, p) :: (other, q) :: rest
    else if name = other then (name, p) :: rest
    else (other, q) :: place name p rest

def register (name : String) (p : π) (registry : Registry π) : Registry π :=
  ⟨place name p registry.entries⟩

/-- the line logged when a condition is registered -/
def line (name : String) : Record := .debug ("Registered condition: " ++ name)

/-- a fresh condition of the one registered under exactly `name` -/
def create? (name : String) (registry : Registry π) : Option π := registry.entries.lookup name

def contains (name : String) (registry : Registry π) : Bool := (registry.create? name).isSome

/-- the registered names in increasing order -/
def names (registry : Registry π) : List String := registry.entries.map (·.1)

/-- the same names with other conditions -/
def map (f : π → ρ) (registry : Registry π) : Registry ρ :=
  ⟨registry.entries.map fun entry => (entry.1, f entry.2)⟩

theorem place_nil (name : String) (p : π) : place name p [] = [(name, p)] := rfl

theorem lookup_place_self (name : String) (p : π) (entries : List (String × π)) :
    (place name p entries).lookup name = some p := by
  induction entries with
  | nil => simp [place_nil]
  | cons entry rest ih =>
    obtain ⟨other, q⟩ := entry
    by_cases hlt : name < other
    · simp [place, hlt]
    · by_cases heq : name = other
      · simp [place, heq]
      · have hne : (name == other) = false := by simp [heq]
        simp [place, hlt, heq, List.lookup_cons, hne, ih]

theorem lookup_place_ne {name other : String} (hne : other ≠ name) (p : π)
    (entries : List (String × π)) :
    (place name p entries).lookup other = entries.lookup other := by
  induction entries with
  | nil => simp [place_nil, hne]
  | cons entry rest ih =>
    obtain ⟨each, q⟩ := entry
    have hno : (other == name) = false := by simp [hne]
    by_cases hlt : name < each
    · simp [place, hlt, List.lookup_cons, hno]
    · by_cases heq : name = each
      · subst heq
        simp [place, List.lookup_cons, hno]
      · simp [place, hlt, heq, List.lookup_cons, ih]

/-- the last registration under a name is the one that is found -/
theorem create?_register_self (name : String) (p : π) (registry : Registry π) :
    (registry.register name p).create? name = some p := lookup_place_self name p registry.entries

/-- names are told apart exactly -/
theorem create?_register_ne {name other : String} (hne : other ≠ name) (p : π)
    (registry : Registry π) :
    (registry.register name p).create? other = registry.create? other :=
  lookup_place_ne hne p registry.entries

/-- register conditions one after the other -/
def registerAll (conditions : List (String × π)) (registry : Registry π) : Registry π :=
  conditions.foldl (fun known entry => known.register entry.1 entry.2) registry

/-- the built-in conditions with the names they are registered under -/
def builtins : List (String × Builtin) :=
  Builtin.all.map fun c => (c.typeName ++ conditionSuffix, c)

def builtin : Registry Builtin := empty.registerAll builtins

end Registry

/-! ## handles -/

/-- a registry and the handles given out on it; whoever holds a handle uses the same table -/
structure SharedRegistry (π : Type) where
  table : Registry π
  handles : List String

namespace SharedRegistry

variable {π : Type}

/-- one handle on a registry -/
def share (handle : String) (table : Registry π) : SharedRegistry π := ⟨table, [handle]⟩

/-- the registry that a handle gives access to -/
def through? (handle : String) (shared : SharedRegistry π) : Option (Registry π) :=
  if shared.handles.contains handle then some shared.table else none

/-- register through a handle; nothing happens through a handle that was never given out -/
def register (handle name : String) (p : π) (shared : SharedRegistry π) : SharedRegistry π :=
  if shared.handles.contains handle then { shared with table := shared.table.register name p }
  else shared

/-- give out a second handle on what a first one gives access to -/
def clone (handle copy : String) (shared : SharedRegistry π) : SharedRegistry π :=
  if shared.handles.contains handle then { shared with handles := copy :: shared.handles }
  else shared

end SharedRegistry

end SignalScript
