/-!
# Script nodes

A script is read into nodes: null, booleans, numbers, texts, sequences, mappings and tagged nodes.

* `Node.untag`       the node under all of its tags;
* `Node.get?`        the value of a text key of a mapping, looked for through tags;
* `Node.sizeOf_get?` what `get?` finds is smaller than where it was found;
* `Node.same`        are two nodes equal as keys of a mapping?
-/

namespace SignalScript

/-- whole numbers are exact, all others are doubles -/
inductive Number where
  | int (i : Int)
  | float (x : Float)
  deriving Inhabited

inductive Node where
  | null
  | bool (b : Bool)
  | number (n : Number)
  | text (s : String)
  | sequence (items : List Node)
  | mapping (entries : List (Node × Node))
  | tagged (tag : String) (value : Node)
  deriving Inhabited

namespace Node

/-! ## tags -/

/-- the node under all of its tags -/
def untag : Node → Node
  | .tagged _ value => value.untag
  | node => node

theorem sizeOf_untag_le : (node : Node) → sizeOf node.untag ≤ sizeOf node
  | .tagged tag value =>
    Nat.le_trans (sizeOf_untag_le value) (by rw [tagged.sizeOf_spec]; exact Nat.le_add_left _ _)
  | .null | .bool _ | .number _ | .text _ | .sequence _ | .mapping _ => Nat.le_refl _

/-- the name of a tag: a `!` before it is not part of it -/
def tagName (tag : String) : String :=
  match tag.toList with
  | '!' :: c :: rest => String.ofList (c :: rest)
  | _ => tag

/-! ## keys -/

/-- is the node exactly the text `key`? -/
def isText (key : String) : Node → Bool
  | .text s => s == key
  | _ => false

/-- a mapping, perhaps under tags -/
def isMapping (node : Node) : Bool :=
  match node.untag with
  | .mapping _ => true
  | _ => false

/-- the value of the first entry whose key is the text `key` -/
def lookup (key : String) : List (Node × Node) → Option Node
  | [] => none
  | (k, v) :: rest => if k.isText key then some v else lookup key rest

theorem lookup_cons (key : String) (k v : Node) (rest : List (Node × Node)) :
    lookup key ((k, v) :: rest) = if k.isText key then some v else lookup key rest := rfl

theorem sizeOf_lookup {key : String} {entries : List (Node × Node)} {v : Node}
    (h : lookup key entries = some v) : sizeOf v < sizeOf entries := by
  induction entries with
  | nil => cases h
  | cons entry rest ih =>
    obtain ⟨k, w⟩ := entry
    rw [lookup_cons] at h
    split at h
    · cases h
      simp only [List.cons.sizeOf_spec, Prod.mk.sizeOf_spec]
      omega
    · have := ih h
      simp only [List.cons.sizeOf_spec]
      omega

/-- the value of a text key, looked for through tags; only mappings have keys -/
def get? (key : String) (node : Node) : Option Node :=
  match node.untag with
  | .mapping entries => lookup key entries
  | _ => none

theorem sizeOf_get? {key : String} {node v : Node} (h : node.get? key = some v) :
    sizeOf v < sizeOf node := by
  have hle := sizeOf_untag_le node
  rw [get?] at h
  split at h
  · rename_i entries hu
    rw [hu] at hle
    have := sizeOf_lookup h
    simp only [mapping.sizeOf_spec] at hle
    omega
  · cases h

theorem isMapping_of_get? {key : String} {node v : Node} (h : node.get? key = some v) :
    node.isMapping = true := by
  rw [get?] at h
  rw [isMapping]
  split at h
  · rfl
  · cases h

end Node

/-! ## equality of keys -/

/-- equal as numbers of one kind; `nan` is equal to itself and the zeros are equal -/
def Number.same : Number → Number → Bool
  | .int i, .int j => i == j
  | .float x, .float y => (x.isNaN && y.isNaN) || x == y
  | _, _ => false

namespace Node

mutual

/-- are two nodes the same key? The order of the entries of a mapping does not matter. -/
def same : Node → Node → Bool
  | .null, .null => true
  | .bool a, .bool b => a == b
  | .number m, .number n => m.same n
  | .text s, .text t => s == t
  | .sequence xs, .sequence ys => sameItems xs ys
  | .mapping es, .mapping fs => es.length == fs.length && sameEntries es fs
  | .tagged s a, .tagged t b => s == t && same a b
  | _, _ => false

def sameItems : List Node → List Node → Bool
  | [], [] => true
  | x :: xs, y :: ys => same x y && sameItems xs ys
  | _, _ => false

/-- has every entry of the first list an equal one in the second? -/
def sameEntries : List (Node × Node) → List (Node × Node) → Bool
  | [], _ => true
  | (k, v) :: rest, fs => fs.any (fun f => same k f.1 && same v f.2) && sameEntries rest fs

end

end Node

end SignalScript
