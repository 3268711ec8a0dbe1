import SignalScript.Yaml.Anchor
import SignalScript.Yaml.Scalar

/-!
# The content of a document

* `Decoder`        reads off a document while the aliases that were followed are counted;
* `follow`         the node that an alias stands for;
* `nodeAt`         a node of a script; collections are nested up to a depth;
* `fieldsOf`       the entries of a mapping whose keys are fields.
-/

namespace SignalScript.Yaml

/-- how deep collections may be nested -/
def deepest : Nat := 128

/-- reading counts the aliases that were followed so far -/
abbrev Decoder (ρ : Type) := Nat → Except Defect (ρ × Nat)

/-- the node that an alias stands for; the node itself if it is no alias -/
def follow (document : Document) : Tree Nat → Decoder (Tree Nat)
  | .alias n, count =>
    if document.aliasLimit < count + 1 then .error .tooManyAliases
    else
      match document.targets.lookup n with
      | some target => .ok (target, count + 1)
      | none => .error .unknownAnchor
  | t, count => .ok (t, count)

/-- a scalar under its tag -/
def scalarNode (tag : Option Octets) (plain : Bool) (text : String) : Except Defect Node :=
  let untagged : Except Defect Node := if plain then Scalar.node? text else .ok (.text text)
  match tag with
  | none => untagged
  | some tag =>
    match TagMeaning.ofTag tag with
    | .own name => untagged.map (.tagged name)
    | .nameless => untagged
    | .foreign => Scalar.tagged? tag text

/-- a collection under its tag; only a tag of the script itself says something about it -/
def collectionNode (tag : Option Octets) (node : Node) : Node :=
  match tag.map TagMeaning.ofTag with
  | some (.own name) => .tagged name node
  | _ => node

/-- read every item -/
def itemsWith (read : Tree Nat → Decoder Node) : List (Tree Nat) → Decoder (List Node)
  | [], count => .ok ([], count)
  | item :: rest, count => do
    let (node, count) ← read item count
    let (others, count) ← itemsWith read rest count
    .ok (node :: others, count)

/-- read every entry after those read before; no key stands twice -/
def entriesWith (read : Tree Nat → Decoder Node) (before : List (Node × Node)) :
    List (Tree Nat × Tree Nat) → Decoder (List (Node × Node))
  | [], count => .ok (before, count)
  | (k, v) :: rest, count => do
    let (key, count) ← read k count
    if before.any fun entry => entry.1.same key then .error .repeatedKey
    else
      let (value, count) ← read v count
      entriesWith read (before ++ [(key, value)]) rest count

/-- a node of a script, with collections nested up to a depth -/
def nodeAt (document : Document) : Nat → Tree Nat → Decoder Node
  | depth, t, count => do
    let (t, count) ← follow document t count
    match t, depth with
    | .alias _, _ => .error .unknownAnchor
    | .scalar _ tag plain text, _ => do
      let node ← scalarNode tag plain text
      .ok (node, count)
    | .sequence _ _ _, 0 => .error .tooDeep
    | .mapping _ _ _, 0 => .error .tooDeep
    | .sequence _ tag items, depth + 1 => do
      let (nodes, count) ← itemsWith (nodeAt document depth) items count
      .ok (collectionNode tag (.sequence nodes), count)
    | .mapping _ tag entries, depth + 1 => do
      let (nodes, count) ← entriesWith (nodeAt document depth) [] entries count
      .ok (collectionNode tag (.mapping nodes), count)

/-! ## fields -/

/-- nothing is written here -/
def isBlankScalar : Tree Nat → Bool
  | .scalar _ _ plain text => plain && text.isEmpty
  | _ => false

/-- a mapping whose keys are fields: the values of the known ones. A field stands at most once;
values of other keys are not looked at. Nothing at all is a mapping without fields. -/
def fieldsOf (document : Document) (known : List String) (t : Tree Nat) :
    Decoder (List (String × Tree Nat)) := fun count => do
  let (t, count) ← follow document t count
  match t with
  | .mapping _ _ entries => go entries [] count
  | t => if isBlankScalar t then .ok ([], count) else .error .shape
where
  go : List (Tree Nat × Tree Nat) → List (String × Tree Nat) → Decoder (List (String × Tree Nat))
    | [], found, count => .ok (found, count)
    | (k, v) :: rest, found, count => do
      let (k, count) ← follow document k count
      match k with
      | .scalar _ _ _ name =>
        if known.contains name then
          if (found.lookup name).isSome then .error .repeatedKey
          else go rest ((name, v) :: found) count
        else go rest found count
      | _ => .error .shape

end SignalScript.Yaml
