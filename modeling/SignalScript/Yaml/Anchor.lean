import SignalScript.Yaml.Tree

/-!
# Anchors and aliases

An anchor is known by the number of distinct names before it. Where an anchor repeats a name, the
next new name gets the same number; of the nodes with one number the last one counts.

* `number`            replaces the names of anchors and aliases by their numbers;
* `Tree.anchored`     the nodes with anchors, in reading order;
* `Document`          a numbered tree and the nodes that its aliases stand for.
-/

namespace SignalScript.Yaml

/-- names of anchors with their numbers -/
abbrev Names := List (String × Nat)

/-- give a name the next number, in place of an earlier one -/
def Names.set (names : Names) (name : String) : Names :=
  (name, names.length) :: names.filter (·.1 ≠ name)

/-- the number of a new anchor, if there is one, and the names after it -/
def numberAnchor (names : Names) : Option String → Option Nat × Names
  | some name => (some names.length, names.set name)
  | none => (none, names)

mutual

/-- number the anchors in reading order; an alias needs an anchor before it -/
def number : Tree String → Names → Except Defect (Tree Nat × Names)
  | .alias name, names =>
    match names.lookup name with
    | some n => .ok (.alias n, names)
    | none => .error .unknownAnchor
  | .scalar anchor tag plain text, names =>
    let (anchor, names) := numberAnchor names anchor
    .ok (.scalar anchor tag plain text, names)
  | .sequence anchor tag items, names => do
    let (anchor, names) := numberAnchor names anchor
    let (items, names) ← numberItems items names
    .ok (.sequence anchor tag items, names)
  | .mapping anchor tag entries, names => do
    let (anchor, names) := numberAnchor names anchor
    let (entries, names) ← numberEntries entries names
    .ok (.mapping anchor tag entries, names)

def numberItems : List (Tree String) → Names → Except Defect (List (Tree Nat) × Names)
  | [], names => .ok ([], names)
  | item :: rest, names => do
    let (item, names) ← number item names
    let (others, names) ← numberItems rest names
    .ok (item :: others, names)

def numberEntries :
    List (Tree String × Tree String) → Names → Except Defect (List (Tree Nat × Tree Nat) × Names)
  | [], names => .ok ([], names)
  | (key, value) :: rest, names => do
    let (key, names) ← number key names
    let (value, names) ← number value names
    let (others, names) ← numberEntries rest names
    .ok ((key, value) :: others, names)

end

namespace Tree

/-- a node under its number, if it has one -/
def underAnchor (anchor : Option Nat) (t : Tree Nat) : List (Nat × Tree Nat) :=
  match anchor with
  | some n => [(n, t)]
  | none => []

mutual

/-- the nodes with anchors, in reading order -/
def anchored : Tree Nat → List (Nat × Tree Nat)
  | .alias _ => []
  | .scalar anchor tag plain text => underAnchor anchor (.scalar anchor tag plain text)
  | .sequence anchor tag items =>
    underAnchor anchor (.sequence anchor tag items) ++ anchoredOf items
  | .mapping anchor tag entries =>
    underAnchor anchor (.mapping anchor tag entries) ++ anchoredOfEntries entries

def anchoredOf : List (Tree Nat) → List (Nat × Tree Nat)
  | [] => []
  | t :: rest => anchored t ++ anchoredOf rest

def anchoredOfEntries : List (Tree Nat × Tree Nat) → List (Nat × Tree Nat)
  | [] => []
  | (k, v) :: rest => anchored k ++ anchored v ++ anchoredOfEntries rest

end

end Tree

/-- a tree, the nodes that aliases stand for, and how many aliases may be followed -/
structure Document where
  root : Tree Nat
  targets : List (Nat × Tree Nat)
  aliasLimit : Nat

namespace Document

/-- for each piece of a document so many aliases may be followed -/
def aliasesPerEvent : Nat := 100

def ofTree? (t : Tree String) : Except Defect Document := do
  let (root, _) ← number t []
  .ok ⟨root, root.anchored.reverse, aliasesPerEvent * root.events⟩

/-- the only document of a text; a text without a document is none -/
def ofText? (text : String) : Except Defect Document := do
  let tokens ← Token.ofText? text
  match ← Tree.ofTokens? tokens with
  | [] => .error .shape
  | [tree] => ofTree? tree
  | _ => .error .severalDocuments

end Document

end SignalScript.Yaml
