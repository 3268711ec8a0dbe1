import SignalScript.Scenario.Script
import SignalScript.Yaml.Content

/-!
# Loading scenario scripts

The envelope of a script has fixed keys; the blocks of the intersections and the expressions stay
nodes.

* `Script.ofYaml?`   the script that a YAML text holds;
* `Script.ofFile?`   the script of a file, if there is one;
* `LoadError`        a file that is missing or no text, or a text that is no script.
-/

namespace SignalScript

open Yaml

inductive LoadError where
  | notFound
  | notText
  | yaml (defect : Defect)

namespace Script

/-- a field that has to be there -/
def field (name : String) (fields : List (String × Yaml.Tree Nat)) :
    Except Defect (Yaml.Tree Nat) :=
  match fields.lookup name with
  | some t => .ok t
  | none => .error .missingField

/-- a list of blocks; nothing at all is the empty list -/
def blocksAt (document : Document) (depth : Nat) (t : Yaml.Tree Nat) : Decoder (List Node) :=
  fun count => do
    let (t, count) ← follow document t count
    match t with
    | .sequence _ _ items => itemsWith (nodeAt document depth) items count
    | t => if isBlankScalar t then .ok ([], count) else .error .shape

/-- is a node left out by writing null? -/
def isLeftOut : Yaml.Tree Nat → Except Defect Bool
  | .scalar _ tag true text =>
    match tag with
    | some tag =>
      if tag = standardTag "null" then
        if Scalar.isNull text then .ok true else .error .scalar
      else .ok false
    | none => .ok (text.isEmpty || Scalar.isNull text)
  | _ => .ok false

/-- a node that may be left out -/
def optionalAt (document : Document) (depth : Nat) (t : Yaml.Tree Nat) : Decoder (Option Node) :=
  fun count => do
    let (t, count) ← follow document t count
    if ← isLeftOut t then .ok (none, count)
    else
      let (node, count) ← nodeAt document depth t count
      .ok (some node, count)

/-- the script that a document holds; every mapping around a node takes one level of nesting -/
def ofDocument? (document : Document) : Except Defect Script := do
  let (fields, count) ← fieldsOf document ["Intersection", "Story"] document.root 0
  let (intersections, count) ← match fields.lookup "Intersection" with
    | some t => blocksAt document (deepest - 2) t count
    | none => .ok ([], count)
  let (story, count) ← fieldsOf document ["EndCondition"] (← field "Story" fields) count
  let (ending, count) ←
    fieldsOf document ["Success", "Failure"] (← field "EndCondition" story) count
  let (success, count) ← nodeAt document (deepest - 3) (← field "Success" ending) count
  let (failure, _) ← match ending.lookup "Failure" with
    | some t => optionalAt document (deepest - 3) t count
    | none => .ok (none, count)
  .ok ⟨intersections, success, failure⟩

/-- the script that a YAML text holds -/
def ofYaml? (text : String) : Except Defect Script := Document.ofText? text >>= ofDocument?

/-- the script of a file, given its content if there is such a file -/
def ofFile? (content : Option ByteArray) : Except LoadError Script :=
  match content with
  | none => .error .notFound
  | some bytes =>
    match String.fromUTF8? bytes with
    | none => .error .notText
    | some text =>
      match ofYaml? text with
      | .ok script => .ok script
      | .error defect => .error (.yaml defect)

end Script

end SignalScript
