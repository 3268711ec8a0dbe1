import SignalScript.Node.Basic
import SignalScript.Decimal.NumberStyle
import SignalScript.Text.Quoted

/-!
# Nodes on one line

Messages show a node as compact `JSON`. Where a mapping has a key that `JSON` cannot write, the
whole node is shown in a form that spells out every kind of node.

* `Node.json?`     compact `JSON`, if every key can be written;
* `Node.spelled`   the form that spells out the kinds;
* `Node.describe`  the first of the two that exists.
-/

namespace SignalScript

open Text

namespace Number

/-- whole numbers in decimal, doubles in a style -/
def write (style : NumberStyle) : Number → String
  | .int i => toString i
  | .float x => style.write x

/-- the text of a number as a scalar of a script -/
def scalarText (n : Number) : String := n.write NumberStyle.scalar

end Number

/-- `true` or `false` -/
def boolText (b : Bool) : String := if b then "true" else "false"

/-- texts between two marks, separated by a third -/
def enclosed (first last separator : String) (parts : List String) : String :=
  first ++ String.intercalate separator parts ++ last

namespace Node

/-- a key of a mapping as `JSON` text: texts, booleans and finite numbers only -/
def jsonKey? : Node → Option String
  | .text s => some (quoteJson s)
  | .bool b => some (quoteJson (boolText b))
  | .number (.int i) => some (quoteJson (toString i))
  | .number (.float x) =>
    if (Binary.ofFloat x).isFinite then some (quoteJson (NumberStyle.json.write x)) else none
  | _ => none

mutual

/-- compact `JSON`; a tagged node is a mapping with its tag as the only key -/
def json? : Node → Option String
  | .null => some "null"
  | .bool b => some (boolText b)
  | .number n => some (n.write NumberStyle.json)
  | .text s => some (quoteJson s)
  | .sequence items => (jsonItems? items).map (enclosed "[" "]" ",")
  | .mapping entries => (jsonEntries? entries).map (enclosed "\x7b" "\x7d" ",")
  | .tagged tag value =>
    (json? value).map fun shown =>
      enclosed "\x7b" "\x7d" "," [quoteJson ("!" ++ tag) ++ ":" ++ shown]

def jsonItems? : List Node → Option (List String)
  | [] => some []
  | item :: rest =>
    match json? item, jsonItems? rest with
    | some shown, some others => some (shown :: others)
    | _, _ => none

def jsonEntries? : List (Node × Node) → Option (List String)
  | [] => some []
  | (k, v) :: rest =>
    match k.jsonKey?, json? v, jsonEntries? rest with
    | some key, some shown, some others => some ((key ++ ":" ++ shown) :: others)
    | _, _, _ => none

end

mutual

/-- every node with its kind; as keys texts, booleans and numbers stand for themselves -/
def spelled : Node → String
  | .null => "Null"
  | .bool b => "Bool(" ++ boolText b ++ ")"
  | .number n => "Number(" ++ n.scalarText ++ ")"
  | .text s => "String(" ++ quoteVisible s ++ ")"
  | .sequence items => enclosed "Sequence [" "]" ", " (spelledItems items)
  | .mapping entries => enclosed "Mapping \x7b" "\x7d" ", " (spelledEntries entries)
  | .tagged tag value => "TaggedValue \x7b tag: !" ++ tag ++ ", value: " ++ spelled value ++ " \x7d"

def spelledItems : List Node → List String
  | [] => []
  | item :: rest => spelled item :: spelledItems rest

def spelledEntries : List (Node × Node) → List String
  | [] => []
  | (k, v) :: rest =>
    ((match k with
      | .text s => quoteVisible s
      | .bool b => boolText b
      | .number n => n.scalarText
      | key => spelled key) ++ ": " ++ spelled v) :: spelledEntries rest

end

/-- the node on one line -/
def describe (node : Node) : String := node.json?.getD node.spelled

end Node

end SignalScript
