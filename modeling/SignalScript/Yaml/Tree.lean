import SignalScript.Yaml.TokenStream

/-!
# YAML documents as trees

* `Tree`             scalars, sequences and mappings with tags and anchors, and aliases;
* `Tree.ofTokens?`   the documents of a text, tree by tree;
* `Tree.events`      how many pieces a tree is made of.

Tokens are taken from the front of a list. Every call takes a token or hands the list to a call
for something smaller, so twice the number of tokens bounds the depth of the calls.
-/

namespace SignalScript.Yaml

/-- a node of a document; anchors and aliases are named by `ν` -/
inductive Tree (ν : Type) where
  | alias (name : ν)
  | scalar (anchor : Option ν) (tag : Option Octets) (plain : Bool) (text : String)
  | sequence (anchor : Option ν) (tag : Option Octets) (items : List (Tree ν))
  | mapping (anchor : Option ν) (tag : Option Octets) (entries : List (Tree ν × Tree ν))
  deriving Inhabited

namespace Tree

/-- what stands where nothing is written -/
def empty : Tree String := .scalar none none true ""

section
variable {ν : Type}

mutual

/-- scalars and aliases count once, collections at their start and at their end -/
def events : Tree ν → Nat
  | .alias _ => 1
  | .scalar _ _ _ _ => 1
  | .sequence _ _ items => eventsOf items + 2
  | .mapping _ _ entries => eventsOfEntries entries + 2

def eventsOf : List (Tree ν) → Nat
  | [] => 0
  | t :: rest => events t + eventsOf rest

def eventsOfEntries : List (Tree ν × Tree ν) → Nat
  | [] => 0
  | (k, v) :: rest => events k + events v + eventsOfEntries rest

end

end

/-! ## properties of a node -/

/-- an anchor and a tag before a node, in any order -/
structure Properties where
  anchor : Option String := none
  tag : Option Octets := none

def readProperties (handles : List (String × Octets)) (tokens : List Token) :
    Except Defect (Properties × List Token) :=
  match tokens with
  | .anchor name :: .tag handle suffix :: rest =>
    (resolveTag handles handle suffix).map fun tag => (⟨some name, some tag⟩, rest)
  | .anchor name :: rest => .ok (⟨some name, none⟩, rest)
  | .tag handle suffix :: .anchor name :: rest =>
    (resolveTag handles handle suffix).map fun tag => (⟨some name, some tag⟩, rest)
  | .tag handle suffix :: rest =>
    (resolveTag handles handle suffix).map fun tag => (⟨none, some tag⟩, rest)
  | rest => .ok ({}, rest)

/-- where a node stands decides which tokens can begin it -/
inductive Place where
  /-- an entry of a block sequence, or a document -/
  | block
  /-- a key or a value of a block mapping; entries of a sequence need no further indentation -/
  | mapped
  | flow
  deriving DecidableEq

/-- is nothing written before these tokens? -/
def isAbsent (ends : List Token) (tokens : List Token) : Bool := tokens.head?.any ends.contains

mutual

def node (handles : List (String × Octets)) :
    Nat → Place → List Token → Except Defect (Tree String × List Token)
  | 0, _, _ => .error .misplacedToken
  | _, _, .alias name :: rest => .ok (.alias name, rest)
  | fuel + 1, place, tokens => do
    let (properties, rest) ← readProperties handles tokens
    let { anchor, tag } := properties
    match rest with
    | .entry :: _ =>
      if place = .mapped then
        let (items, rest) ← looseEntries handles fuel rest
        .ok (.sequence anchor tag items, rest)
      else bare anchor tag rest
    | .scalar plain text :: rest => .ok (.scalar anchor tag plain text, rest)
    | .flowSequence :: rest =>
      let (items, rest) ← flowItems handles fuel true rest
      .ok (.sequence anchor tag items, rest)
    | .flowMapping :: rest =>
      let (entries, rest) ← flowEntries handles fuel true rest
      .ok (.mapping anchor tag entries, rest)
    | .blockSequence :: rest =>
      if place = .flow then .error .misplacedToken
      else
        let (items, rest) ← blockEntries handles fuel rest
        .ok (.sequence anchor tag items, rest)
    | .blockMapping :: rest =>
      if place = .flow then .error .misplacedToken
      else
        let (entries, rest) ← blockPairs handles fuel rest
        .ok (.mapping anchor tag entries, rest)
    | _ => bare anchor tag rest
where
  /-- properties may stand without a node -/
  bare (anchor : Option String) (tag : Option Octets) (rest : List Token) :
      Except Defect (Tree String × List Token) :=
    if anchor.isSome || tag.isSome then .ok (.scalar anchor tag true "", rest)
    else .error .misplacedToken

/-- a node, or the empty scalar before tokens that end its place -/
def nodeUnless (handles : List (String × Octets)) (fuel : Nat) (place : Place)
    (ends : List Token) (tokens : List Token) : Except Defect (Tree String × List Token) :=
  match fuel with
  | 0 => .error .misplacedToken
  | fuel + 1 => if isAbsent ends tokens then .ok (empty, tokens) else node handles fuel place tokens

/-- the entries of a block sequence, up to its end -/
def blockEntries (handles : List (String × Octets)) :
    Nat → List Token → Except Defect (List (Tree String) × List Token)
  | fuel + 1, .entry :: rest => do
    let (item, rest) ← nodeUnless handles fuel .block [.entry, .blockEnd] rest
    let (items, rest) ← blockEntries handles fuel rest
    .ok (item :: items, rest)
  | _, .blockEnd :: rest => .ok ([], rest)
  | _, _ => .error .misplacedToken

/-- the entries of a sequence that is a value of a block mapping and not indented further -/
def looseEntries (handles : List (String × Octets)) :
    Nat → List Token → Except Defect (List (Tree String) × List Token)
  | fuel + 1, .entry :: rest => do
    let (item, rest) ← nodeUnless handles fuel .block [.entry, .key, .value, .blockEnd] rest
    let (items, rest) ← looseEntries handles fuel rest
    .ok (item :: items, rest)
  | 0, .entry :: _ => .error .misplacedToken
  | _, rest => .ok ([], rest)

/-- the value of a pair of a block mapping, if there is one -/
def blockValue (handles : List (String × Octets)) :
    Nat → List Token → Except Defect (Tree String × List Token)
  | fuel + 1, .value :: rest => nodeUnless handles fuel .mapped [.key, .value, .blockEnd] rest
  | 0, _ => .error .misplacedToken
  | _, rest => .ok (empty, rest)

/-- the pairs of a block mapping, up to its end -/
def blockPairs (handles : List (String × Octets)) :
    Nat → List Token → Except Defect (List (Tree String × Tree String) × List Token)
  | fuel + 1, .key :: rest => do
    let (key, rest) ← nodeUnless handles fuel .mapped [.key, .value, .blockEnd] rest
    let (value, rest) ← blockValue handles fuel rest
    let (pairs, rest) ← blockPairs handles fuel rest
    .ok ((key, value) :: pairs, rest)
  | _, .blockEnd :: rest => .ok ([], rest)
  | _, _ => .error .misplacedToken

/-- a pair without brackets as an item of a flow sequence -/
def flowPair (handles : List (String × Octets)) :
    Nat → List Token → Except Defect (Tree String × List Token)
  | 0, _ => .error .misplacedToken
  | fuel + 1, tokens => do
    let (key, rest) ←
      if isAbsent [.value, .comma, .flowSequenceEnd] tokens then .ok (empty, tokens.drop 1)
      else node handles fuel .flow tokens
    let (value, rest) ← match rest with
      | .value :: rest => nodeUnless handles fuel .flow [.comma, .flowSequenceEnd] rest
      | rest => .ok (empty, rest)
    .ok (.mapping none none [(key, value)], rest)

/-- the items of a flow sequence, up to its bracket -/
def flowItems (handles : List (String × Octets)) :
    Nat → Bool → List Token → Except Defect (List (Tree String) × List Token)
  | 0, _, _ => .error .misplacedToken
  | _, _, .flowSequenceEnd :: rest => .ok ([], rest)
  | fuel + 1, first, tokens => do
    let tokens ← match first, tokens with
      | true, tokens => .ok tokens
      | false, .comma :: rest => .ok rest
      | false, _ => .error .misplacedToken
    match tokens with
    | .flowSequenceEnd :: rest => .ok ([], rest)
    | .key :: rest =>
      let (item, rest) ← flowPair handles fuel rest
      let (items, rest) ← flowItems handles fuel false rest
      .ok (item :: items, rest)
    | tokens =>
      let (item, rest) ← node handles fuel .flow tokens
      let (items, rest) ← flowItems handles fuel false rest
      .ok (item :: items, rest)

/-- the entries of a flow mapping, up to its bracket -/
def flowEntries (handles : List (String × Octets)) :
    Nat → Bool → List Token → Except Defect (List (Tree String × Tree String) × List Token)
  | 0, _, _ => .error .misplacedToken
  | _, _, .flowMappingEnd :: rest => .ok ([], rest)
  | fuel + 1, first, tokens => do
    let tokens ← match first, tokens with
      | true, tokens => .ok tokens
      | false, .comma :: rest => .ok rest
      | false, _ => .error .misplacedToken
    match tokens with
    | .flowMappingEnd :: rest => .ok ([], rest)
    | .key :: rest =>
      let (key, rest) ← nodeUnless handles fuel .flow [.value, .comma, .flowMappingEnd] rest
      let (value, rest) ← match rest with
        | .value :: rest => nodeUnless handles fuel .flow [.comma, .flowMappingEnd] rest
        | rest => .ok (empty, rest)
      let (entries, rest) ← flowEntries handles fuel false rest
      .ok ((key, value) :: entries, rest)
    | tokens =>
      let (key, rest) ← node handles fuel .flow tokens
      let (entries, rest) ← flowEntries handles fuel false rest
      .ok ((key, empty) :: entries, rest)

end

/-! ## documents -/

/-- the directives before a document; a version and each handle are declared at most once -/
def readDirectives (versioned : Bool) (handles : List (String × Octets)) :
    List Token → Except Defect (List (String × Octets) × List Token)
  | .version major minor :: rest =>
    if versioned || major ≠ 1 || (minor ≠ 1 && minor ≠ 2) then .error .directive
    else readDirectives true handles rest
  | .handle name replacement :: rest =>
    if (handles.lookup name).isSome then .error .directive
    else readDirectives versioned ((name, replacement) :: handles) rest
  | rest => .ok (handles, rest)

def isDirective : Token → Bool
  | .version _ _ => true
  | .handle _ _ => true
  | _ => false

/-- the content of a document that was opened by its mark -/
def content (handles : List (String × Octets)) (fuel : Nat) (tokens : List Token) :
    Except Defect (Tree String × List Token) :=
  match tokens with
  | token :: _ =>
    if isDirective token || token = .documentStart || token = .documentEnd || token = .streamEnd
    then .ok (empty, tokens)
    else node handles fuel .block tokens
  | [] => .error .misplacedToken

/-- the documents after the first; each is opened by its mark -/
def documents (fuel : Nat) : Nat → List Token → Except Defect (List (Tree String))
  | 0, _ => .error .misplacedToken
  | count + 1, tokens =>
    match tokens.dropWhile (· = .documentEnd) with
    | .streamEnd :: _ => .ok []
    | tokens =>
      match readDirectives false [] tokens with
      | .error defect => .error defect
      | .ok (handles, .documentStart :: rest) => do
        let (tree, rest) ← content handles fuel rest
        let others ← documents fuel count rest
        .ok (tree :: others)
      | .ok _ => .error .misplacedToken

/-- the documents of a text; the first needs no mark -/
def ofTokens? (tokens : List Token) : Except Defect (List (Tree String)) :=
  let fuel := 2 * tokens.length + 2
  match tokens with
  | token :: _ =>
    if isDirective token || token = .documentStart || token = .streamEnd then
      documents fuel fuel tokens
    else do
      let (tree, rest) ← node [] fuel .block tokens
      let others ← documents fuel fuel rest
      .ok (tree :: others)
  | [] => .error .misplacedToken

end Tree

end SignalScript.Yaml
