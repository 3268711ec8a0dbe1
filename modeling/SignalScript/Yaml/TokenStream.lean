import SignalScript.Yaml.ScalarText
import SignalScript.Yaml.Token

/-!
# From text to tokens

Block collections are not written with brackets: their ends follow from indentation, and that a
node was a key is known only at the colon after it. So the tokens are collected while the
indentation of the open collections and the places where a key may have started are kept.

* `Scan`             the tokens so far, the open indentations, the possible keys;
* `Scan.step`        collects the next tokens;
* `Token.ofText?`    all tokens of a text.
-/

namespace SignalScript.Yaml

/-- a place where a key may have started -/
structure KeyStart where
  /-- nothing but a key can stand here -/
  required : Bool
  /-- the number of tokens before it -/
  index : Nat
  line : Nat
  column : Nat
  /-- its colon stands at this column or before -/
  last : Nat

/-- the tokens collected so far, and what is needed to go on -/
structure Scan where
  cursor : Cursor
  tokens : Array Token
  /-- the column of the innermost open block collection, -1 outside all of them -/
  indent : Int
  outer : List Int
  /-- the possible start of a key, for each open flow collection and for the block around them -/
  keys : List (Option KeyStart)
  /-- may a key start here? -/
  keyAllowed : Bool

namespace Scan

def start (text : List Char) : Scan := ⟨⟨text, 0, 0⟩, #[], -1, [], [none], true⟩

/-- inside a flow collection? -/
def flow (s : Scan) : Bool := 1 < s.keys.length

def push (s : Scan) (token : Token) : Scan := { s with tokens := s.tokens.push token }

/-! ## between tokens -/

/-- over blanks, comments and line breaks: the place of the next token and whether a key may
start there; tabs do not indent -/
def gapFrom (flow comment keyAllowed : Bool) : List Char → Nat → Nat → Bool × Cursor
  | [], line, column => (keyAllowed, ⟨[], line, column⟩)
  | c :: rest, line, column =>
    if isBreak c then gapFrom flow false (keyAllowed || !flow) rest (line + 1) 0
    else if comment || c = ' ' || (c = '\t' && (flow || !keyAllowed))
        || (c = '\ufeff' && column = 0) then
      gapFrom flow comment keyAllowed rest line (column + 1)
    else if c = '#' then gapFrom flow true keyAllowed rest line (column + 1)
    else (keyAllowed, ⟨c :: rest, line, column⟩)

def skipGap (s : Scan) : Scan :=
  let (keyAllowed, cursor) :=
    gapFrom s.flow false s.keyAllowed s.cursor.rest s.cursor.line s.cursor.column
  { s with cursor, keyAllowed }

/-! ## possible keys -/

/-- a key stands on one line and has no more octets than this -/
def longestKey : Nat := 1024

/-- how many characters at the front have no more than so many octets together -/
def fitting : Nat → List Char → Nat
  | octets, c :: rest =>
    if c.utf8Size ≤ octets then fitting (octets - c.utf8Size) rest + 1 else 0
  | _, [] => 0

/-- forget the starts that are too far back; a required one may not be forgotten -/
def dropStale (line column : Nat) : List (Option KeyStart) → Except Defect (List (Option KeyStart))
  | [] => .ok []
  | key :: rest => do
    let others ← dropStale line column rest
    match key with
    | some start =>
      if start.line < line || start.last < column then
        if start.required then .error .missingColon else .ok (none :: others)
      else .ok (key :: others)
    | none => .ok (none :: others)

/-- no key started at the innermost level -/
def removeKey (s : Scan) : Except Defect Scan :=
  match s.keys with
  | some start :: rest =>
    if start.required then .error .missingColon else .ok { s with keys := none :: rest }
  | _ => .ok s

/-- a key may start here, if keys are allowed -/
def saveKey (s : Scan) : Except Defect Scan :=
  if s.keyAllowed then do
    let s ← s.removeKey
    let required := !s.flow && s.indent = s.cursor.column
    let { rest, line, column } := s.cursor
    let start : KeyStart :=
      ⟨required, s.tokens.size, line, column, column + fitting longestKey rest⟩
    .ok { s with keys := some start :: s.keys.drop 1 }
  else .ok s

/-! ## indentation -/

/-- open a block collection at a column, unless one is open there already -/
def openBlock (s : Scan) (column : Nat) (index : Nat) (token : Token) : Scan :=
  if !s.flow && s.indent < column then
    { s with
      indent := column
      outer := s.indent :: s.outer
      tokens := s.tokens.take index ++ #[token] ++ s.tokens.drop index }
  else s

/-- close the block collections that are indented further than a column -/
def closeBlocks (column : Int) : Int → List Int → Array Token → Int × List Int × Array Token
  | indent, [], tokens => (indent, [], tokens)
  | indent, next :: rest, tokens =>
    if column < indent then closeBlocks column next rest (tokens.push .blockEnd)
    else (indent, next :: rest, tokens)

def unindent (s : Scan) (column : Int) : Scan :=
  if s.flow then s
  else
    let (indent, outer, tokens) := closeBlocks column s.indent s.outer s.tokens
    { s with indent, outer, tokens }

/-! ## tokens -/

/-- collect an indicator of some characters -/
def indicator (s : Scan) (token : Token) (length : Nat) : Scan :=
  { s.push token with cursor := s.cursor.drop length }

/-- the end of the text closes every block collection -/
def atEnd (s : Scan) : Except Defect Scan := do
  let s ← (s.unindent (-1)).removeKey
  .ok (s.push .streamEnd)

/-- a directive, or a bound of a document -/
def atMargin (s : Scan) : Except Defect Scan := do
  let s ← (s.unindent (-1)).removeKey
  .ok { s with keyAllowed := false }

def openFlow (s : Scan) (token : Token) : Except Defect Scan := do
  let s ← s.saveKey
  .ok { s.indicator token 1 with keys := none :: s.keys, keyAllowed := true }

def closeFlow (s : Scan) (token : Token) : Except Defect Scan := do
  let s ← s.removeKey
  .ok { s.indicator token 1 with
    keys := if s.flow then s.keys.drop 1 else s.keys
    keyAllowed := false }

def comma (s : Scan) : Except Defect Scan := do
  let s ← s.removeKey
  .ok { s.indicator .comma 1 with keyAllowed := true }

/-- the hyphen of an entry of a block sequence -/
def entry (s : Scan) : Except Defect Scan :=
  if !s.flow && !s.keyAllowed then .error .misplacedIndicator
  else do
    let s ← (s.openBlock s.cursor.column s.tokens.size .blockSequence).removeKey
    .ok { s.indicator .entry 1 with keyAllowed := true }

/-- the question mark before a key -/
def explicitKey (s : Scan) : Except Defect Scan :=
  if !s.flow && !s.keyAllowed then .error .misplacedIndicator
  else do
    let s ← (s.openBlock s.cursor.column s.tokens.size .blockMapping).removeKey
    .ok { s.indicator .key 1 with keyAllowed := !s.flow }

/-- the colon before a value: what stands before it on the line is the key -/
def value (s : Scan) : Except Defect Scan :=
  match s.keys with
  | some start :: rest =>
    let keyed := { s with
      tokens := s.tokens.take start.index ++ #[Token.key] ++ s.tokens.drop start.index
      keys := none :: rest
      keyAllowed := false }
    .ok ((keyed.openBlock start.column start.index .blockMapping).indicator .value 1)
  | _ =>
    if !s.flow && !s.keyAllowed then .error .misplacedIndicator
    else
      let s := s.openBlock s.cursor.column s.tokens.size .blockMapping
      .ok { s.indicator .value 1 with keyAllowed := !s.flow }

/-- a token that may be a key -/
def keyToken (s : Scan) (scan : Cursor → Except Defect (Token × Cursor)) : Except Defect Scan := do
  let s ← s.saveKey
  let (token, cursor) ← scan s.cursor
  .ok { s.push token with cursor, keyAllowed := false }

def quoted (s : Scan) (single : Bool) : Except Defect Scan :=
  s.keyToken fun c => do
    let (text, after) ← scanQuoted single c
    .ok (.scalar false (String.ofList text), after)

def block (s : Scan) (literal : Bool) : Except Defect Scan := do
  let s ← s.removeKey
  let (text, cursor) ← scanBlock literal s.indent s.cursor
  .ok { s.push (.scalar false (String.ofList text)) with cursor, keyAllowed := true }

def plain (s : Scan) : Except Defect Scan := do
  let s ← s.saveKey
  let (text, broken, cursor) ← scanPlain s.flow (s.indent + 1) s.cursor
  .ok { s.push (.scalar true (String.ofList text)) with cursor, keyAllowed := broken }

/-- characters that start no plain scalar -/
def reserved : List Char :=
  ['-', '?', ':', ',', '[', ']', '{', '}', '#', '&', '*', '!', '|', '>', '\'', '"', '%', '@',
    '\x60']

/-- does a plain scalar start here? -/
def startsPlain (s : Scan) (c : Char) : Bool :=
  let next := s.cursor.rest[1]?
  !(isSpace c || reserved.contains c) || (c = '-' && !next.any isBlank)
    || (!s.flow && (c = '?' || c = ':') && !s.cursor.endsAt 1)

/-- the tokens that start with a character at a place -/
def fetch (s : Scan) (c : Char) : Except Defect Scan :=
  let bound := boundsDocument s.cursor.rest s.cursor.column
  let loose := s.cursor.endsAt 1
  if s.cursor.column = 0 && c = '%' then do
    let s ← s.atMargin
    let (token, cursor) ← scanDirective s.cursor
    .ok { s.push token with cursor }
  else if bound then do
    let s ← s.atMargin
    .ok (s.indicator (if c = '-' then .documentStart else .documentEnd) 3)
  else if c = '[' then s.openFlow .flowSequence
  else if c = '{' then s.openFlow .flowMapping
  else if c = ']' then s.closeFlow .flowSequenceEnd
  else if c = '}' then s.closeFlow .flowMappingEnd
  else if c = ',' then s.comma
  else if c = '-' && loose then s.entry
  else if c = '?' && (s.flow || loose) then s.explicitKey
  else if c = ':' && (s.flow || loose) then s.value
  else if c = '*' then s.keyToken fun c => do
    let (name, after) ← scanName c
    .ok (.alias name, after)
  else if c = '&' then s.keyToken fun c => do
    let (name, after) ← scanName c
    .ok (.anchor name, after)
  else if c = '!' then s.keyToken (scanTag s.flow)
  else if c = '|' && !s.flow then s.block true
  else if c = '>' && !s.flow then s.block false
  else if c = '\'' then s.quoted true
  else if c = '"' then s.quoted false
  else if s.startsPlain c then s.plain
  else .error .character

/-- the next tokens; at the end of the text the collection is complete -/
def step (s : Scan) : Except Defect (Scan × Bool) := do
  let s := s.skipGap
  let keys ← dropStale s.cursor.line s.cursor.column s.keys
  let s := { s with keys }
  match s.cursor.rest with
  | [] => .ok (← s.atEnd, true)
  | c :: _ => .ok (← (s.unindent s.cursor.column).fetch c, false)

/-- collect tokens to the end of the text; every step takes at least one character -/
def run : Nat → Scan → Except Defect (Array Token)
  | 0, _ => .error .character
  | fuel + 1, s =>
    match s.step with
    | .error defect => .error defect
    | .ok (after, true) => .ok after.tokens
    | .ok (after, false) => run fuel after

end Scan

/-- the tokens of a text -/
def Token.ofText? (text : String) : Except Defect (List Token) :=
  if !text.toList.all isPermitted then .error .character
  else
    let cs := normalise text.toList
    (Scan.run (cs.length + 1) (Scan.start cs)).map Array.toList

end SignalScript.Yaml
