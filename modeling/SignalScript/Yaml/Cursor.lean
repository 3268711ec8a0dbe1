/-!
# Places in a YAML text

* `Defect`      why a text is no document;
* `normalise`   one character for every kind of line break;
* `Cursor`      what is left of a text, and the line and the column it starts at;
* `Cursor.span` the characters of a kind at a place, and the place after them.
-/

namespace SignalScript.Yaml

/-- why a text is no document of the wanted shape -/
inductive Defect where
  | character
  | indentation
  | missingColon
  | misplacedIndicator
  | directive
  | name
  | tag
  | blockHeader
  | unclosedQuote
  | escape
  | misplacedToken
  | undefinedHandle
  | unknownAnchor
  | severalDocuments
  | scalar
  | repeatedKey
  | tooDeep
  | tooManyAliases
  | shape
  | missingField
  deriving DecidableEq

/-! ## characters -/

def isBlank (c : Char) : Bool := c = ' ' || c = '\t'

/-- a line break after `normalise` -/
def isBreak (c : Char) : Bool := c = '\n' || c = '\u2028' || c = '\u2029'

def isSpace (c : Char) : Bool := isBlank c || isBreak c

/-- a letter without accents, a digit, a hyphen or an underscore -/
def isWord (c : Char) : Bool :=
  ('a' ≤ c && c ≤ 'z') || ('A' ≤ c && c ≤ 'Z') || ('0' ≤ c && c ≤ '9') || c = '-' || c = '_'

/-- control characters other than tab and line breaks may not stand in a text -/
def isPermitted (c : Char) : Bool :=
  c = '\t' || c = '\n' || c = '\r' || ('\x20' ≤ c && c ≤ '\x7e') || c = '\u0085'
    || ('\u00a0' ≤ c && c.toNat ≤ 0xfffd) || 0x10000 ≤ c.toNat

/-- the value of a hexadecimal digit -/
def hexValue? (c : Char) : Option Nat :=
  if '0' ≤ c ∧ c ≤ '9' then some (c.toNat - '0'.toNat)
  else if 'a' ≤ c ∧ c ≤ 'f' then some (c.toNat - 'a'.toNat + 10)
  else if 'A' ≤ c ∧ c ≤ 'F' then some (c.toNat - 'A'.toNat + 10)
  else none

/-- carriage returns and next-line characters become line feeds, together with a line feed after
a carriage return -/
def normalise : List Char → List Char
  | [] => []
  | '\r' :: '\n' :: rest => '\n' :: normalise rest
  | c :: rest => (if c = '\r' || c = '\u0085' then '\n' else c) :: normalise rest

/-! ## cursors -/

/-- what is left of a text, and where it starts -/
structure Cursor where
  rest : List Char
  line : Nat
  column : Nat

namespace Cursor

/-- is the character at a distance one of these? -/
def sees (c : Cursor) (distance : Nat) (wanted : List Char) : Bool :=
  match c.rest[distance]? with
  | some ch => wanted.contains ch
  | none => false

/-- is there a blank, a line break or the end of the text at a distance? -/
def endsAt (c : Cursor) (distance : Nat) : Bool :=
  match c.rest[distance]? with
  | some ch => isSpace ch
  | none => true

/-- go on by characters of the same line -/
def drop (c : Cursor) (n : Nat) : Cursor := ⟨c.rest.drop n, c.line, c.column + n⟩

/-- the characters of a kind on the same line, and the place after them -/
def span (c : Cursor) (p : Char → Bool) : List Char × Cursor :=
  let taken := c.rest.takeWhile p
  (taken, ⟨c.rest.dropWhile p, c.line, c.column + taken.length⟩)

/-- over one line break, if there is one -/
def overBreak (c : Cursor) : Cursor :=
  match c.rest with
  | ch :: rest => if isBreak ch then ⟨rest, c.line + 1, 0⟩ else c
  | [] => c

/-- to the end of the line -/
def overLine (c : Cursor) : Cursor := (c.span fun ch => !isBreak ch).2

/-- nothing is lost and nothing is read twice -/
theorem span_append (c : Cursor) (p : Char → Bool) : (c.span p).1 ++ (c.span p).2.rest = c.rest :=
  List.takeWhile_append_dropWhile

end Cursor

/-- three equal marks at the start of a line bound a document -/
def boundsDocument (rest : List Char) (column : Nat) : Bool :=
  column = 0 &&
  match rest with
  | a :: b :: c :: after =>
    a = b && b = c && (a = '-' || a = '.') &&
    match after with
    | [] => true
    | d :: _ => isSpace d
  | _ => false

end SignalScript.Yaml
