import SignalScript.Yaml.Tag

/-!
# The tokens of a YAML text

* `Token`        indicators, directives, properties and scalars;
* `scanName`, `scanTag`, `scanDirective`  the tokens that are not scalars and longer than an
                 indicator.
-/

namespace SignalScript.Yaml

inductive Token where
  | streamEnd
  | version (major minor : Nat)
  | handle (name : String) (replacement : Octets)
  | documentStart
  | documentEnd
  | blockSequence
  | blockMapping
  | blockEnd
  | flowSequence
  | flowSequenceEnd
  | flowMapping
  | flowMappingEnd
  | entry
  | comma
  | key
  | value
  | alias (name : String)
  | anchor (name : String)
  | tag (handle : String) (suffix : Octets)
  | scalar (plain : Bool) (text : String)
  deriving DecidableEq

/-! ## anchors and aliases -/

/-- the name after the mark of an anchor or an alias -/
def scanName (c : Cursor) : Except Defect (String × Cursor) :=
  let (name, after) := (c.drop 1).span isWord
  if name.isEmpty || !(after.endsAt 0 || after.sees 0 ['?', ':', ',', ']', '}', '%', '@', '\x60'])
  then .error .name
  else .ok (String.ofList name, after)

/-! ## tags -/

/-- a character of a tag that stands for itself -/
def isTagChar (verbatim : Bool) (c : Char) : Bool :=
  isWord c || (verbatim && [',', '[', ']'].contains c) ||
    [';', '/', '?', ':', '@', '&', '=', '+', '$', '.', '!', '~', '*', '\'', '(', ')'].contains c

/-- how many octets of a character follow its first -/
def followers? (octet : Nat) : Option Nat :=
  if octet < 0x80 then some 0
  else if octet / 0x20 = 6 then some 1
  else if octet / 0x10 = 14 then some 2
  else if octet / 0x08 = 30 then some 3
  else none

/-- the octets of a tag; an octet may be escaped by a percent sign and two digits. After the first
escaped octet of a character the others are escaped as well; `owed` of them are still to come. -/
def scanTagOctets (verbatim : Bool) (owed : Nat) : List Char → Except Defect (Octets × List Char)
  | '%' :: a :: b :: rest =>
    match hexValue? a, hexValue? b with
    | some high, some low =>
      let octet := 16 * high + low
      let more? :=
        if owed = 0 then followers? octet
        else if octet / 0x40 = 2 then some (owed - 1)
        else none
      match more? with
      | none => .error .tag
      | some more =>
        match scanTagOctets verbatim more rest with
        | .ok (octets, after) => .ok (octet.toUInt8 :: octets, after)
        | .error defect => .error defect
    | _, _ => .error .tag
  | c :: rest =>
    if owed ≠ 0 || c = '%' then .error .tag
    else if isTagChar verbatim c then
      match scanTagOctets verbatim 0 rest with
      | .ok (octets, after) => .ok (c.toNat.toUInt8 :: octets, after)
      | .error defect => .error defect
    else .ok ([], c :: rest)
  | [] => if owed ≠ 0 then .error .tag else .ok ([], [])

/-- the octets of a tag at a place -/
def scanTagText (verbatim : Bool) (c : Cursor) : Except Defect (Octets × Cursor) :=
  match scanTagOctets verbatim 0 c.rest with
  | .ok (octets, after) => .ok (octets, ⟨after, c.line, c.column + (c.rest.length - after.length)⟩)
  | .error defect => .error defect

/-- `!`, word characters, and perhaps another `!` -/
def scanHandle (c : Cursor) : List Char × Cursor :=
  let (word, after) := (c.drop 1).span isWord
  if after.sees 0 ['!'] then ('!' :: word ++ ['!'], after.drop 1) else ('!' :: word, after)

/-- a tag at its `!`: between angles, after a named handle, or after the plain handle. With nothing
after it the plain handle is a tag itself. -/
def scanTag (flow : Bool) (c : Cursor) : Except Defect (Token × Cursor) :=
  let scanned : Except Defect (Token × Cursor) :=
    if c.sees 1 ['<'] then
      match scanTagText true (c.drop 2) with
      | .ok (suffix, after) =>
        if suffix.isEmpty || !after.sees 0 ['>'] then .error .tag
        else .ok (.tag "" suffix.beforeZero, after.drop 1)
      | .error defect => .error defect
    else
      let (handle, after) := scanHandle c
      match scanTagText false after with
      | .error defect => .error defect
      | .ok (suffix, last) =>
        if 2 ≤ handle.length ∧ handle.getLast? = some '!' then
          if suffix.isEmpty then .error .tag
          else .ok (.tag (String.ofList handle) suffix.beforeZero, last)
        else
          let whole := (Octets.ofText (String.ofList (handle.drop 1)) ++ suffix).beforeZero
          if whole.isEmpty then .ok (.tag "" (.ofText "!"), last)
          else .ok (.tag "!" whole, last)
  match scanned with
  | .ok (token, after) =>
    if after.endsAt 0 || (flow && after.sees 0 [',']) then .ok (token, after) else .error .tag
  | .error defect => .error defect

/-! ## directives -/

/-- a part of a version: one to nine digits -/
def scanVersionPart (c : Cursor) : Except Defect (Nat × Cursor) :=
  let (digits, after) := c.span Char.isDigit
  if digits.isEmpty || 9 < digits.length then .error .directive
  else .ok (digits.foldl (fun n d => 10 * n + (d.toNat - '0'.toNat)) 0, after)

/-- what follows the name of a directive -/
def scanDirectiveBody (name : String) (c : Cursor) : Except Defect (Token × Cursor) :=
  let body := (c.span isBlank).2
  if name = "YAML" then do
    let (major, dot) ← scanVersionPart body
    if dot.sees 0 ['.'] then
      let (minor, after) ← scanVersionPart (dot.drop 1)
      .ok (.version major minor, after)
    else .error .directive
  else if name = "TAG" then
    let (handle, gap) := scanHandle body
    let named := handle = ['!'] ∨ (2 ≤ handle.length ∧ handle.getLast? = some '!')
    if !body.sees 0 ['!'] || !decide named || !(gap.rest.head?.any isBlank) then .error .directive
    else
      match scanTagText true (gap.span isBlank).2 with
      | .ok (replacement, after) =>
        if replacement.isEmpty || !after.endsAt 0 then .error .directive
        else .ok (.handle (String.ofList handle) replacement.beforeZero, after)
      | .error defect => .error defect
  else .error .directive

/-- a directive at its `%`, with the rest of its line -/
def scanDirective (c : Cursor) : Except Defect (Token × Cursor) :=
  let (name, after) := (c.drop 1).span isWord
  if name.isEmpty || !after.endsAt 0 then .error .directive
  else
    match scanDirectiveBody (String.ofList name) after with
    | .error defect => .error defect
    | .ok (token, last) =>
      let gap := (last.span isBlank).2
      let rest := if gap.sees 0 ['#'] then gap.overLine else gap
      if rest.rest.head?.all isBreak then .ok (token, rest.overBreak) else .error .directive

end SignalScript.Yaml
