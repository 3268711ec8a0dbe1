import SignalScript.Yaml.Cursor

/-!
# The text of a scalar

Scalars are written plainly, between quotes, or as a block of indented lines. Within plain and
quoted scalars line breaks are folded.

* `Gap`          blanks or line breaks between two parts of a scalar, and what they stand for;
* `scanPlain`    a plain scalar, up to an indicator or to less indentation;
* `scanQuoted`   a scalar between single or double quotes;
* `scanBlock`    a block of lines, kept or folded.
-/

namespace SignalScript.Yaml

/-! ## folding -/

/-- what lies between two parts of a scalar; `escaped` breaks follow a backslash -/
inductive Gap where
  | none
  | blanks (cs : List Char)
  | breaks (escaped : Bool) (cs : List Char)

namespace Gap

/-- blanks count only on the line where the text before them stands -/
def addBlank (c : Char) : Gap → Gap
  | .none => .blanks [c]
  | .blanks cs => .blanks (cs ++ [c])
  | gap => gap

/-- the first break drops the blanks before it -/
def addBreak (c : Char) : Gap → Gap
  | .breaks escaped cs => .breaks escaped (cs ++ [c])
  | _ => .breaks false [c]

/-- a single line feed becomes a blank; of several the first is dropped -/
def fold : List Char → List Char
  | ['\n'] => [' ']
  | '\n' :: others => others
  | cs => cs

/-- what the gap stands for in the text -/
def text : Gap → List Char
  | .none => []
  | .blanks cs => cs
  | .breaks false cs => fold cs
  | .breaks true cs => cs

def isNone : Gap → Bool
  | .none => true
  | _ => false

def isBroken : Gap → Bool
  | .breaks _ _ => true
  | _ => false

end Gap

/-! ## plain scalars -/

/-- does a plain scalar end at these characters? A colon in a flow collection may not stand
directly before another indicator. -/
def endsPlain (flow : Bool) (c : Char) (rest : List Char) : Except Defect Bool :=
  let next := rest.head?
  if flow && c = ':' && next.any [',', '?', '[', ']', '{', '}'].contains then .error .character
  else .ok ((c = ':' && next.all isSpace) || (flow && [',', '[', ']', '{', '}'].contains c))

/-- a plain scalar after the text `done` and a gap: its text, whether it ends at the start of a
line, and the place after it -/
def scanPlainFrom (flow : Bool) (indent : Int) (done : List Char) (gap : Gap) :
    List Char → Nat → Nat → Except Defect (List Char × Bool × Cursor)
  | [], line, column => .ok (done.reverse, gap.isBroken, ⟨[], line, column⟩)
  | c :: rest, line, column =>
    if isBlank c then
      if gap.isBroken && (column : Int) < indent && c = '\t' then .error .indentation
      else scanPlainFrom flow indent done (gap.addBlank c) rest line (column + 1)
    else if isBreak c then scanPlainFrom flow indent done (gap.addBreak c) rest (line + 1) 0
    else if !gap.isNone && ((!flow && (column : Int) < indent) || boundsDocument (c :: rest) column
        || c = '#') then .ok (done.reverse, gap.isBroken, ⟨c :: rest, line, column⟩)
    else
      match endsPlain flow c rest with
      | .error defect => .error defect
      | .ok true => .ok (done.reverse, gap.isBroken, ⟨c :: rest, line, column⟩)
      | .ok false =>
        scanPlainFrom flow indent (c :: gap.text.reverse ++ done) .none rest line (column + 1)

/-- a plain scalar; `indent` is the least column of its further lines -/
def scanPlain (flow : Bool) (indent : Int) (c : Cursor) :
    Except Defect (List Char × Bool × Cursor) :=
  scanPlainFrom flow indent [] .none c.rest c.line c.column

/-! ## quoted scalars -/

/-- the character that a letter after a backslash stands for -/
def escapeChar? : Char → Option Char
  | '0' => some '\x00'
  | 'a' => some '\x07'
  | 'b' => some '\x08'
  | 't' => some '\t'
  | '\t' => some '\t'
  | 'n' => some '\n'
  | 'v' => some '\x0b'
  | 'f' => some '\x0c'
  | 'r' => some '\r'
  | 'e' => some '\x1b'
  | ' ' => some ' '
  | '"' => some '"'
  | '/' => some '/'
  | '\\' => some '\\'
  | 'N' => some '\u0085'
  | '_' => some '\u00a0'
  | 'L' => some '\u2028'
  | 'P' => some '\u2029'
  | _ => none

/-- how many digits follow a letter after a backslash -/
def escapeDigits? : Char → Option Nat
  | 'x' => some 2
  | 'u' => some 4
  | 'U' => some 8
  | _ => none

/-- where a double-quoted scalar stands within an escape -/
inductive Escape where
  | none
  | letter
  | digits (owed code : Nat)

/-- a quoted scalar after its first quote and the text `done` -/
def scanQuotedFrom (single : Bool) (done : List Char) (gap : Gap) (escape : Escape) :
    List Char → Nat → Nat → Except Defect (List Char × Cursor)
  | [], _, _ => .error .unclosedQuote
  | c :: rest, line, column =>
    match escape with
    | .digits owed code =>
      match hexValue? c with
      | none => .error .escape
      | some digit =>
        let code := 16 * code + digit
        if 1 < owed then
          scanQuotedFrom single done gap (.digits (owed - 1) code) rest line (column + 1)
        else if code.isValidChar then
          scanQuotedFrom single (Char.ofNat code :: done) gap .none rest line (column + 1)
        else .error .escape
    | .letter =>
      if isBreak c then scanQuotedFrom single done (.breaks true []) .none rest (line + 1) 0
      else
        match escapeChar? c, escapeDigits? c with
        | some meant, _ => scanQuotedFrom single (meant :: done) gap .none rest line (column + 1)
        | none, some owed => scanQuotedFrom single done gap (.digits owed 0) rest line (column + 1)
        | none, none => .error .escape
    | .none =>
      if isBlank c then
        scanQuotedFrom single done (gap.addBlank c) .none rest line (column + 1)
      else if isBreak c then scanQuotedFrom single done (gap.addBreak c) .none rest (line + 1) 0
      else if boundsDocument (c :: rest) column then .error .unclosedQuote
      else
        let done := gap.text.reverse ++ done
        if single && c = '\'' then
          match rest with
          | '\'' :: more => scanQuotedFrom single ('\'' :: done) .none .none more line (column + 2)
          | _ => .ok (done.reverse, ⟨rest, line, column + 1⟩)
        else if !single && c = '"' then .ok (done.reverse, ⟨rest, line, column + 1⟩)
        else if !single && c = '\\' then
          scanQuotedFrom single done .none .letter rest line (column + 1)
        else scanQuotedFrom single (c :: done) .none .none rest line (column + 1)

/-- a scalar at its first quote -/
def scanQuoted (single : Bool) (c : Cursor) : Except Defect (List Char × Cursor) :=
  scanQuotedFrom single [] .none .none (c.rest.drop 1) c.line (c.column + 1)

/-! ## blocks of lines -/

/-- what becomes of the line breaks at the end of a block -/
inductive Chomping where
  | strip
  | clip
  | keep
  deriving DecidableEq

/-- the marks after the indicator of a block, in any order: chomping and indentation -/
def scanBlockMarks (c : Cursor) : Except Defect (Chomping × Nat × Cursor) :=
  let chomping? (c : Cursor) : Option Chomping :=
    match c.rest with
    | '+' :: _ => some .keep
    | '-' :: _ => some .strip
    | _ => none
  let increment? (c : Cursor) : Option Nat :=
    match c.rest with
    | d :: _ => if d.isDigit then some (d.toNat - '0'.toNat) else none
    | [] => none
  let marks := match chomping? c with
    | some chomping =>
      match increment? (c.drop 1) with
      | some n => (chomping, some n, c.drop 2)
      | none => (chomping, none, c.drop 1)
    | none =>
      match increment? c with
      | some n =>
        match chomping? (c.drop 1) with
        | some chomping => (chomping, some n, c.drop 2)
        | none => (.clip, some n, c.drop 1)
      | none => (.clip, none, c)
  match marks with
  | (_, some 0, _) => .error .blockHeader
  | (chomping, increment, after) => .ok (chomping, increment.getD 0, after)

/-- the line breaks before the next line that is not empty, the greatest indentation seen, and
that line; an `indent` of zero is not known yet -/
def scanBlockBreaks (indent : Nat) (greatest : Nat) (breaks : List Char) :
    List Char → Nat → Nat → Except Defect (List Char × Nat × Cursor)
  | [], line, column => .ok (breaks.reverse, max greatest column, ⟨[], line, column⟩)
  | c :: rest, line, column =>
    if (indent = 0 || column < indent) && c = ' ' then
      scanBlockBreaks indent greatest breaks rest line (column + 1)
    else if (indent = 0 || column < indent) && c = '\t' then .error .indentation
    else if isBreak c then
      scanBlockBreaks indent (max greatest column) (c :: breaks) rest (line + 1) 0
    else .ok (breaks.reverse, max greatest column, ⟨c :: rest, line, column⟩)

/-- the lines of a block after the text `done`: the break before them, the empty lines before
them, and whether the line before started with a blank. Each line is at least one character. -/
def scanBlockLines (literal : Bool) (indent : Nat) :
    Nat → List Char → List Char → List Char → Bool → Cursor →
      Except Defect (List Char × List Char × List Char × Cursor)
  | 0, done, leading, trailing, _, c => .ok (done, leading, trailing, c)
  | fuel + 1, done, leading, trailing, wasBlank, c =>
    if c.column ≠ indent || c.rest.isEmpty then .ok (done, leading, trailing, c)
    else
      let blank := c.rest.head?.any isBlank
      let joint :=
        if !literal && leading = ['\n'] && !wasBlank && !blank then
          (if trailing.isEmpty then [' '] else trailing)
        else leading ++ trailing
      let (content, atBreak) := c.span fun ch => !isBreak ch
      let next := atBreak.overBreak
      match scanBlockBreaks indent 0 [] next.rest next.line next.column with
      | .error defect => .error defect
      | .ok (breaks, _, after) =>
        scanBlockLines literal indent fuel (done ++ joint ++ content) (atBreak.rest.take 1) breaks
          blank after

/-- a block of lines at its indicator, inside a collection indented by `outer` -/
def scanBlock (literal : Bool) (outer : Int) (c : Cursor) : Except Defect (List Char × Cursor) :=
  match scanBlockMarks (c.drop 1) with
  | .error defect => .error defect
  | .ok (chomping, increment, marked) =>
    let gap := (marked.span isBlank).2
    let header := if gap.sees 0 ['#'] then gap.overLine else gap
    if !header.rest.head?.all isBreak then .error .blockHeader
    else
      let first := header.overBreak
      let known := if increment = 0 then 0 else (max outer 0).toNat + increment
      match scanBlockBreaks known 0 [] first.rest first.line first.column with
      | .error defect => .error defect
      | .ok (breaks, greatest, start) =>
        let indent := if known = 0 then max (max greatest (outer + 1).toNat) 1 else known
        match scanBlockLines literal indent (start.rest.length + 1) [] [] breaks false start with
        | .error defect => .error defect
        | .ok (text, leading, trailing, after) =>
          let tail := match chomping with
            | .strip => []
            | .clip => leading
            | .keep => leading ++ trailing
          .ok (text ++ tail, after)

end SignalScript.Yaml
