import SignalScript.Text.Alphanumeric

/-!
# Variables of the environment

The variables are those of the process and those of a file of assignments, one on a line.

* `Environment.value?`   the value of a variable;
* `Environment.define`   a variable that has a value keeps it;
* `Assignment.ofLine?`   what a line of the file assigns;
* `Environment.load`     the assignments of a file, up to the first line that is broken.

A file never changes a variable that has a value: `Environment.value?_load_of_some`.
-/

namespace SignalScript

/-- names with values, the last defined first -/
abbrev Environment := List (String × String)

namespace Environment

def value? (name : String) (env : Environment) : Option String := env.lookup name

/-- give a variable a value, unless it has one -/
def define (name value : String) (env : Environment) : Environment :=
  if (env.value? name).isSome then env else (name, value) :: env

theorem value?_define_of_some {name other kept : String} {env : Environment} (value : String)
    (h : env.value? other = some kept) : (env.define name value).value? other = some kept := by
  by_cases hs : (env.value? name).isSome
  · simp [define, hs, h]
  · have hne : (other == name) = false := by
      apply Bool.eq_false_iff.mpr
      intro he
      rw [beq_iff_eq] at he
      subst he
      simp [h] at hs
    simp only [define, hs]
    simpa [value?, List.lookup_cons, hne] using h

end Environment

/-! ## values -/

namespace Assignment

/-- what the reader of a value is in the middle of -/
inductive Mode where
  | text
  | strong
  | escaped
  | name (seen : List Char)
  | braced (seen : List Char)
  | trailing
  deriving DecidableEq

/-- the value of a variable that a text refers to; nothing if it has none -/
def referred (env : Environment) (name : List Char) : List Char :=
  ((env.value? (String.ofList name)).getD "").toList

/-- what a character after a backslash stands for -/
def unescape? (c : Char) : Option Char :=
  if c = 'n' then some '\n'
  else if ['\\', '\'', '"', '$', ' '].contains c then some c
  else none

/-- the rest of a value, inside weak quotes or not: strong quotes keep everything, a backslash
takes away the meaning of a character, a dollar sign refers to a variable; outside of quotes a
blank ends the value, and only a comment may follow -/
def value? (env : Environment) (weak : Bool) : Mode → List Char → Option (List Char)
  | .text, [] | .escaped, [] => if weak then none else some []
  | .name seen, [] => if weak then none else some (referred env seen)
  | .trailing, [] => some []
  | .strong, [] | .braced _, [] => none
  | .trailing, c :: rest =>
    if c = '#' then some []
    else if c = ' ' ∨ c = '\t' then value? env weak .trailing rest
    else none
  | .escaped, c :: rest =>
    match unescape? c with
    | some d => (value? env weak .text rest).map (d :: ·)
    | none => none
  | .strong, c :: rest =>
    if c = '\'' then value? env weak .text rest else (value? env weak .strong rest).map (c :: ·)
  | .name seen, c :: rest =>
    if Text.isAlphanumeric c then value? env weak (.name (seen ++ [c])) rest
    else if c = '{' ∧ seen = [] then value? env weak (.braced []) rest
    else if c = '$' then (value? env weak (.name []) rest).map (referred env seen ++ ·)
    else (value? env weak .text rest).map (referred env seen ++ c :: ·)
  | .braced seen, c :: rest =>
    if c = '}' then (value? env weak .text rest).map (referred env seen ++ ·)
    else value? env weak (.braced (seen ++ [c])) rest
  | .text, c :: rest =>
    if c = '$' then value? env weak (.name []) rest
    else if c = '\\' then value? env weak .escaped rest
    else if c = '"' then value? env (!weak) .text rest
    else if weak then (value? env weak .text rest).map (c :: ·)
    else if c = '\'' then value? env weak .strong rest
    else if c = ' ' ∨ c = '\t' then value? env weak .trailing rest
    else (value? env weak .text rest).map (c :: ·)

/-! ## lines -/

/-- white space of any kind -/
def isSpace (c : Char) : Bool :=
  ('\t' ≤ c && c ≤ '\r') || c = ' ' || c = '\u0085' || c = '\u00a0' || c = '\u1680' ||
    ('\u2000' ≤ c && c ≤ '\u200a') || c = '\u2028' || c = '\u2029' || c = '\u202f' ||
    c = '\u205f' || c = '\u3000'

def isNameStart (c : Char) : Bool := c.isAlpha || c = '_'

def isNameChar (c : Char) : Bool := c.isAlphanum || c = '_' || c = '.'

/-- is nothing left of a line but a comment? -/
def isDone : List Char → Bool
  | [] => true
  | c :: _ => c = '#'

/-- a name, and what follows it and the space after it -/
def name? (line : List Char) : Option (String × List Char) :=
  match line with
  | c :: _ =>
    if isNameStart c then
      some (String.ofList (line.takeWhile isNameChar),
        (line.dropWhile isNameChar).dropWhile isSpace)
    else none
  | [] => none

/-- a name and the text after its equals sign; `export` may stand before the name -/
def split? (line : List Char) : Option (String × List Char) :=
  match name? line with
  | some (name, '=' :: rest) => some (name, rest.dropWhile isSpace)
  | some ("export", rest) =>
    match name? rest with
    | some (name, '=' :: rest) => some (name, rest.dropWhile isSpace)
    | _ => none
  | _ => none

/-- the line without space before and after it -/
def trim (line : List Char) : List Char :=
  ((line.reverse.dropWhile isSpace).reverse).dropWhile isSpace

/-- what a line assigns; a blank line and a comment assign nothing, a broken line is no line -/
def ofLine? (env : Environment) (line : List Char) : Option (Option (String × String)) :=
  let line := trim line
  if isDone line then some none
  else
    match split? line with
    | none => none
    | some (name, rest) =>
      if isDone rest then some (some (name, ""))
      else (value? env false .text rest).map fun value => some (name, String.ofList value)

end Assignment

namespace Environment

/-- the assignments of lines, in order, up to the first line that is broken -/
def loadLines (env : Environment) : List (List Char) → Environment
  | [] => env
  | line :: rest =>
    match Assignment.ofLine? env line with
    | some (some (name, value)) => loadLines (env.define name value) rest
    | some none => loadLines env rest
    | none => env

/-- the names after the dollar signs of a text -/
def referredNames : List Char → List String
  | [] => []
  | '$' :: '{' :: rest => String.ofList (rest.takeWhile (· ≠ '}')) :: referredNames rest
  | '$' :: rest => String.ofList (rest.takeWhile Text.isAlphanumeric) :: referredNames rest
  | _ :: rest => referredNames rest

/-- the names that the lines of a text assign to -/
def assignedNames (text : List Char) : List String :=
  (text.splitOn '\n').filterMap fun line =>
    (Assignment.split? (Assignment.trim line)).map fun (name, _) => name

/-- the names that a text assigns to or refers to -/
def mentioned (text : String) : List String :=
  assignedNames text.toList ++ referredNames text.toList

/-- the assignments of a text -/
def load (env : Environment) (text : String) : Environment :=
  env.loadLines (text.toList.splitOn '\n')

theorem value?_loadLines_of_some {other kept : String} (lines : List (List Char))
    {env : Environment} (h : env.value? other = some kept) :
    (env.loadLines lines).value? other = some kept := by
  induction lines generalizing env with
  | nil => exact h
  | cons line rest ih =>
    simp only [loadLines]
    split
    · exact ih (value?_define_of_some _ h)
    · exact ih h
    · exact h

theorem value?_load_of_some {other kept : String} (text : String) {env : Environment}
    (h : env.value? other = some kept) : (env.load text).value? other = some kept :=
  value?_loadLines_of_some _ h

end Environment

end SignalScript
