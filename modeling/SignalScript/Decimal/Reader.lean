import SignalScript.Decimal.Shortest

/-!
# Reading decimal numbers

* `Decimal.toFloat`     the double nearest to a decimal;
* `Decimal.read?`       an optional sign, digits with an optional point, an optional exponent;
* `Decimal.readFloat?`  the same, and the words for infinities and for what is no number.
-/

namespace SignalScript

/-- the value of a list of decimal digits -/
def digitsValue (cs : List Char) : Nat :=
  cs.foldl (fun n c => 10 * n + (c.toNat - '0'.toNat)) 0

namespace Decimal

/-- the double nearest to `d`; far outside the range of doubles no power is computed -/
def toFloat (d : Decimal) : Float :=
  if d.coefficient = 0 then 0.0
  else if 310 < d.lead then Float.ofBits 0x7ff0000000000000
  else if d.lead < -330 then 0.0
  else Float.ofScientific d.coefficient (d.exponent < 0) d.exponent.natAbs

/-- the exponent after `e`: an optional sign and at least one digit -/
def readExponent? (cs : List Char) : Option Int :=
  let (negative, digits) := match cs with
    | '-' :: rest => (true, rest)
    | '+' :: rest => (false, rest)
    | rest => (false, rest)
  if digits.isEmpty || digits.any (fun c => !c.isDigit) then none
  else some (if negative then -(digitsValue digits : Int) else digitsValue digits)

/-- digits, a point among them or none, and an exponent or none -/
def readUnsigned? (cs : List Char) : Option Decimal :=
  let whole := cs.takeWhile Char.isDigit
  let afterWhole := cs.dropWhile Char.isDigit
  let (fraction, tail) := match afterWhole with
    | '.' :: rest => (rest.takeWhile Char.isDigit, rest.dropWhile Char.isDigit)
    | rest => ([], rest)
  if whole.isEmpty && fraction.isEmpty then none
  else
    let exponent? := match tail with
      | [] => some 0
      | c :: rest => if c = 'e' ∨ c = 'E' then readExponent? rest else none
    exponent?.map fun e => ⟨digitsValue (whole ++ fraction), e - fraction.length⟩

/-- a sign or none: is it a minus, and what follows it -/
def splitSign : List Char → Bool × List Char
  | '-' :: rest => (true, rest)
  | '+' :: rest => (false, rest)
  | rest => (false, rest)

/-- a finite decimal number, read as a double -/
def read? (cs : List Char) : Option Float :=
  let (negative, rest) := splitSign cs
  (readUnsigned? rest).map fun d => if negative then -d.toFloat else d.toFloat

/-- a decimal number, or one of the words `inf`, `infinity` and `nan` in letters of any case -/
def readFloat? (cs : List Char) : Option Float :=
  let (negative, rest) := splitSign cs
  let word := String.ofList (rest.map Char.toLower)
  if word = "inf" ∨ word = "infinity" then
    some (Float.ofBits (if negative then 0xfff0000000000000 else 0x7ff0000000000000))
  else if word = "nan" then some (Float.ofBits 0x7ff8000000000000)
  else read? cs

end Decimal

end SignalScript
