import SignalScript.Decimal.Shortest

/-!
# Styles of writing a number

A style says how the shortest digits of a double are laid out. The styles of this library differ
in where positional notation ends, in the mark of a whole number and in the words for what is not
finite.

* `NumberStyle.write`  the text of a double in a style;
* `plain`, `pointed`   always positional, without and with a mark on whole numbers;
* `scalar`, `json`     the styles of a script scalar and of `JSON` text.
-/

namespace SignalScript

structure NumberStyle where
  /-- the neighbour taken of two equally near shortest decimals -/
  tie : Tie
  /-- the range of exponents of the leading digit that is written positionally, if bounded -/
  positional : Option (Int × Int)
  /-- whole numbers written positionally end in a point and a zero -/
  pointed : Bool
  /-- positive exponents carry a sign -/
  plus : Bool
  nan : String
  infinity : String
  minusInfinity : String

namespace NumberStyle

/-- digits with the point `places` from the end of `digits` -/
def positionalText (pointed : Bool) (digits : List Char) (exponent : Int) : List Char :=
  if 0 ≤ exponent then
    digits ++ List.replicate exponent.toNat '0' ++ (if pointed then ['.', '0'] else [])
  else
    let places := (-exponent).toNat
    if places < digits.length then
      digits.take (digits.length - places) ++ '.' :: digits.drop (digits.length - places)
    else '0' :: '.' :: List.replicate (places - digits.length) '0' ++ digits

/-- one digit before the point, the others after it, and the exponent of the first -/
def scientificText (plus : Bool) (digits : List Char) (lead : Int) : List Char :=
  let mantissa := match digits with
    | first :: second :: more => first :: '.' :: second :: more
    | short => short
  let exponent := if lead < 0 then '-' :: Nat.toDigits 10 lead.natAbs
    else (if plus then ['+'] else []) ++ Nat.toDigits 10 lead.natAbs
  mantissa ++ 'e' :: exponent

/-- is a leading digit at `lead` written positionally? -/
def isPositional (style : NumberStyle) (lead : Int) : Bool :=
  match style.positional with
  | none => true
  | some (low, high) => decide (low ≤ lead) && decide (lead ≤ high)

def writeDecimal (style : NumberStyle) (d : Decimal) : List Char :=
  if style.isPositional d.lead then positionalText style.pointed d.digits d.exponent
  else scientificText style.plus d.digits d.lead

def writeBinary (style : NumberStyle) : Binary → String
  | .nan => style.nan
  | .infinite negative => if negative then style.minusInfinity else style.infinity
  | .finite negative m q =>
    String.ofList ((if negative then ['-'] else [])
      ++ style.writeDecimal (Decimal.shortest style.tie m q))

/-- the text of a double -/
def write (style : NumberStyle) (x : Float) : String := style.writeBinary (.ofFloat x)

/-- positional for every exponent; of two equally near decimals the larger one -/
def plain : NumberStyle where
  tie := .away
  positional := none
  pointed := false
  plus := false
  nan := "NaN"
  infinity := "inf"
  minusInfinity := "-inf"

/-- `plain`, with a point in every number -/
def pointedPlain : NumberStyle := { plain with pointed := true }

/-- a number as a scalar of a script -/
def scalar : NumberStyle where
  tie := .even
  positional := some (-5, 15)
  pointed := true
  plus := false
  nan := ".nan"
  infinity := ".inf"
  minusInfinity := "-.inf"

/-- a number in `JSON`, which has no words for what is not finite -/
def json : NumberStyle where
  tie := .even
  positional := some (-5, 15)
  pointed := true
  plus := true
  nan := "null"
  infinity := "null"
  minusInfinity := "null"

end NumberStyle

end SignalScript
