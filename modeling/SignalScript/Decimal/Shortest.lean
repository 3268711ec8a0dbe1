import SignalScript.Decimal.Binary

/-!
# The shortest decimal that reads back

Of all decimals that round to a given double, the ones with the fewest digits are looked for, and
of those the nearest to the double is taken.

* `Decimal`           `coefficient * 10 ^ exponent`;
* `Cell`              the reals that round to one double, over a common denominator;
* `Cell.candidate`    the nearest decimal of the cell on the grid of multiples of `10 ^ k`;
* `Decimal.shortest`  the first grid, from coarse to fine, that has a candidate.
-/

namespace SignalScript

/-- `coefficient * 10 ^ exponent` -/
structure Decimal where
  coefficient : Nat
  exponent : Int
  deriving DecidableEq, Repr

/-- which neighbour is taken when two decimals are equally near -/
inductive Tie where
  | even
  | away
  deriving DecidableEq

/-- the reals that round to a double lie between `low / den` and `high / den`, the double itself
being `value / den`; the ends belong to it when `closed` -/
structure Cell where
  low : Nat
  value : Nat
  high : Nat
  den : Nat
  closed : Bool

namespace Cell

/-- the cell of `m * 2 ^ q`; below a power of two the neighbour is half as far away -/
def ofBinary (m : Nat) (q : Int) : Cell :=
  let scale := Nat.pow 2 (q - 2).toNat
  let below := if m = Nat.pow 2 52 ∧ q ≠ -1074 then 1 else 2
  { low := (4 * m - below) * scale
    value := 4 * m * scale
    high := (4 * m + 2) * scale
    den := Nat.pow 2 (2 - q).toNat
    closed := m % 2 = 0 }

/-- the exponent of the leading digit of `value / den` -/
def magnitude (c : Cell) : Int :=
  let guess : Int := (Nat.toDigits 10 c.value).length - (Nat.toDigits 10 c.den).length
  if c.den * Nat.pow 10 guess.toNat ≤ c.value * Nat.pow 10 (-guess).toNat then guess else guess - 1

/-- does `p * 10 ^ k` round to the double? -/
def contains (c : Cell) (k : Int) (p : Nat) : Bool :=
  let point := p * Nat.pow 10 k.toNat * c.den
  let scale := Nat.pow 10 (-k).toNat
  if c.closed then c.low * scale ≤ point && point ≤ c.high * scale
  else c.low * scale < point && point < c.high * scale

/-- the multiple of `10 ^ k` in the cell that is nearest to the double, if there is one: it is one
of the two multiples around the double -/
def candidate (c : Cell) (tie : Tie) (k : Int) : Option Nat :=
  let step := Nat.pow 10 k.toNat * c.den
  let value := c.value * Nat.pow 10 (-k).toNat
  let floor := value / step
  let rest := value % step
  match c.contains k floor, c.contains k (floor + 1) with
  | true, true =>
    if 2 * rest < step then some floor
    else if step < 2 * rest then some (floor + 1)
    else match tie with
      | .even => some (if floor % 2 = 0 then floor else floor + 1)
      | .away => some (floor + 1)
  | true, false => some floor
  | false, true => some (floor + 1)
  | false, false => none

end Cell

namespace Decimal

/-- the same number without zeros at the end of its coefficient -/
def trim (d : Decimal) : Decimal :=
  if h : d.coefficient = 0 ∨ d.coefficient % 10 ≠ 0 then d
  else trim ⟨d.coefficient / 10, d.exponent + 1⟩
termination_by d.coefficient
decreasing_by simp at h ⊢; omega

/-- the shortest decimal that rounds to `m * 2 ^ q`; seventeen digits always suffice -/
def shortest (tie : Tie) (m : Nat) (q : Int) : Decimal :=
  if m = 0 then ⟨0, 0⟩
  else
    let cell := Cell.ofBinary m q
    let lead := cell.magnitude
    match (List.range 17).findSome? fun (i : Nat) =>
        (cell.candidate tie (lead - Int.ofNat i)).map fun p =>
          (⟨p, lead - Int.ofNat i⟩ : Decimal) with
    | some d => d.trim
    | none => ⟨0, 0⟩

/-- the digits of the coefficient -/
def digits (d : Decimal) : List Char := Nat.toDigits 10 d.coefficient

/-- the exponent of the leading digit -/
def lead (d : Decimal) : Int := d.digits.length - 1 + d.exponent

end Decimal

end SignalScript
