import SignalScript.Decimal.Binary

/-!
# A fixed number of places

* `roundDiv`   a quotient rounded to the nearest whole number, a half to the even neighbour;
* `Places.write`  a double with a fixed number of digits after the point.
-/

namespace SignalScript

/-- `num / den` to the nearest whole number, a half to the even neighbour -/
def roundDiv (num den : Nat) : Nat :=
  let floor := num / den
  let rest := num % den
  if 2 * rest < den then floor
  else if den < 2 * rest then floor + 1
  else if floor % 2 = 0 then floor else floor + 1

/-- an exact quotient is not changed -/
theorem roundDiv_mul (n d : Nat) (hd : 0 < d) : roundDiv (n * d) d = n := by
  simp [roundDiv, Nat.mul_div_cancel n hd, hd]

namespace Places

/-- a number of units in the last of `places` digits after the point -/
def writeUnits (places units : Nat) : List Char :=
  let fraction := Nat.toDigits 10 (units % Nat.pow 10 places)
  Nat.toDigits 10 (units / Nat.pow 10 places) ++
    (if places = 0 then [] else '.' :: List.replicate (places - fraction.length) '0' ++ fraction)

def writeBinary (places : Nat) : Binary → String
  | .nan => "NaN"
  | .infinite negative => if negative then "-inf" else "inf"
  | .finite negative m q =>
    let units := roundDiv (m * Nat.pow 10 places * Nat.pow 2 q.toNat) (Nat.pow 2 (-q).toNat)
    String.ofList ((if negative then ['-'] else []) ++ writeUnits places units)

/-- a double with `places` digits after the point -/
def write (places : Nat) (x : Float) : String := writeBinary places (.ofFloat x)

end Places

end SignalScript
