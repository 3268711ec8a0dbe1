/-!
# Doubles as exact numbers

A double is read off its 64 bits, so that everything said about its decimal texts is exact
arithmetic on natural numbers.

* `Binary`          an infinity, no number, or `mantissa * 2 ^ exponent` with a sign;
* `Binary.ofBits`   the number that 64 bits stand for;
* `Binary.isFinite` neither an infinity nor `nan`.
-/

namespace SignalScript

/-- a double as an exact number; the sign of zero is kept -/
inductive Binary where
  | nan
  | infinite (negative : Bool)
  | finite (negative : Bool) (mantissa : Nat) (exponent : Int)
  deriving DecidableEq

namespace Binary

/-- sign, eleven bits of exponent, fifty-two bits of fraction -/
def ofBits (bits : UInt64) : Binary :=
  let n := bits.toNat
  let negative := n / Nat.pow 2 63 == 1
  let field := n / Nat.pow 2 52 % Nat.pow 2 11
  let fraction := n % Nat.pow 2 52
  if field = 2047 then
    if fraction = 0 then .infinite negative else .nan
  else if field = 0 then .finite negative fraction (-1074)
  else .finite negative (Nat.pow 2 52 + fraction) (Int.ofNat field - 1075)

/-- one and a half is `3 * 2 ^ 51` over `2 ^ 52` -/
example : ofBits 0x3ff8000000000000 = .finite false (3 * Nat.pow 2 51) (-52) := by decide +kernel

def ofFloat (x : Float) : Binary := ofBits x.toBits

def isFinite : Binary → Bool
  | .finite _ _ _ => true
  | _ => false

end Binary

end SignalScript
