/-!
# Properties of characters as tables

A property of characters that holds over ranges is kept as the code points at which it changes, in
order: it starts at the first, ends before the second, and so on.

* `insideBounds`        does the property hold at a code point?
* `insideBounds_cons`   each boundary that is reached turns the property over.
-/

namespace SignalScript.Text

/-- is the number of boundaries up to `n` odd? -/
def insideBounds (bounds : List Nat) (n : Nat) : Bool :=
  (bounds.takeWhile (· ≤ n)).length % 2 = 1

theorem insideBounds_nil (n : Nat) : insideBounds [] n = false := rfl

/-- a boundary turns over what the later ones say, from itself on -/
theorem insideBounds_cons (b : Nat) (bounds : List Nat) (n : Nat) :
    insideBounds (b :: bounds) n = (decide (b ≤ n) && !insideBounds bounds n) := by
  by_cases h : b ≤ n
  · have parity : ∀ k : Nat, decide ((k + 1) % 2 = 1) = !decide (k % 2 = 1) := by
      intro k
      rcases Nat.mod_two_eq_zero_or_one k with hk | hk <;> simp [Nat.add_mod, hk]
    simp [insideBounds, h, parity]
  · simp [insideBounds, h]

end SignalScript.Text
