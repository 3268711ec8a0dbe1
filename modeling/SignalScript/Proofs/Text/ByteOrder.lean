import Mathlib.Algebra.Group.Nat.Defs
import Mathlib.Tactic.SplitIfs

/-!
# The order of texts and the order of their bytes

Texts are compared by their characters. Compared by the bytes of their `UTF-8` encodings they stand
in the same order: a character is written as a number to the base 64 behind a byte that also tells
how many digits follow, so of two characters the smaller one has the smaller byte at the first place
where they differ.

* `Text.bytes`             the bytes of a text;
* `Text.Undercuts`         the first byte in which two lists differ is smaller in the first;
* `Text.digits`            how a character is written;
* `Text.undercuts_encode`  a smaller character undercuts a larger one;
* `Text.bytes_lt`          the order of texts is that of their bytes.
-/

namespace SignalScript.Text

/-- the bytes of a text in `UTF-8` -/
def bytes (s : String) : List UInt8 := s.toUTF8.data.toList

theorem bytes_eq (s : String) : bytes s = s.toList.flatMap String.utf8EncodeChar := by
  have h : s.toUTF8 = (s.toList.flatMap String.utf8EncodeChar).toByteArray :=
    String.utf8Encode_toList.symm
  rw [bytes, h, List.toList_data_toByteArray]

/-! ## the first byte that differs -/

/-- at the first byte in which they differ the first list has the smaller one; both have it -/
def Undercuts : List UInt8 → List UInt8 → Prop
  | a :: as, b :: bs => a < b ∨ a = b ∧ Undercuts as bs
  | _, _ => False

namespace Undercuts

variable {a b : UInt8} {as bs : List UInt8}

/-- what follows does not matter then -/
theorem append (h : Undercuts as bs) (cs ds : List UInt8) : Undercuts (as ++ cs) (bs ++ ds) := by
  induction as generalizing bs with
  | nil => exact absurd h (by simp [Undercuts])
  | cons a as ih =>
    cases bs with
    | nil => exact absurd h (by simp [Undercuts])
    | cons b bs =>
      obtain hlt | ⟨heq, hrest⟩ := h
      · exact .inl hlt
      · exact .inr ⟨heq, ih hrest⟩

/-- a last byte decides when all before it are the same -/
theorem last (h : a < b) (as : List UInt8) : Undercuts (as ++ [a]) (as ++ [b]) := by
  induction as with
  | nil => exact .inl h
  | cons c as ih => exact .inr ⟨rfl, ih⟩

theorem lt (h : Undercuts as bs) : as < bs := by
  induction as generalizing bs with
  | nil => exact absurd h (by simp [Undercuts])
  | cons a as ih =>
    cases bs with
    | nil => exact absurd h (by simp [Undercuts])
    | cons b bs =>
      rw [List.cons_lt_cons_iff]
      obtain hlt | ⟨heq, hrest⟩ := h
      · exact .inl hlt
      · exact .inr ⟨heq, ih hrest⟩

end Undercuts

/-! ## how a character is written -/

theorem ofNat_lt_ofNat {m n : Nat} (hn : n < 256) (h : m < n) : UInt8.ofNat m < UInt8.ofNat n :=
  (UInt8.ofNat_lt_iff_lt (Nat.lt_trans h hn) hn).2 h

/-- `n` with its last `k` digits to the base 64 in a byte each, what stands before them added to
the leading byte -/
def digits (lead : Nat) : Nat → Nat → List UInt8
  | 0, n => [UInt8.ofNat (n + lead)]
  | k + 1, n => digits lead k (n / 64) ++ [UInt8.ofNat (n % 64 + 0x80)]

theorem digits_eq_cons (lead k n : Nat) :
    ∃ rest, digits lead k n = UInt8.ofNat (n / 64 ^ k + lead) :: rest := by
  induction k generalizing n with
  | zero => exact ⟨[], by rw [Nat.pow_zero, Nat.div_one, digits]⟩
  | succ k ih =>
    obtain ⟨rest, hrest⟩ := ih (n / 64)
    exact ⟨rest ++ [UInt8.ofNat (n % 64 + 0x80)], by
      rw [digits, hrest, Nat.div_div_eq_div_mul, ← Nat.pow_succ', List.cons_append]⟩

/-- written with as many digits, the smaller number undercuts the larger one -/
theorem undercuts_digits {lead k m n : Nat} (hn : n / 64 ^ k + lead < 256) (h : m < n) :
    Undercuts (digits lead k m) (digits lead k n) := by
  induction k generalizing m n with
  | zero => exact .inl (ofNat_lt_ofNat (by simpa using hn) (by omega))
  | succ k ih =>
    rw [Nat.pow_succ', ← Nat.div_div_eq_div_mul] at hn
    -- either the numbers without their last digits differ, or only these digits do
    obtain hlt | ⟨heq, hlast⟩ : m / 64 < n / 64 ∨ m / 64 = n / 64 ∧ m % 64 < n % 64 := by omega
    · exact (ih hn hlt).append _ _
    · rw [digits, digits, heq]
      exact .last (ofNat_lt_ofNat (by omega) (by omega)) _

/-- the leading bytes decide when they differ -/
theorem undercuts_of_lead {lead lead' k k' m n : Nat} (hn : n / 64 ^ k' + lead' < 256)
    (h : m / 64 ^ k + lead < n / 64 ^ k' + lead') :
    Undercuts (digits lead k m) (digits lead' k' n) := by
  obtain ⟨rest, hm⟩ := digits_eq_cons lead k m
  obtain ⟨rest', hn'⟩ := digits_eq_cons lead' k' n
  rw [hm, hn']
  exact .inl (ofNat_lt_ofNat hn h)

/-- three digits to the base 64 and a leading byte hold every character -/
theorem toNat_val_lt (c : Char) : c.val.toNat < 0x110000 := by
  have h := c.valid
  simp only [UInt32.isValidChar, Nat.isValidChar] at h
  omega

theorem encode_eq_digits (c : Char) :
    String.utf8EncodeChar c =
      if c.val.toNat ≤ 0x7f then digits 0 0 c.val.toNat
      else if c.val.toNat ≤ 0x7ff then digits 0xc0 1 c.val.toNat
      else if c.val.toNat ≤ 0xffff then digits 0xe0 2 c.val.toNat
      else digits 0xf0 3 c.val.toNat := by
  have hc := toNat_val_lt c
  unfold String.utf8EncodeChar
  generalize c.val.toNat = n at *
  dsimp only
  split_ifs <;>
    simp only [digits, List.nil_append, List.cons_append, List.cons.injEq, and_true,
      Nat.add_zero, Nat.div_div_eq_div_mul, Nat.reduceMul]
  · rw [Nat.mod_eq_of_lt (by omega : n / 64 < 0x20)]
  · rw [Nat.mod_eq_of_lt (by omega : n / 4096 < 0x10)]
  · rw [Nat.mod_eq_of_lt (by omega : n / 262144 < 0x08)]

/-- a smaller character undercuts a larger one -/
theorem undercuts_encode {c d : Char} (h : c < d) :
    Undercuts (String.utf8EncodeChar c) (String.utf8EncodeChar d) := by
  have hlt : c.val.toNat < d.val.toNat := h
  have hd := toNat_val_lt d
  rw [encode_eq_digits, encode_eq_digits]
  generalize c.val.toNat = m at *
  generalize d.val.toNat = n at *
  -- a number of more digits has the larger leading byte
  split_ifs <;>
    first
      | omega
      | exact undercuts_of_lead (by omega) (by omega)
      | exact undercuts_digits (by omega) hlt

/-! ## texts -/

theorem bytes_lt {s t : String} (h : s < t) : bytes s < bytes t := by
  rw [String.lt_iff] at h
  rw [bytes_eq, bytes_eq]
  generalize s.toList = cs at *
  generalize t.toList = ds at *
  induction cs generalizing ds with
  | nil =>
    cases ds with
    | nil => exact absurd h (List.lt_irrefl _)
    | cons d ds =>
      obtain ⟨a, rest, hrest⟩ := List.exists_cons_of_ne_nil (String.utf8EncodeChar_ne_nil (c := d))
      rw [List.flatMap_cons, hrest]
      exact List.nil_lt_cons _ _
  | cons c cs ih =>
    cases ds with
    | nil => exact absurd h (List.not_lt_nil _)
    | cons d ds =>
      rw [List.flatMap_cons, List.flatMap_cons]
      obtain hlt | ⟨rfl, hrest⟩ := List.cons_lt_cons_iff.1 h
      · exact ((undercuts_encode hlt).append _ _).lt
      · exact List.append_left_lt (ih ds hrest)

end SignalScript.Text
