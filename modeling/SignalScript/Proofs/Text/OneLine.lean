import Mathlib.Tactic.SplitIfs
import SignalScript.Node.Describe

/-!
# Texts on one line

A text stands on one line if it holds no line feed and no carriage return. Quoting escapes both, in
either way of quoting, and numbers are written in digits, points, signs and the letter `e`.

* `Text.Unbroken`, `Text.OnOneLine`   no character ends a line, in characters and in a text;
* `Text.onOneLine_quoteJson`, `Text.onOneLine_quoteVisible`   a quoted text is on one line;
* `NumberStyle.onOneLine_write`       so is a number, if the words of its style are;
* `onOneLine_enclosed_iff`            and a list of texts, exactly if each of them is.
-/

namespace SignalScript

namespace Text

/-! ## ends of lines -/

/-- a line feed or a carriage return -/
def endsLine (c : Char) : Bool := c == '\n' || c == '\r'

/-- no character ends a line -/
def Unbroken (cs : List Char) : Prop := ∀ c ∈ cs, endsLine c = false

instance (cs : List Char) : Decidable (Unbroken cs) :=
  List.decidableBAll (endsLine · = false) cs

@[simp]
theorem unbroken_nil : Unbroken [] := nofun

@[simp]
theorem unbroken_cons_iff {c : Char} {cs : List Char} :
    Unbroken (c :: cs) ↔ endsLine c = false ∧ Unbroken cs := List.forall_mem_cons

@[simp]
theorem unbroken_append_iff {cs ds : List Char} :
    Unbroken (cs ++ ds) ↔ Unbroken cs ∧ Unbroken ds := List.forall_mem_append

theorem Unbroken.sublist {cs ds : List Char} (h : Unbroken ds) (hsub : cs.Sublist ds) :
    Unbroken cs := fun c hc => h c (hsub.mem hc)

theorem unbroken_replicate {c : Char} (n : Nat) (h : endsLine c = false) :
    Unbroken (List.replicate n c) := fun d hd => by rwa [List.eq_of_mem_replicate hd]

/-- the text stands on one line -/
def OnOneLine (s : String) : Prop := Unbroken s.toList

instance (s : String) : Decidable (OnOneLine s) := inferInstanceAs (Decidable (Unbroken s.toList))

theorem onOneLine_append_iff {s t : String} : OnOneLine (s ++ t) ↔ OnOneLine s ∧ OnOneLine t := by
  rw [OnOneLine, String.toList_append, unbroken_append_iff]
  rfl

theorem onOneLine_ofList_iff {cs : List Char} : OnOneLine (String.ofList cs) ↔ Unbroken cs := by
  rw [OnOneLine, String.toList_ofList]

theorem onOneLine_intercalate_iff {separator : String} (h : OnOneLine separator)
    (parts : List String) :
    OnOneLine (separator.intercalate parts) ↔ ∀ part ∈ parts, OnOneLine part := by
  induction parts with
  | nil => simp [OnOneLine]
  | cons first rest ih =>
    cases rest with
    | nil => simp
    | cons second rest =>
      rw [String.intercalate_cons_cons, onOneLine_append_iff, onOneLine_append_iff, ih,
        List.forall_mem_cons (a := first)]
      simp only [h, and_true]

/-! ## digits -/

theorem unbroken_toDigits {base : Nat} (hbase : 1 < base) (n : Nat) :
    Unbroken (Nat.toDigits base n) := by
  induction n using Nat.strongRecOn with
  | ind n ih =>
    have hdigit : ∀ k : Nat, Unbroken [k.digitChar] := fun k => by simp [endsLine]
    rw [Nat.toDigits_eq_if hbase]
    split
    · exact hdigit n
    · have hsmaller : n / base < n := Nat.div_lt_self (by omega) hbase
      exact unbroken_append_iff.mpr ⟨ih _ hsmaller, hdigit _⟩

theorem onOneLine_repr (n : Nat) : OnOneLine n.repr := by
  rw [OnOneLine, Nat.toList_repr]
  exact unbroken_toDigits (by decide) n

theorem onOneLine_int (i : Int) : OnOneLine (toString i) := by
  cases i with
  | ofNat n => exact onOneLine_repr n
  | negSucc n =>
    show OnOneLine ("-" ++ (n + 1).repr)
    exact onOneLine_append_iff.mpr ⟨by decide, onOneLine_repr _⟩

/-! ## quotes -/

/-- only two characters end a line -/
theorem unbroken_singleton {c : Char} (hfeed : c ≠ '\n') (hreturn : c ≠ '\r') : Unbroken [c] := by
  simp [endsLine, hfeed, hreturn]

theorem unbroken_hexDigits (n : Nat) : Unbroken (hexDigits n) := unbroken_toDigits (by decide) n

theorem unbroken_escapeJson (c : Char) : Unbroken (escapeJson c) := by
  by_cases hfeed : c = '\n'
  · rw [hfeed]
    decide
  by_cases hreturn : c = '\r'
  · rw [hreturn]
    decide
  simp only [escapeJson, hfeed, hreturn, if_false]
  -- five characters have an escape of their own; other control characters are written in digits
  split_ifs
  iterate 5 (· decide)
  · have hzeros : Unbroken (List.replicate (4 - (hexDigits c.toNat).length) '0') :=
      unbroken_replicate _ (by decide)
    simp only [List.cons_append, unbroken_cons_iff, unbroken_append_iff]
    exact ⟨by decide, by decide, hzeros, unbroken_hexDigits _⟩
  · exact unbroken_singleton hfeed hreturn

theorem unbroken_escapeVisible (c : Char) : Unbroken (escapeVisible c) := by
  by_cases hfeed : c = '\n'
  · rw [hfeed]
    decide
  by_cases hreturn : c = '\r'
  · rw [hreturn]
    decide
  simp only [escapeVisible, hfeed, hreturn, if_false]
  -- four characters have an escape of their own; others that are not seen are written in digits
  split_ifs
  iterate 4 (· decide)
  · simp only [List.cons_append, unbroken_cons_iff, unbroken_append_iff]
    exact ⟨by decide, by decide, by decide, unbroken_hexDigits _, by decide⟩
  · exact unbroken_singleton hfeed hreturn

theorem onOneLine_quoteWith {escape : Char → List Char} (h : ∀ c, Unbroken (escape c))
    (s : String) : OnOneLine (quoteWith escape s) := by
  have hinside : Unbroken (s.toList.flatMap escape) := by
    intro d hd
    obtain ⟨c, _, hdc⟩ := List.mem_flatMap.mp hd
    exact h c d hdc
  rw [quoteWith, onOneLine_ofList_iff, List.cons_append, unbroken_cons_iff, unbroken_append_iff]
  exact ⟨by decide, hinside, by decide⟩

theorem onOneLine_quoteJson (s : String) : OnOneLine (quoteJson s) :=
  onOneLine_quoteWith unbroken_escapeJson s

theorem onOneLine_quoteVisible (s : String) : OnOneLine (quoteVisible s) :=
  onOneLine_quoteWith unbroken_escapeVisible s

end Text

open Text

/-! ## numbers -/

namespace NumberStyle

theorem unbroken_positionalText (pointed : Bool) {digits : List Char} (exponent : Int)
    (h : Unbroken digits) : Unbroken (positionalText pointed digits exponent) := by
  have hzeros : ∀ n, Unbroken (List.replicate n '0') := fun n => unbroken_replicate n (by decide)
  have hpoint : Unbroken (if pointed then ['.', '0'] else []) := by cases pointed <;> decide
  have htake : ∀ n, Unbroken (digits.take n) := fun n => h.sublist (List.take_sublist n digits)
  have hdrop : ∀ n, Unbroken (digits.drop n) := fun n => h.sublist (List.drop_sublist n digits)
  unfold positionalText
  split
  · exact unbroken_append_iff.mpr ⟨unbroken_append_iff.mpr ⟨h, hzeros _⟩, hpoint⟩
  · dsimp only
    split
    · simp only [unbroken_append_iff, unbroken_cons_iff]
      exact ⟨htake _, by decide, hdrop _⟩
    · simp only [List.cons_append, unbroken_append_iff, unbroken_cons_iff]
      exact ⟨by decide, by decide, hzeros _, h⟩

theorem unbroken_scientificText (plus : Bool) {digits : List Char} (lead : Int)
    (h : Unbroken digits) : Unbroken (scientificText plus digits lead) := by
  have hlead : Unbroken (Nat.toDigits 10 lead.natAbs) := unbroken_toDigits (by decide) _
  have hsign : Unbroken (if plus then ['+'] else []) := by cases plus <;> decide
  have hexponent : Unbroken (if lead < 0 then '-' :: Nat.toDigits 10 lead.natAbs
      else (if plus then ['+'] else []) ++ Nat.toDigits 10 lead.natAbs) := by
    split
    · exact unbroken_cons_iff.mpr ⟨by decide, hlead⟩
    · exact unbroken_append_iff.mpr ⟨hsign, hlead⟩
  have hpower : Unbroken ('e' :: _) := unbroken_cons_iff.mpr ⟨by decide, hexponent⟩
  -- the point stands behind the first of several digits
  match digits, h with
  | [], _ => exact hpower
  | [first], h => exact unbroken_append_iff.mpr ⟨h, hpower⟩
  | first :: second :: more, h =>
    obtain ⟨hfirst, hmore⟩ := unbroken_cons_iff.mp h
    have hmantissa : Unbroken (first :: '.' :: second :: more) :=
      unbroken_cons_iff.mpr ⟨hfirst, unbroken_cons_iff.mpr ⟨by decide, hmore⟩⟩
    exact unbroken_append_iff.mpr ⟨hmantissa, hpower⟩

theorem unbroken_writeDecimal (style : NumberStyle) (d : Decimal) :
    Unbroken (style.writeDecimal d) := by
  have hdigits : Unbroken d.digits := unbroken_toDigits (by decide) _
  rw [writeDecimal]
  split
  · exact unbroken_positionalText _ _ hdigits
  · exact unbroken_scientificText _ _ hdigits

/-- a number is on one line, if the words for what is no number are -/
theorem onOneLine_write {style : NumberStyle} (hnan : OnOneLine style.nan)
    (hinfinity : OnOneLine style.infinity) (hminus : OnOneLine style.minusInfinity) (x : Float) :
    OnOneLine (style.write x) := by
  rw [write]
  cases Binary.ofFloat x with
  | nan => exact hnan
  | infinite negative =>
    cases negative with
    | false => exact hinfinity
    | true => exact hminus
  | finite negative m q =>
    have hsign : Unbroken (if negative then ['-'] else []) := by cases negative <;> decide
    exact onOneLine_ofList_iff.mpr
      (unbroken_append_iff.mpr ⟨hsign, unbroken_writeDecimal style _⟩)

end NumberStyle

namespace Number

theorem onOneLine_json (n : Number) : OnOneLine (n.write NumberStyle.json) := by
  cases n with
  | int i => exact onOneLine_int i
  | float x => exact NumberStyle.onOneLine_write (by decide) (by decide) (by decide) x

theorem onOneLine_scalarText (n : Number) : OnOneLine n.scalarText := by
  cases n with
  | int i => exact onOneLine_int i
  | float x => exact NumberStyle.onOneLine_write (by decide) (by decide) (by decide) x

end Number

theorem onOneLine_boolText (b : Bool) : OnOneLine (boolText b) := by cases b <;> decide

/-! ## lists -/

theorem onOneLine_enclosed_iff {first last separator : String} (hfirst : OnOneLine first)
    (hlast : OnOneLine last) (hseparator : OnOneLine separator) (parts : List String) :
    OnOneLine (enclosed first last separator parts) ↔ ∀ part ∈ parts, OnOneLine part := by
  rw [enclosed, onOneLine_append_iff, onOneLine_append_iff, onOneLine_intercalate_iff hseparator]
  simp only [hfirst, hlast, true_and, and_true]

end SignalScript
