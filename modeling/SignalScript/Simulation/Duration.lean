/-!
# Spans of simulated time

A span is kept as whole seconds and the nanoseconds beyond them.

* `Duration.ofParts`   seconds and any number of nanoseconds, carried over;
* `Duration.add`       the sum, exact to the nanosecond;
* `Duration.inNanos`   the whole span in nanoseconds: `inNanos_add` says that it adds up.
-/

namespace SignalScript

structure Duration where
  secs : Nat
  nanos : Nat
  nanos_lt : nanos < 1000000000

namespace Duration

/-- the whole span in nanoseconds -/
def inNanos (d : Duration) : Nat := d.secs * 1000000000 + d.nanos

/-- full seconds among the nanoseconds are carried over -/
def ofParts (secs nanos : Nat) : Duration :=
  ⟨secs + nanos / 1000000000, nanos % 1000000000, Nat.mod_lt _ (by decide)⟩

def zero : Duration := ⟨0, 0, by decide⟩

def ofMillis (ms : Nat) : Duration := ofParts (ms / 1000) (ms % 1000 * 1000000)

def ofSecs (secs : Nat) : Duration := ofParts secs 0

def add (a b : Duration) : Duration := ofParts (a.secs + b.secs) (a.nanos + b.nanos)

/-- the span in seconds, to the precision of a double -/
def toSeconds (d : Duration) : Float := Float.ofNat d.secs + Float.ofNat d.nanos / 1e9

theorem inNanos_ofParts (secs nanos : Nat) :
    (ofParts secs nanos).inNanos = secs * 1000000000 + nanos := by
  simp only [ofParts, inNanos]
  omega

theorem inNanos_zero : zero.inNanos = 0 := rfl

theorem inNanos_add (a b : Duration) : (a.add b).inNanos = a.inNanos + b.inNanos := by
  rw [add, inNanos_ofParts, inNanos, inNanos]
  omega

theorem inNanos_ofMillis (ms : Nat) : (ofMillis ms).inNanos = ms * 1000000 := by
  rw [ofMillis, inNanos_ofParts]
  omega

/-- a span is known by its nanoseconds -/
theorem ext_inNanos {a b : Duration} (h : a.inNanos = b.inNanos) : a = b := by
  obtain ⟨as, an, ha⟩ := a
  obtain ⟨bs, bn, hb⟩ := b
  simp only [inNanos] at h
  have hs : as = bs := by omega
  have hn : an = bn := by omega
  subst hs hn
  rfl

end Duration

end SignalScript
