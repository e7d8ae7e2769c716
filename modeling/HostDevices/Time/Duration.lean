import HostDevices.Text.Numeral

/-!
# Durations

A length of time in seconds and nanoseconds, its whole microseconds, and its text.

* `Duration.micros` — the whole microseconds of a duration; what is left below one is dropped.
* `Duration.ofMicros` — the duration of a 64-bit number of microseconds.
* `Duration.text` — the exact length in the largest of `s`, `ms`, `µs` and `ns` that makes its whole
  part at least one, without closing zeros.
-/

namespace HostDevices

/-- A length of time. -/
structure Duration where
  secs : UInt64
  /-- The part of a second, in nanoseconds. -/
  nanos : Nat
  nanos_lt : nanos < 1000000000
deriving DecidableEq, Repr

namespace Duration

/-- The whole microseconds of a duration. -/
def micros (d : Duration) : Nat := 1000000 * d.secs.toNat + d.nanos / 1000

/-- The duration of a number of microseconds. -/
def ofMicros (m : UInt64) : Duration where
  secs := m / 1000000
  nanos := (m % 1000000).toNat * 1000
  nanos_lt := by
    have : (m % 1000000).toNat < 1000000 := by
      rw [UInt64.toNat_mod]
      exact Nat.mod_lt _ (by decide)
    omega

/-- No microsecond is lost. -/
@[simp] theorem micros_ofMicros (m : UInt64) : (ofMicros m).micros = m.toNat := by
  simp only [micros, ofMicros, UInt64.toNat_div, UInt64.toNat_mod]
  have : (1000000 : UInt64).toNat = 1000000 := rfl
  rw [this]
  omega

/-- The exact length: a whole number of the largest fitting unit and what is left as a fraction. -/
def text (d : Duration) : String :=
  if d.secs ≠ 0 then Numeral.mixed d.secs.toNat 9 d.nanos ++ "s"
  else if 1000000 ≤ d.nanos then Numeral.mixed (d.nanos / 1000000) 6 (d.nanos % 1000000) ++ "ms"
  else if 1000 ≤ d.nanos then Numeral.mixed (d.nanos / 1000) 3 (d.nanos % 1000) ++ "\u00b5s"
  else d.nanos.repr ++ "ns"

end Duration

end HostDevices
