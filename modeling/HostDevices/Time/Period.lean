import HostDevices.Time.Duration

/-!
# Timer periods

A timer ticks once per period, and a period is a positive number of microseconds that a 64-bit clock
can count.

* `Period.ofDuration` — the period of a duration, taken to whole microseconds; refused when that is
  none or too many.
* `InvalidPeriod` — the refusal, which keeps the duration as it was given.
-/

namespace HostDevices

/-- A duration that is no timer period: under one microsecond, or beyond the clock. -/
structure InvalidPeriod where
  given : Duration
deriving DecidableEq, Repr

/-- The wording of the refusal. -/
def InvalidPeriod.message (e : InvalidPeriod) : String := "invalid timer period: " ++ e.given.text

/-- The refusal in field notation. -/
def InvalidPeriod.text (e : InvalidPeriod) : String := "InvalidPeriod(" ++ e.given.text ++ ")"

/-- A positive number of microseconds. -/
structure Period where
  micros : UInt64
  micros_ne_zero : micros ≠ 0
deriving DecidableEq, Repr

namespace Period

theorem micros_pos (p : Period) : 0 < p.micros.toNat := by
  rcases Nat.eq_zero_or_pos p.micros.toNat with h | h
  · exact absurd (UInt64.toNat_inj.1 h) p.micros_ne_zero
  · exact h

/-- The period of a number of microseconds, if it is positive. -/
def ofMicros? (m : UInt64) : Option Period :=
  if h : m = 0 then none else some ⟨m, h⟩

/-- The period of a duration, what is left below a microsecond dropped. -/
def ofDuration (d : Duration) : Except InvalidPeriod Period :=
  if d.micros < UInt64.size then
    match ofMicros? (UInt64.ofNat d.micros) with
    | some p => .ok p
    | none => .error ⟨d⟩
  else .error ⟨d⟩

/-- A period as a duration. -/
def duration (p : Period) : Duration := Duration.ofMicros p.micros

/-- A duration has a period exactly when its whole microseconds are one. -/
theorem ofDuration_eq_ok_iff {d : Duration} {p : Period} :
    ofDuration d = .ok p ↔ d.micros = p.micros.toNat := by
  constructor
  · intro h
    unfold ofDuration at h
    split at h
    · rename_i hlt
      split at h
      · rename_i q hq
        obtain rfl : q = p := by simpa using h
        unfold ofMicros? at hq
        split at hq
        · simp at hq
        · obtain rfl : (⟨_, ‹_›⟩ : Period) = q := by simpa using hq
          exact (UInt64.toNat_ofNat_of_lt' hlt).symm
      · simp at h
    · simp at h
  · intro h
    unfold ofDuration
    rw [h, if_pos p.micros.toNat_lt, UInt64.ofNat_toNat, ofMicros?, dif_neg p.micros_ne_zero]

/-- A period reads back from its own duration. -/
theorem ofDuration_duration (p : Period) : ofDuration p.duration = .ok p :=
  ofDuration_eq_ok_iff.2 (Duration.micros_ofMicros p.micros)

end Period

end HostDevices
