import HostDevices.RateTimer

/-!
# Countdown registers

An 8-bit register that goes down by one with every tick of its timer until it reaches zero.

* `Countdown.load` — puts a value into the register.
* `Countdown.update` — pays for the ticks up to a reading.
-/

namespace HostDevices

/-- A register and the timer that counts it down. -/
structure Countdown where
  timer : RateTimer
  value : UInt8 := 0
deriving DecidableEq, Repr

namespace Countdown

/-- A register at zero, counting from now. -/
def start (period : Period) (now : UInt64) : Countdown := { timer := .start period now }

/-- Puts a value into the register; ticks that have not been paid for stay due. -/
def load (v : Verbosity) (c : Countdown) (value : UInt8) : Logged Countdown := do
  v.note (.loaded value)
  pure { c with value }

/-- Whether the register is still counting. -/
def isActive (c : Countdown) : Bool := c.value != 0

/-- The value after so many ticks: more ticks than a byte can count empty the register. -/
def paid (value : UInt8) (ticks : UInt64) : UInt8 :=
  let owed : UInt8 := if ticks > 255 then 255 else ticks.toUInt8
  if value < owed then 0 else value - owed

/-- In numbers: the ticks are taken off, down to zero. -/
theorem toNat_paid (value : UInt8) (ticks : UInt64) :
    (paid value ticks).toNat = value.toNat - ticks.toNat := by
  have hval := value.toNat_lt
  unfold paid
  by_cases h : ticks > 255
  · have h' : 255 < ticks.toNat := UInt64.lt_iff_toNat_lt.1 h
    simp only [h, if_true]
    split
    · simp
      omega
    · rename_i hlt
      have hge : ¬ value.toNat < 255 := fun hc => hlt (UInt8.lt_iff_toNat_lt.2 hc)
      rw [UInt8.toNat_sub_of_le _ _ (UInt8.le_iff_toNat_le.2 (Nat.le_of_not_lt hge))]
      have : (255 : UInt8).toNat = 255 := rfl
      omega
  · have h' : ticks.toNat ≤ 255 := Nat.le_of_not_lt fun hc => h (UInt64.lt_iff_toNat_lt.2 hc)
    have hb : ticks.toUInt8.toNat = ticks.toNat := by
      rw [UInt64.toNat_toUInt8]
      omega
    simp only [h, if_false]
    split
    · rename_i hlt
      have := UInt8.lt_iff_toNat_lt.1 hlt
      simp
      omega
    · rename_i hlt
      have hge : ticks.toUInt8.toNat ≤ value.toNat :=
        Nat.le_of_not_lt fun hc => hlt (UInt8.lt_iff_toNat_lt.2 hc)
      rw [UInt8.toNat_sub_of_le _ _ (UInt8.le_iff_toNat_le.2 hge), hb]

/-- Pays for the ticks up to a reading. -/
def update (v : Verbosity) (c : Countdown) (now : UInt64) : Logged Countdown := do
  let (ticks, timer) ← c.timer.poll v now
  pure ⟨timer, paid c.value ticks⟩

/-- A register at zero whose timer counts from the clock's next reading, if the duration is a
period. -/
def create (d : Duration) (clock : Clock) : Except InvalidPeriod Countdown × Clock :=
  match RateTimer.create d clock with
  | (.error e, clock) => (.error e, clock)
  | (.ok timer, clock) => (.ok { timer }, clock)

end Countdown

end HostDevices
