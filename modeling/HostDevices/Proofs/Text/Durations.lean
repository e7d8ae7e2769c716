import HostDevices.Config
import HostDevices.Proofs.Text.SelfDelimiting
import Mathlib.Algebra.Group.Nat.Defs
import Mathlib.Data.List.DropRight

/-!
# Texts of durations

A duration is told in the largest of four units that fits, with a fraction that has lost its closing
zeros.  Nothing is lost with them: the unit says how many places the fraction had, so the length can
be read off the text to the nanosecond.

* `Numeral.fixed_eq` — the digits that a fraction shows, and the zeros that it does not.
* `Scale` — the units, and `Scale.write`, a number of nanoseconds told in one of them.
* `Scale.readNanos`, `Scale.readNanos_write` — the number is read off its text, whatever the unit.
* `Duration.toList_text`, `Duration.selfDelimiting_text` — so the text of a duration tells it.
* `Duration.texts_tell_apart` — as do the refusal of a period and the text of the settings.
-/

namespace HostDevices

/-! ## Fractions -/

namespace Numeral

/-- The digits of a fraction of `places` digits up to its closing zeros. -/
def significant (places n : Nat) : List Char := (fixed places n).rdropWhile (· == '0')

theorem isDigit_of_mem_fixed {places n : Nat} {c : Char} (h : c ∈ fixed places n) :
    c.isDigit = true := by
  induction places generalizing n with
  | zero => cases h
  | succ places ih =>
    rcases List.mem_append.1 h with hmem | hmem
    · exact ih hmem
    · rw [List.mem_singleton.1 hmem, Nat.isDigit_digitChar]
      exact decide_eq_true (Nat.mod_lt _ (by decide))

/-- The digits that a fraction shows and the zeros that it does not. -/
theorem fixed_eq (places n : Nat) :
    fixed places n = significant places n ++
      List.replicate (places - (significant places n).length) '0' := by
  have hsplit : significant places n ++ (fixed places n).rtakeWhile (· == '0') = fixed places n :=
    List.rdropWhile_append_rtakeWhile
  have hzeros : ∀ c ∈ (fixed places n).rtakeWhile (· == '0'), c = '0' := by
    intro c hc
    exact beq_iff_eq.1 (List.mem_rtakeWhile_imp (p := (· == '0')) hc)
  have hlength := congrArg List.length hsplit
  rw [List.length_append, length_fixed] at hlength
  have hcount : places - (significant places n).length =
      ((fixed places n).rtakeWhile (· == '0')).length := by omega
  rw [hcount, ← List.eq_replicate_of_mem hzeros, hsplit]

theorem isDigit_of_mem_significant {places n : Nat} {c : Char} (h : c ∈ significant places n) :
    c.isDigit = true := by
  have hmem : c ∈ fixed places n := by
    rw [fixed_eq]
    exact List.mem_append_left _ h
  exact isDigit_of_mem_fixed hmem

/-- A fraction is its digits behind a point, and nothing if there are none. -/
theorem fraction_cases (places n : Nat) :
    significant places n = [] ∧ fraction places n = [] ∨
      fraction places n = '.' :: significant places n := by
  unfold fraction significant List.rdropWhile
  cases (fixed places n).reverse.dropWhile (· == '0') with
  | nil => exact Or.inl ⟨rfl, rfl⟩
  | cons c rest => exact Or.inr rfl

/-- The digits of a number in so many places, read behind others. -/
theorem ofDigitChars_fixed (places n init : Nat) :
    Nat.ofDigitChars 10 (fixed places n) init = 10 ^ places * init + n % 10 ^ places := by
  induction places generalizing n with
  | zero => simp [fixed, Nat.mod_one]
  | succ places ih =>
    have hlast : n % 10 < 10 := Nat.mod_lt _ (by decide)
    have hpow : 10 ^ (places + 1) = 10 * 10 ^ places := by rw [Nat.pow_succ, Nat.mul_comm]
    rw [fixed, Nat.ofDigitChars_append, ih, Nat.ofDigitChars_cons_digitChar_of_lt_ten hlast,
      Nat.ofDigitChars_nil, hpow, Nat.mod_mul, Nat.mul_add, Nat.mul_assoc]
    omega

end Numeral

/-! ## Units -/

/-- The unit in which a duration is told. -/
inductive Scale where
  | seconds
  | milliseconds
  | microseconds
  | nanoseconds
deriving DecidableEq, Repr

namespace Scale

open Numeral

/-- The decimal places of a nanosecond in the unit. -/
def places : Scale → Nat
  | seconds => 9
  | milliseconds => 6
  | microseconds => 3
  | nanoseconds => 0

/-- The unit as it is written. -/
def name : Scale → List Char
  | seconds => ['s']
  | milliseconds => ['m', 's']
  | microseconds => ['\u00b5', 's']
  | nanoseconds => ['n', 's']

/-- A number of nanoseconds told in the unit. -/
def write (s : Scale) (n : Nat) : List Char :=
  Nat.toDigits 10 (n / 10 ^ s.places) ++ (fraction s.places (n % 10 ^ s.places) ++ s.name)

theorem toList_mixed (s : Scale) (n : Nat) :
    (mixed (n / 10 ^ s.places) s.places (n % 10 ^ s.places) ++ String.ofList s.name).toList =
      s.write n := by
  simp [mixed, write]

/-- Takes a unit off the front. -/
def read : List Char → Option (Scale × List Char)
  | 's' :: rest => some (seconds, rest)
  | 'm' :: 's' :: rest => some (milliseconds, rest)
  | '\u00b5' :: 's' :: rest => some (microseconds, rest)
  | 'n' :: 's' :: rest => some (nanoseconds, rest)
  | _ => none

/-- The digits behind a point, if there is one, and what is behind them. -/
def readFraction : List Char → List Char × List Char
  | '.' :: rest => (rest.takeWhile Char.isDigit, rest.dropWhile Char.isDigit)
  | rest => ([], rest)

/-- Takes a length off the front, as a number of nanoseconds: the places that its fraction does not
show are zeros. -/
def readNanos (cs : List Char) : Option (Nat × List Char) :=
  let whole := cs.takeWhile Char.isDigit
  let (shown, behind) := readFraction (cs.dropWhile Char.isDigit)
  (read behind).map fun (s, rest) =>
    (Nat.ofDigitChars 10 (whole ++ (shown ++ List.replicate (s.places - shown.length) '0')) 0, rest)

theorem read_name (s : Scale) (rest : List Char) : read (s.name ++ rest) = some (s, rest) := by
  cases s <;> rfl

/-- A unit begins neither with a digit nor with a point. -/
theorem exists_name_eq_cons (s : Scale) :
    ∃ c more, s.name = c :: more ∧ c.isDigit = false ∧ c ≠ '.' := by
  cases s <;> exact ⟨_, _, rfl, by decide, by decide⟩

/-- Digits end in front of the first character that is none. -/
theorem span_digits {ds : List Char} {c : Char} (hds : ∀ d ∈ ds, d.isDigit = true)
    (hc : c.isDigit = false) (more : List Char) :
    (ds ++ c :: more).takeWhile Char.isDigit = ds ∧
      (ds ++ c :: more).dropWhile Char.isDigit = c :: more := by
  rw [List.takeWhile_append_of_pos hds, List.dropWhile_append_of_pos hds]
  simp [hc]

/-- The digits of a fraction end in front of the unit. -/
theorem readFraction_fraction (s : Scale) (places n : Nat) (rest : List Char) :
    readFraction (fraction places n ++ (s.name ++ rest)) =
      (significant places n, s.name ++ rest) := by
  obtain ⟨c, more, hname, hdigit, hpoint⟩ := s.exists_name_eq_cons
  rw [hname, List.cons_append]
  rcases fraction_cases places n with ⟨hnone, hfraction⟩ | hfraction
  · rw [hfraction, hnone, List.nil_append]
    unfold readFraction
    split
    · rename_i h
      exact absurd (List.cons.inj h).1 hpoint
    · rfl
  · have hshown : ∀ d ∈ significant places n, d.isDigit = true := fun d hd =>
      isDigit_of_mem_significant hd
    obtain ⟨htake, hdrop⟩ := span_digits hshown hdigit (more ++ rest)
    rw [hfraction, List.cons_append, readFraction, htake, hdrop]

/-- The whole part ends in front of the point or of the unit. -/
theorem exists_fraction_eq_cons (s : Scale) (places n : Nat) (rest : List Char) :
    ∃ c more, fraction places n ++ (s.name ++ rest) = c :: more ∧ c.isDigit = false := by
  obtain ⟨c, more, hname, hdigit, -⟩ := s.exists_name_eq_cons
  rcases fraction_cases places n with ⟨-, hfraction⟩ | hfraction
  · exact ⟨c, more ++ rest, by rw [hfraction, hname]; rfl, hdigit⟩
  · exact ⟨'.', _, by rw [hfraction, List.cons_append], by decide⟩

/-- A number of nanoseconds is read off its text, whatever the unit and whatever stands behind. -/
theorem readNanos_write (s : Scale) (n : Nat) (rest : List Char) :
    readNanos (s.write n ++ rest) = some (n, rest) := by
  have hwhole : ∀ d ∈ Nat.toDigits 10 (n / 10 ^ s.places), d.isDigit = true := by
    intro d hd
    exact Nat.isDigit_of_mem_toDigits (by decide) (by decide) hd
  obtain ⟨c, more, hcons, hdigit⟩ :=
    exists_fraction_eq_cons s s.places (n % 10 ^ s.places) rest
  obtain ⟨htake, hdrop⟩ := span_digits hwhole hdigit more
  have hdigits : Nat.ofDigitChars 10 (Nat.toDigits 10 (n / 10 ^ s.places) ++
      fixed s.places (n % 10 ^ s.places)) 0 = n := by
    rw [Nat.ofDigitChars_append, Nat.ofDigitChars_ten_toDigits, ofDigitChars_fixed, Nat.mod_mod,
      Nat.div_add_mod]
  rw [write, List.append_assoc, List.append_assoc, hcons, readNanos, htake, hdrop, ← hcons,
    readFraction_fraction]
  simp only [read_name, Option.map_some, ← fixed_eq, hdigits]

end Scale

/-! ## Durations -/

namespace Duration

/-- A duration in nanoseconds. -/
def inNanos (d : Duration) : Nat := 1000000000 * d.secs.toNat + d.nanos

theorem inNanos_injective : Function.Injective inNanos := by
  intro d e h
  obtain ⟨secs, nanos, hlt⟩ := d
  obtain ⟨secs', nanos', hlt'⟩ := e
  simp only [inNanos] at h
  have hsecs : secs.toNat = secs'.toNat := by omega
  have hnanos : nanos = nanos' := by omega
  cases UInt64.toNat_inj.1 hsecs
  cases hnanos
  rfl

/-- The largest unit of which the duration holds one. -/
def scale (d : Duration) : Scale :=
  if d.secs ≠ 0 then .seconds
  else if 1000000 ≤ d.nanos then .milliseconds
  else if 1000 ≤ d.nanos then .microseconds
  else .nanoseconds

/-- The text of a duration tells its nanoseconds in its unit. -/
theorem toList_text (d : Duration) : d.text.toList = d.scale.write d.inNanos := by
  have hlt := d.nanos_lt
  rw [← Scale.toList_mixed]
  unfold text scale
  by_cases hsecs : d.secs = 0
  · have hnanos : d.inNanos = d.nanos := by
      rw [inNanos, hsecs]
      exact Nat.zero_add _
    rw [if_neg (not_not.2 hsecs), if_neg (not_not.2 hsecs), hnanos]
    by_cases hmillis : 1000000 ≤ d.nanos
    · rw [if_pos hmillis, if_pos hmillis]
      rfl
    · rw [if_neg hmillis, if_neg hmillis]
      by_cases hmicros : 1000 ≤ d.nanos
      · rw [if_pos hmicros, if_pos hmicros]
        rfl
      · -- nanoseconds are told without a fraction
        have hwhole : d.nanos / 10 ^ Scale.nanoseconds.places = d.nanos := Nat.div_one _
        rw [if_neg hmicros, if_neg hmicros, hwhole]
        simp [Numeral.mixed, Numeral.fraction, Numeral.fixed, Scale.places, Scale.name]
  · have hwhole : d.inNanos / 1000000000 = d.secs.toNat := by
      unfold inNanos
      omega
    have hleft : d.inNanos % 1000000000 = d.nanos := by
      unfold inNanos
      omega
    rw [if_pos hsecs, if_pos hsecs]
    show _ = (Numeral.mixed (d.inNanos / 1000000000) 9 (d.inNanos % 1000000000) ++ "s").toList
    rw [hwhole, hleft]

/-- The text of a duration ends with its unit, and tells the duration. -/
theorem selfDelimiting_text : SelfDelimiting fun d : Duration => d.text.toList := by
  apply SelfDelimiting.of_read inNanos_injective Scale.readNanos
  intro d rest
  rw [toList_text, Scale.readNanos_write]

theorem text_inj {d e : Duration} : d.text = e.text ↔ d = e := by
  constructor
  · intro h
    exact selfDelimiting_text.eq_of_eq (congrArg String.toList h)
  · rintro rfl
    rfl

/-- **A period can be read back from what is said of it.**  Two durations have the same refusal as a
period, and settings with them the same text, exactly when they are the same, whatever units they
are told in and however many zeros their fractions have lost. -/
theorem texts_tell_apart (d e : Duration) :
    (InvalidPeriod.message ⟨d⟩ = InvalidPeriod.message ⟨e⟩ ↔ d = e) ∧
      (Config.text ⟨d⟩ = Config.text ⟨e⟩ ↔ d = e) := by
  constructor
  · show "invalid timer period: " ++ d.text = "invalid timer period: " ++ e.text ↔ d = e
    rw [String.append_right_inj, text_inj]
  · have hshown : ∀ c : Config, c.text =
        "Config \x7b " ++ ("timer_period: " ++ c.timerPeriod.text) ++ " \x7d" := by
      intro c
      simp [Config.text, fieldsText]
    rw [hshown, hshown, String.append_left_inj, String.append_right_inj, String.append_right_inj,
      text_inj]

/-- Zeros in front are kept, and the unit tells the same digits apart. -/
example :
    text ⟨1, 50000000, by decide⟩ = "1.05s" ∧ text ⟨1, 500000000, by decide⟩ = "1.5s" ∧
      text ⟨0, 1500000, by decide⟩ = "1.5ms" ∧ text ⟨0, 1500, by decide⟩ = "1.5\u00b5s" := by
  decide +kernel

end Duration

end HostDevices
