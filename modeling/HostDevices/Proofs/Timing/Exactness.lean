import HostDevices.Proofs.Timing.Ticks

/-!
# Exact timers on machine words

A timer calculates on words of 64 bits, and the clock may give it any word at all.  Here its
calculation is written once for any arithmetic whose operations may fail, and carried out in three
of them: on words that wrap around, on words where what is no word fails, and on the integers.

* `Arithmetic.poll`, `Arithmetic.pollAll` — one poll and many polls, calculated.
* `Arithmetic.wrapping`, `Arithmetic.guarded`, `Arithmetic.integers` — the three arithmetics.
* `Arithmetic.Embeds` — one arithmetic says nothing that another one would not say;
  `Arithmetic.Embeds.pollAll` says that this carries over to many polls.
* `RateTimer.guarded_poll` — nothing fails when a timer is polled on guarded words.
* `RateTimer.exact_on_words` — all three arithmetics agree over any readings.
-/

namespace HostDevices

/-- The operations that a poll is calculated with; some of them may have no result. -/
structure Arithmetic (α : Type) where
  zero : α
  below : α → α → Bool
  minus : α → α → Option α
  quotient : α → α → Option α
  remainder : α → α → Option α

namespace Arithmetic

/-- Words of 64 bits, as a machine has them: a difference below zero wraps around, and only a
division by zero has no result. -/
def wrapping : Arithmetic UInt64 where
  zero := 0
  below a b := a < b
  minus a b := some (a - b)
  quotient a b := if b = 0 then none else some (a / b)
  remainder a b := if b = 0 then none else some (a % b)

/-- Words of 64 bits on which a difference below zero has no result either. -/
def guarded : Arithmetic UInt64 :=
  { wrapping with minus := fun a b => if a < b then none else some (a - b) }

/-- The integers, which have every difference. -/
def integers : Arithmetic Int where
  zero := 0
  below a b := a < b
  minus a b := some (a - b)
  quotient a b := if b = 0 then none else some (a / b)
  remainder a b := if b = 0 then none else some (a % b)

variable {α β : Type}

/-- The ticks that a poll counts and the time that it keeps. -/
def poll (A : Arithmetic α) (period last now : α) : Option (α × α) :=
  if A.below now last then some (A.zero, last)
  else do
    let elapsed ← A.minus now last
    if A.below elapsed period then some (A.zero, last)
    else do
      let ticks ← A.quotient elapsed period
      let rest ← A.remainder elapsed period
      let last ← A.minus now rest
      some (ticks, last)

/-- The ticks of polls with readings in order, and the time that is kept after the last. -/
def pollAll (A : Arithmetic α) (period last : α) : List α → Option (List α × α)
  | [] => some ([], last)
  | now :: rest => do
    let (ticks, last) ← A.poll period last now
    let (more, last) ← A.pollAll period last rest
    some (ticks :: more, last)

/-! ## Results that carry over -/

/-- Where the first arithmetic has a result, the second one has the same, under other names. -/
structure Embeds (A : Arithmetic α) (B : Arithmetic β) (f : α → β) : Prop where
  zero : B.zero = f A.zero
  below : ∀ a b, B.below (f a) (f b) = A.below a b
  minus : ∀ {a b c}, A.minus a b = some c → B.minus (f a) (f b) = some (f c)
  quotient : ∀ {a b c}, A.quotient a b = some c → B.quotient (f a) (f b) = some (f c)
  remainder : ∀ {a b c}, A.remainder a b = some c → B.remainder (f a) (f b) = some (f c)

section

variable {A : Arithmetic α} {B : Arithmetic β} {f : α → β}

theorem Embeds.poll (h : A.Embeds B f) {period last now ticks kept : α}
    (hpoll : A.poll period last now = some (ticks, kept)) :
    B.poll (f period) (f last) (f now) = some (f ticks, f kept) := by
  unfold Arithmetic.poll at hpoll ⊢
  rw [h.below, h.zero]
  split at hpoll
  · rename_i hearlier
    cases hpoll
    rw [if_pos hearlier]
  · rename_i hlater
    rw [if_neg hlater]
    obtain ⟨elapsed, helapsed, hpoll⟩ := Option.bind_eq_some_iff.1 hpoll
    rw [h.minus helapsed, Option.bind_eq_bind, Option.bind_some, h.below]
    split at hpoll
    · rename_i hshort
      cases hpoll
      rw [if_pos hshort]
    · rename_i hlong
      obtain ⟨count, hcount, hpoll⟩ := Option.bind_eq_some_iff.1 hpoll
      obtain ⟨rest, hrest, hpoll⟩ := Option.bind_eq_some_iff.1 hpoll
      obtain ⟨time, htime, hpoll⟩ := Option.bind_eq_some_iff.1 hpoll
      cases hpoll
      rw [if_neg hlong, h.quotient hcount, h.remainder hrest]
      show (B.minus (f now) (f rest)).bind _ = _
      rw [h.minus htime]
      rfl

/-- What the first arithmetic makes of any readings, the second one makes of them too. -/
theorem Embeds.pollAll (h : A.Embeds B f) {period last kept : α} {readings ticks : List α}
    (hpoll : A.pollAll period last readings = some (ticks, kept)) :
    B.pollAll (f period) (f last) (readings.map f) = some (ticks.map f, f kept) := by
  induction readings generalizing last ticks with
  | nil =>
    cases hpoll
    rfl
  | cons now rest ih =>
    unfold Arithmetic.pollAll at hpoll
    obtain ⟨⟨first, time⟩, hfirst, hpoll⟩ := Option.bind_eq_some_iff.1 hpoll
    obtain ⟨⟨more, time'⟩, hmore, hpoll⟩ := Option.bind_eq_some_iff.1 hpoll
    cases hpoll
    have hnext := ih hmore
    rw [List.map_cons]
    unfold Arithmetic.pollAll
    rw [h.poll hfirst]
    show (B.pollAll (f period) (f time) (rest.map f)).bind _ = _
    rw [hnext]
    rfl

end

section

variable {a b c : UInt64}

theorem guarded_below_iff : guarded.below a b = true ↔ a < b := decide_eq_true_iff

theorem guarded_minus_eq_some_iff : guarded.minus a b = some c ↔ ¬ a < b ∧ a - b = c := by
  show (if a < b then none else some (a - b)) = some c ↔ _
  rw [Option.ite_none_left_eq_some, Option.some_inj]

theorem guarded_quotient_eq_some_iff : guarded.quotient a b = some c ↔ b ≠ 0 ∧ a / b = c := by
  show (if b = 0 then none else some (a / b)) = some c ↔ _
  rw [Option.ite_none_left_eq_some, Option.some_inj]

theorem guarded_remainder_eq_some_iff : guarded.remainder a b = some c ↔ b ≠ 0 ∧ a % b = c := by
  show (if b = 0 then none else some (a % b)) = some c ↔ _
  rw [Option.ite_none_left_eq_some, Option.some_inj]

end

/-- Where nothing wraps around, a machine calculates what the guards let through. -/
theorem guarded_embeds_wrapping : guarded.Embeds wrapping id where
  zero := rfl
  below _ _ := rfl
  minus h := congrArg some (guarded_minus_eq_some_iff.1 h).2
  quotient h := h
  remainder h := h

/-- The number that a word stands for. -/
def number (w : UInt64) : Int := w.toNat

theorem number_ne_zero {w : UInt64} (h : w ≠ 0) : number w ≠ 0 :=
  fun hzero => h (UInt64.toNat_inj.1 (Int.ofNat_inj.1 hzero))

/-- What the guards let through is exact. -/
theorem guarded_embeds_integers : guarded.Embeds integers number where
  zero := rfl
  below a b := by
    show decide (number a < number b) = decide (a < b)
    rw [decide_eq_decide, UInt64.lt_iff_toNat_lt]
    exact Int.ofNat_lt
  minus := by
    intro a b c h
    obtain ⟨hle, rfl⟩ := guarded_minus_eq_some_iff.1 h
    have hle := UInt64.not_lt.1 hle
    show some (number a - number b) = some (number (a - b))
    rw [number, number, number, UInt64.toNat_sub_of_le _ _ hle,
      Int.natCast_sub (UInt64.le_iff_toNat_le.1 hle)]
  quotient := by
    intro a b c h
    obtain ⟨hne, rfl⟩ := guarded_quotient_eq_some_iff.1 h
    show (if number b = 0 then none else some (number a / number b)) = some (number (a / b))
    rw [if_neg (number_ne_zero hne), number, number, number, UInt64.toNat_div, Int.natCast_ediv]
  remainder := by
    intro a b c h
    obtain ⟨hne, rfl⟩ := guarded_remainder_eq_some_iff.1 h
    show (if number b = 0 then none else some (number a % number b)) = some (number (a % b))
    rw [if_neg (number_ne_zero hne), number, number, number, UInt64.toNat_mod, Int.natCast_emod]

end Arithmetic

/-! ## Timers -/

namespace RateTimer

open Arithmetic

/-- A poll divides by a period, which is not zero, and takes no more off a reading than there is:
guarded words let it through, and it comes to what the timer makes of it. -/
theorem guarded_poll (v : Verbosity) (t : RateTimer) (now : UInt64) :
    guarded.poll t.period.micros t.last now =
      some ((t.poll v now).val.1, (t.poll v now).val.2.last) := by
  unfold Arithmetic.poll RateTimer.poll
  by_cases hearlier : now < t.last
  · rw [if_pos (guarded_below_iff.2 hearlier), if_pos hearlier]
    rfl
  · rw [if_neg (mt guarded_below_iff.1 hearlier), if_neg hearlier,
      guarded_minus_eq_some_iff.2 ⟨hearlier, rfl⟩, Option.bind_eq_bind, Option.bind_some]
    by_cases hshort : now - t.last < t.period.micros
    · rw [if_pos (guarded_below_iff.2 hshort), if_pos hshort]
      rfl
    · have hkept : ¬ now < (now - t.last) % t.period.micros := by
        have := Nat.mod_le (now.toNat - t.last.toNat) t.period.micros.toNat
        rw [UInt64.lt_iff_toNat_lt, UInt64.toNat_mod, toNat_elapsed hearlier]
        omega
      rw [if_neg (mt guarded_below_iff.1 hshort), if_neg hshort,
        guarded_quotient_eq_some_iff.2 ⟨t.period.micros_ne_zero, rfl⟩, Option.bind_some,
        guarded_remainder_eq_some_iff.2 ⟨t.period.micros_ne_zero, rfl⟩, Option.bind_some,
        guarded_minus_eq_some_iff.2 ⟨hkept, rfl⟩]
      rfl

theorem guarded_pollAll (v : Verbosity) (t : RateTimer) (readings : List UInt64) :
    guarded.pollAll t.period.micros t.last readings =
      some ((t.pollAll v readings).val.1, (t.pollAll v readings).val.2.last) := by
  induction readings generalizing t with
  | nil => rfl
  | cons now rest ih =>
    have hrest := ih (t.poll v now).val.2
    rw [period_poll] at hrest
    unfold Arithmetic.pollAll
    rw [guarded_poll v]
    show (guarded.pollAll t.period.micros (t.poll v now).val.2.last rest).bind _ = _
    rw [hrest]
    rfl

/-- A reading that is not an earlier one leaves less than a period behind the time that is kept. -/
theorem toNat_last_poll_le (v : Verbosity) {t : RateTimer} {now : UInt64}
    (h : t.last.toNat ≤ now.toNat) :
    (t.poll v now).val.2.last.toNat ≤ now.toNat ∧
      now.toNat - (t.poll v now).val.2.last.toNat < t.period.micros.toNat := by
  have hsplit := Nat.div_add_mod (now.toNat - t.last.toNat) t.period.micros.toNat
  have hrest := Nat.mod_lt (now.toNat - t.last.toNat) t.period.micros_pos
  rw [toNat_last_poll]
  omega

/-- The timer after one poll more. -/
theorem pollAll_take_succ (v : Verbosity) (t : RateTimer) {readings : List UInt64} {n : Nat}
    {now : UInt64} (hn : readings[n]? = some now) :
    (t.pollAll v (readings.take (n + 1))).val.2 =
      ((t.pollAll v (readings.take n)).val.2.poll v now).val.2 := by
  rw [List.take_add_one, hn, pollAll_append]
  rfl

/-- The ticks of a poll are those that the timer counts where the polls before it have left it. -/
theorem getElem?_ticks_pollAll (v : Verbosity) (t : RateTimer) (readings : List UInt64) (n : Nat) :
    (t.pollAll v readings).val.1[n]? =
      readings[n]?.map fun now => ((t.pollAll v (readings.take n)).val.2.poll v now).val.1 := by
  induction readings generalizing t n with
  | nil => rfl
  | cons now rest ih =>
    cases n with
    | zero => rfl
    | succ n => exact ih (t.poll v now).val.2 n

/-- **The arithmetic of timers is exact.**  A timer is made with any period and polled with any
readings in any order.  On words where a division by zero and a difference below zero have no
result, all the polls have one; a machine that lets differences wrap around comes to the same ticks
and the same time, and so does the calculation on the integers.  After a poll whose reading is not
before the time that the timer kept, the time that it keeps is at or before the reading, by less
than a period; a poll with an earlier reading counts nothing and changes nothing. -/
theorem exact_on_words (v : Verbosity) {d : Duration} {clock : Clock} {t : RateTimer}
    (h : (create d clock).1 = .ok t) (readings : List UInt64) :
    let period := t.period.micros
    let ticks := (t.pollAll v readings).val.1
    let last := (t.pollAll v readings).val.2.last
    let timer (n : Nat) := (t.pollAll v (readings.take n)).val.2
    (period.toNat = d.micros ∧ 0 < d.micros ∧ t.last = clock.read.1) ∧
      guarded.pollAll period t.last readings = some (ticks, last) ∧
      wrapping.pollAll period t.last readings = some (ticks, last) ∧
      integers.pollAll (number period) (number t.last) (readings.map number) =
        some (ticks.map number, number last) ∧
      ∀ n now, readings[n]? = some now →
        (timer n).period = t.period ∧
          ((timer n).last ≤ now → (timer (n + 1)).last ≤ now ∧
            now.toNat - (timer (n + 1)).last.toNat < period.toNat) ∧
          (now < (timer n).last → timer (n + 1) = timer n ∧ ticks[n]? = some 0) := by
  intro period ticks last timer
  obtain ⟨p, hp, rfl⟩ := create_eq_ok h
  have hmicros : d.micros = p.micros.toNat := Period.ofDuration_eq_ok_iff.1 hp
  have hguarded := guarded_pollAll v (start p clock.read.1) readings
  have hwrapping := guarded_embeds_wrapping.pollAll hguarded
  simp only [List.map_id] at hwrapping
  refine ⟨⟨hmicros.symm, ?_, rfl⟩, hguarded, hwrapping,
    guarded_embeds_integers.pollAll hguarded, ?_⟩
  · rw [hmicros]
    exact p.micros_pos
  · intro n now hn
    have hperiod : (timer n).period = p :=
      ((onGrid_start p clock.read.1).pollAll v (readings.take n)).period
    have hnext : timer (n + 1) = ((timer n).poll v now).val.2 := pollAll_take_succ v _ hn
    refine ⟨hperiod, ?_, ?_⟩
    · intro hlater
      obtain ⟨hle, hlt⟩ := toNat_last_poll_le v (UInt64.le_iff_toNat_le.1 hlater)
      rw [hperiod] at hlt
      rw [hnext]
      exact ⟨UInt64.le_iff_toNat_le.2 hle, hlt⟩
    · intro hearlier
      have hpoll : ((timer n).poll v now).val = (0, timer n) := by
        rw [poll_of_lt v hearlier]
        rfl
      refine ⟨by rw [hnext, hpoll], ?_⟩
      show (pollAll v _ readings).val.1[n]? = some 0
      rw [getElem?_ticks_pollAll, hn]
      show some ((timer n).poll v now).val.1 = some 0
      rw [hpoll]

/-- A timer of the longest period, made at the end of the clock's range, is read at zero, back at
the end and at the start of the range again.  It never ticks, and keeps its time; one of a
microsecond counts the whole range at once. -/
theorem exact_on_words_at_the_ends :
    let high : UInt64 := 18446744073709551615
    let slow := start ⟨high, by decide⟩ high
    let fast := start ⟨1, by decide⟩ 0
    ((create ⟨18446744073709, 551615000, by decide⟩ { now := high }).1 = .ok slow ∧
        guarded.pollAll high high [0, high, 1] = some ([0, 0, 0], high)) ∧
      (create (.ofMicros 1) {}).1 = .ok fast ∧
        integers.pollAll 1 0 [18446744073709551615, 5] =
          some ([18446744073709551615, 0], 18446744073709551615) := by
  intro high slow fast
  have hslow : (create ⟨18446744073709, 551615000, by decide⟩ { now := high }).1 = .ok slow := rfl
  have hfast : (create (.ofMicros 1) {}).1 = .ok fast := rfl
  obtain ⟨-, hguarded, -⟩ := exact_on_words .all hslow [0, high, 1]
  obtain ⟨-, -, -, hintegers, -⟩ := exact_on_words .all hfast [high, 5]
  exact ⟨⟨hslow, hguarded.trans (by decide)⟩, hfast, hintegers.trans (by decide)⟩

end RateTimer

end HostDevices
