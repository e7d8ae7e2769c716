import HostDevices.Proofs.Demo.Trail
import HostDevices.Proofs.Timing.Register
import Mathlib.Algebra.Ring.Int.Defs

/-!
# What a run of the demo shows

The picture of a frame can be told without running the demo.  It takes the times at which the frames
begin, the key that is held after each poll, and the last frame up to this one in which another key
went down: both registers were loaded there, and have been paid down since by the ticks between the
latest times up to the two frames.

* `Timeline` — the times and the keys of a run; `Timeline.ticks`, `Timeline.lastReload` and
  `Timeline.picture` are read off it.
* `Timeline.Charged` — the invariant of a register: it was loaded in the last such frame and is
  paid down to the latest time.
* `Timeline.Ready`, `Timeline.Served` — the invariant of the demo before a frame and at its
  picture; `Timeline.Ready.work` and `Timeline.Served.pass` lead from one to the other.
* `pictures_run` — what a run shows.
-/

namespace HostDevices.Demo

/-- What the pictures of a run depend on. -/
structure Timeline where
  options : Options
  /-- The time at which the demo starts. -/
  start : Int
  frames : List Frame
  /-- The key held after the poll of a frame. -/
  key : Nat → Option Key

namespace Timeline

/-- The time at which a frame begins. -/
def time (l : Timeline) (i : Nat) : Int :=
  l.start + ((l.frames.take i).map fun f => 16000 + f.delay).sum

/-- The latest time among the start and the first so many frames. -/
def latest (l : Timeline) (n : Nat) : Int := ((List.range n).map l.time).foldl max l.start

/-- The ticks from the start to a frame, by the latest time so far. -/
def ticks (l : Timeline) (i : Nat) : Int :=
  (l.latest (i + 1) - l.start) / (l.options.period.toNat : Int)

/-- The key held in the frame before; none before the first. -/
def keyBefore (l : Timeline) : Nat → Option Key
  | 0 => none
  | i + 1 => l.key i

/-- Another key is held than in the frame before. -/
def Reloads (l : Timeline) (i : Nat) : Prop := l.key i ≠ l.keyBefore i ∧ l.key i ≠ none

instance (l : Timeline) (i : Nat) : Decidable (l.Reloads i) :=
  inferInstanceAs (Decidable (_ ∧ _))

/-- The last of the first so many frames in which both registers are loaded. -/
def lastReload (l : Timeline) (n : Nat) : Option Nat :=
  ((List.range n).filter fun i => l.Reloads i).getLast?

/-- The picture of a frame: the bar is what is left of the delay after the ticks since the last
load, and it beeps while these are fewer than the beep. -/
def picture (l : Timeline) (i : Nat) : List Color :=
  match l.lastReload (i + 1) with
  | none => Picture.draw Picture.blank (l.key i) 0 false
  | some j =>
    let passed := l.ticks i - l.ticks j
    Picture.draw Picture.blank (l.key i) (UInt8.ofNat (l.options.delay.toNat - passed).toNat)
      (passed < l.options.beep.toNat)

variable {l : Timeline} {p : Period} {n i : Nat}

/-! ## Frame after frame -/

@[simp] theorem time_zero (l : Timeline) : l.time 0 = l.start := by simp [time]

theorem time_succ {f : Frame} (hf : l.frames[n]? = some f) :
    l.time (n + 1) = l.time n + 16000 + f.delay := by
  have htake : l.frames.take (n + 1) = l.frames.take n ++ [f] := by
    rw [List.take_add_one, hf]
    rfl
  have hone : ([f].map fun f => 16000 + f.delay).sum = 16000 + f.delay := by simp
  rw [time, htake, List.map_append, List.sum_append, hone, ← Int.add_assoc, ← Int.add_assoc]
  rfl

theorem latest_succ (l : Timeline) (n : Nat) :
    l.latest (n + 1) = max (l.latest n) (l.time n) := by
  simp [latest, List.range_succ]

theorem start_le_latest (l : Timeline) (n : Nat) : l.start ≤ l.latest n := by
  induction n with
  | zero => exact Int.le_refl _
  | succ n ih =>
    rw [latest_succ]
    exact Int.le_trans ih (Int.le_max_left _ _)

theorem lastReload_succ (l : Timeline) (n : Nat) :
    l.lastReload (n + 1) = if l.Reloads n then some n else l.lastReload n := by
  unfold lastReload
  by_cases h : l.Reloads n <;> simp [List.range_succ, h]

/-! ## The registers -/

/-- The ticks of a period from the start to the latest time among the first so many frames. -/
def counted (l : Timeline) (p : Period) (n : Nat) : Nat :=
  p.ticksTo l.start.toNat (l.latest n).toNat

/-- A register that is loaded with a value in every frame that loads it: it has been paid down to
the latest time among the first so many frames. -/
def Charged (l : Timeline) (p : Period) (n : Nat) (loaded : UInt8) (c : Countdown) : Prop :=
  match l.lastReload n with
  | none => c.Account p l.start.toNat (l.latest n).toNat 0 0
  | some j => c.Account p l.start.toNat (l.latest n).toNat loaded.toNat (l.counted p (j + 1))

variable {loaded : UInt8} {c : Countdown} {now : UInt64}

/-- A clock that does not go below the epoch reads the latest time in the same way. -/
theorem toNat_latest_succ (l : Timeline) (n : Nat) :
    (l.latest (n + 1)).toNat = max (l.latest n).toNat (l.time n).toNat := by
  rw [latest_succ]
  omega

/-- A register that counts from the start is charged for no frame. -/
theorem charged_start (l : Timeline) (p : Period) (hnow : now.toNat = l.start.toNat) :
    l.Charged p 0 loaded (.start p now) := by
  have haccount := Countdown.account_start p now
  rw [hnow] at haccount
  exact haccount

/-- A frame that loads nothing pays the register down to its time. -/
theorem Charged.update (h : l.Charged p n loaded c) (v : Verbosity)
    (hnow : now.toNat = (l.time n).toNat) (hkeep : ¬ l.Reloads n) :
    l.Charged p (n + 1) loaded (c.update v now).val := by
  unfold Charged at *
  rw [lastReload_succ, if_neg hkeep, toNat_latest_succ, ← hnow]
  split at h
  · exact h.update v now
  · exact h.update v now

/-- A frame that loads the register pays it down first, so that the load counts from its time. -/
theorem Charged.load (h : l.Charged p n loaded c) (v : Verbosity)
    (hnow : now.toNat = (l.time n).toNat) (hload : l.Reloads n) :
    l.Charged p (n + 1) loaded ((c.update v now).val.load v loaded).val := by
  unfold Charged at *
  rw [lastReload_succ, if_pos hload]
  simp only [counted, toNat_latest_succ, ← hnow]
  split at h
  · exact (h.update v now).load v loaded
  · exact (h.update v now).load v loaded

/-- So a frame that loads the register exactly when the key has changed charges it. -/
theorem Charged.serve {anew : Prop} [Decidable anew] (h : l.Charged p n loaded c) (v : Verbosity)
    (hnow : now.toNat = (l.time n).toNat) (hanew : anew ↔ l.Reloads n) :
    l.Charged p (n + 1) loaded
      (if anew then ((c.update v now).val.load v loaded).val else (c.update v now).val) := by
  by_cases hload : anew
  · rw [if_pos hload]
    exact h.load v hnow (hanew.1 hload)
  · rw [if_neg hload]
    exact h.update v hnow fun hreload => hload (hanew.2 hreload)

/-- Whether it was loaded or not, the timer of the register has counted up to the latest time. -/
theorem Charged.onGrid (h : l.Charged p n loaded c) :
    c.timer.OnGrid p l.start.toNat (l.latest n).toNat := by
  unfold Charged at h
  split at h
  · exact h.onGrid
  · exact h.onGrid

/-- A register that was never loaded is empty. -/
theorem Charged.value_of_none (h : l.Charged p n loaded c) (hlast : l.lastReload n = none) :
    c.value = 0 := by
  simp only [Charged, hlast] at h
  have hval := h.value
  rw [Nat.zero_sub] at hval
  exact UInt8.toNat_inj.1 hval

/-- The ticks to a frame are those of the period, once the clock is not below the epoch. -/
theorem ticks_eq_counted (hp : p.micros = l.options.period) (hstart : 0 ≤ l.start) (i : Nat) :
    l.ticks i = l.counted p (i + 1) := by
  have hle := l.start_le_latest (i + 1)
  have hlatest : ((l.latest (i + 1)).toNat : Int) = l.latest (i + 1) :=
    Int.toNat_of_nonneg (by omega)
  rw [ticks, counted, p.natCast_ticksTo (by omega), hlatest, Int.toNat_of_nonneg hstart, hp]

/-- A register that was loaded in a frame holds the load less the ticks since that frame. -/
theorem Charged.toNat_value (h : l.Charged p (i + 1) loaded c)
    (hp : p.micros = l.options.period) (hstart : 0 ≤ l.start) {j : Nat}
    (hlast : l.lastReload (i + 1) = some j) :
    (c.value.toNat : Int) = max 0 (loaded.toNat - (l.ticks i - l.ticks j)) := by
  simp only [Charged, hlast] at h
  have hval := h.value
  have hsince := h.since_le
  rw [ticks_eq_counted hp hstart, ticks_eq_counted hp hstart]
  change c.value.toNat = loaded.toNat - (l.counted p (i + 1) - l.counted p (j + 1)) at hval
  change l.counted p (j + 1) ≤ l.counted p (i + 1) at hsince
  omega

/-- What the two registers hold at a frame is what its picture is drawn from. -/
theorem picture_eq {delay sound : Countdown} (hp : p.micros = l.options.period)
    (hstart : 0 ≤ l.start) (hdelay : l.Charged p (i + 1) l.options.delay delay)
    (hsound : l.Charged p (i + 1) l.options.beep sound) :
    l.picture i = Picture.draw Picture.blank (l.key i) delay.value sound.isActive := by
  unfold picture
  cases hlast : l.lastReload (i + 1) with
  | none =>
    rw [hdelay.value_of_none hlast, Countdown.isActive, hsound.value_of_none hlast]
    rfl
  | some j =>
    have hleft := hdelay.toNat_value hp hstart hlast
    have hsounding := hsound.toNat_value hp hstart hlast
    have hvalue : UInt8.ofNat (l.options.delay.toNat - (l.ticks i - l.ticks j)).toNat =
        delay.value := by
      rw [← UInt8.ofNat_toNat (x := delay.value)]
      congr 1
      omega
    have hactive : sound.isActive =
        decide (l.ticks i - l.ticks j < (l.options.beep.toNat : Int)) := by
      have hzero : sound.value = 0 ↔ sound.value.toNat = 0 := UInt8.toNat_inj.symm
      rw [Bool.eq_iff_iff, decide_eq_true_iff, Countdown.isActive, bne_iff_ne, ne_eq, hzero]
      omega
    simp only [hvalue, hactive]

/-! ## The invariant of the demo -/

/-- The demo before a frame: no update has failed yet, and both registers are charged for the frames
before. -/
structure Ready (l : Timeline) (p : Period) (n : Nat) (s : State) : Prop where
  time : s.time = l.time n
  key : s.key = l.keyBefore n
  card : s.card = false
  delay : l.Charged p n l.options.delay s.devices.delay
  sound : l.Charged p n l.options.beep s.devices.sound

/-- The demo at the picture of a frame: both registers are charged for this frame too, and the latch
holds the key of the frame. -/
structure Served (l : Timeline) (p : Period) (n : Nat) (s : State) : Prop where
  time : s.time = l.time n
  held : s.devices.keypad.keypad.held = l.key n
  key : s.key = l.key n
  card : s.card = false
  delay : l.Charged p (n + 1) l.options.delay s.devices.delay
  sound : l.Charged p (n + 1) l.options.beep s.devices.sound

/-- A new demo is ready for its first frame. -/
theorem ready_initial (l : Timeline) (p : Period) (hnow : now.toNat = l.start.toNat) :
    l.Ready p 0 (.initial p now l.start) where
  time := l.time_zero.symm
  key := rfl
  card := rfl
  delay := charged_start l p hnow
  sound := charged_start l p hnow

variable {v : Verbosity} {s : State} {f : Frame}

/-- The work of a frame charges both registers, and loads both or none of them. -/
theorem Ready.work (h : l.Ready p n s) (hkey : s.latch v f = l.key n)
    (hnow : now.toNat = (l.time n).toNat) : l.Served p n (s.work v l.options f now).val := by
  obtain ⟨keypad, held, escaped, hsynced⟩ := State.val_synced v s f
  have hheld : keypad.keypad.held = l.key n := by rw [← hkey, State.latch, hsynced]
  have hanew : keypad.keypad.held ≠ s.key ∧ keypad.keypad.held ≠ none ↔ l.Reloads n := by
    rw [hheld, h.key]
    rfl
  rw [State.work, Logged.val_bind, hsynced, State.val_serve]
  refine ⟨h.time, hheld, hheld, h.card, ?_, ?_⟩
  · exact h.delay.serve v hnow hanew
  · exact h.sound.serve v hnow hanew

/-- A frame whose update does not fail leaves the demo ready for the next. -/
theorem Served.pass (h : l.Served p n s) (hf : l.frames[n]? = some f) (hok : f.failure = none) :
    l.Ready p (n + 1) ((s.present v f).2.pass f) := by
  rw [State.present_snd]
  refine ⟨?_, h.key, ?_, h.delay, h.sound⟩
  · rw [time_succ hf, ← h.time]
    rfl
  · simp [State.pass, h.card, hok]

/-- The picture of the demo is the picture of the timeline. -/
theorem Served.picture_eq (h : l.Served p n s) (hp : p.micros = l.options.period)
    (hstart : 0 ≤ l.start) : s.picture = l.picture n := by
  rw [Timeline.picture_eq hp hstart h.delay h.sound, State.picture, h.card,
    if_neg Bool.false_ne_true, h.held]

end Timeline

/-! ## A whole run -/

/-- The key held after the poll of a frame; none in a frame that the run does not come to. -/
def keyAt (v : Verbosity) (o : Options) (start : Int) (opens : Bool) (fs : List Frame) (i : Nat) :
    Option Key := do
  let s ← (trail v o start opens fs)[i]?
  let f ← fs[i]?
  s.latch v f

/-- The timeline of a run with known options. -/
def timeline (v : Verbosity) (o : Options) (start : Int) (opens : Bool) (fs : List Frame) :
    Timeline where
  options := o
  start := start
  frames := fs
  key := keyAt v o start opens fs

section Run

variable {v : Verbosity} {o : Options} {start : Int} {opens : Bool} {fs : List Frame} {p : Period}
  {n i : Nat} {s : State} {f : Frame} {now : UInt64}

theorem keyAt_eq (hs : (trail v o start opens fs)[i]? = some s) (hf : fs[i]? = some f) :
    keyAt v o start opens fs i = s.latch v f := by
  simp [keyAt, hs, hf]

/-- As long as no update has failed, the demo is ready for every frame that it comes to. -/
theorem ready_of_trail
    (hopen : (opening v o start opens).result = some (.ok (.initial p now start)))
    (hnow : now.toNat = start.toNat) (hs : (trail v o start opens fs)[n]? = some s)
    (htimes : ∀ j < n, (timeline v o start opens fs).time j < UInt64.size)
    (hok : ∀ g ∈ fs.take n, g.failure = none) : (timeline v o start opens fs).Ready p n s := by
  have htrail : trail v o start opens fs = (State.initial p now start).trail v o fs := by
    rw [trail, hopen]
  induction n generalizing s with
  | zero =>
    have hfirst : State.initial p now start = s := by
      rw [htrail] at hs
      exact State.trail_zero hs
    rw [← hfirst]
    exact Timeline.ready_initial _ p hnow
  | succ n ih =>
    rw [htrail] at hs
    obtain ⟨r, f, hr, hf, hframe⟩ := State.exists_frame_of_trail hs
    rw [← htrail] at hr
    obtain ⟨reading, hreading, -, rfl⟩ := State.frame_of_result hframe
    rw [List.take_add_one, hf, List.forall_mem_append] at hok
    have hready := ih hr (fun j hj => htimes j (Nat.lt_succ_of_lt hj)) hok.1
    have hserved := hready.work (keyAt_eq hr hf).symm
      (toNat_reading (hready.time ▸ hreading) (htimes n n.lt_succ_self))
    exact hserved.pass hf (hok.2 f (by simp))

/-- **What a run shows.**  In a run whose times a 64-bit clock can read, every frame up to the first
one whose update fails shows the picture of the timeline, unless a record is due before the picture
at a time that has no stamp; the demo then crashes without a picture.  The two registers have the
same timer all along. -/
theorem pictures_run {args : List String} (hargs : Options.ofArguments args = .ok o)
    (hs : (trail v o start opens fs)[i]? = some s) (hf : fs[i]? = some f)
    (htimes : ∀ j ≤ i, 0 ≤ (timeline v o start opens fs).time j ∧
      (timeline v o start opens fs).time j < UInt64.size)
    (hok : ∀ g ∈ fs.take i, g.failure = none) :
    let l := timeline v o start opens fs
    let outcome := run v args start opens fs
    s.devices.delay.timer = s.devices.sound.timer ∧
      (Stampable (l.time i) ∨ s.noted v o f = [] →
        (pictures outcome.events)[i]? = some (l.picture i)) ∧
      (¬ Stampable (l.time i) → s.noted v o f ≠ [] →
        (pictures outcome.events)[i]? = none ∧ outcome.exit = .crash) := by
  intro l outcome
  obtain ⟨s₀, hopen⟩ := exists_opening_of_trail hs
  obtain ⟨p, now, hp, hnow, rfl⟩ := opening_of_ok hopen
  have hstart : 0 ≤ start := by simpa [timeline] using (htimes 0 (Nat.zero_le _)).1
  have hbound : start < UInt64.size := by simpa [timeline] using (htimes 0 (Nat.zero_le _)).2
  have hearlier : ∀ j < i, l.time j < UInt64.size := fun j hj => (htimes j (Nat.le_of_lt hj)).2
  have hready : l.Ready p i s :=
    ready_of_trail hopen (toNat_reading hnow hbound) hs hearlier hok
  obtain ⟨reading, hreading⟩ := reading_of_nonneg (htimes i i.le_refl).1
  rw [← hready.time] at hreading ⊢
  have hserved := hready.work (keyAt_eq hs hf).symm
    (toNat_reading (hready.time ▸ hreading) (htimes i i.le_refl).2)
  have hnoted : s.noted v o f = (s.work v o f reading).log := by rw [State.noted, hreading]
  have hpictures := getElem?_pictures_run hargs hs hf
  rw [hnoted]
  refine ⟨hready.delay.onGrid.unique hready.sound.onGrid, ?_, ?_⟩
  · intro hstamp
    rw [hpictures, State.pictures_frame hreading hstamp, ← hserved.picture_eq hp hstart]
    rfl
  · intro hstamp hlog
    obtain ⟨hnone, hcrash⟩ := State.frame_of_unstamped hreading hstamp hlog
    rw [hpictures, hnone]
    exact ⟨rfl, exit_run_of_crash hargs hs hf hcrash⟩

/-- The clock goes back before the third frame and the update of the fourth fails; the fourth still
shows the bar of the delay and beeps, five ticks after the second. -/
theorem pictures_run_rewound :
    let fs : List Frame :=
      [{ keys := some [], delay := 50000 }, { keys := some ["Q"], delay := -60000 },
        { keys := some ["Q"], delay := 100000 },
        { keys := some ["Q", "W"], failure := some "full" }]
    (trail .all {} 0 true fs).length = 4 ∧
      (pictures (run .all [] 0 true fs).events)[3]? =
        some (Picture.draw Picture.blank (some ⟨4⟩) 55 true) := by
  intro fs
  have hlength : (trail .all {} 0 true fs).length = 4 := by decide +kernel
  have hargs : Options.ofArguments [] = .ok {} := rfl
  have hs := List.getElem?_eq_getElem (show 3 < (trail .all {} 0 true fs).length by omega)
  have htimes : ∀ j ≤ 3, 0 ≤ (timeline .all {} 0 true fs).time j ∧
      (timeline .all {} 0 true fs).time j < UInt64.size := by decide +kernel
  have hshown := (pictures_run hargs hs rfl htimes (by decide)).2.1 (Or.inl (by decide +kernel))
  refine ⟨hlength, hshown.trans (congrArg some ?_)⟩
  have hkey : (timeline .all {} 0 true fs).key 3 = some ⟨4⟩ := by decide +kernel
  have hlast : (timeline .all {} 0 true fs).lastReload 4 = some 1 := by decide +kernel
  have hpassed : (timeline .all {} 0 true fs).ticks 3 - (timeline .all {} 0 true fs).ticks 1 = 5 :=
    by decide +kernel
  simp only [Timeline.picture, hkey, hlast, hpassed]
  rfl

/-- A demo may start at the last time that has a stamp.  Its second frame has none: the demo crashes
there on the record of the key, and the frame shows no picture although no update has failed. -/
theorem picture_missing_without_stamp :
    let fs : List Frame := [{ keys := some [] }, { keys := some ["Q"] }]
    let start : Int := 253402207200999999
    let outcome := run (.upTo .info) [] start true fs
    (trail (.upTo .info) {} start true fs).length = 2 ∧ (∀ f ∈ fs, f.failure = none) ∧
      (∀ j ≤ 1, 0 ≤ (timeline (.upTo .info) {} start true fs).time j ∧
        (timeline (.upTo .info) {} start true fs).time j < UInt64.size) ∧
      (pictures outcome.events)[1]? = none ∧ outcome.exit = .crash := by
  decide +kernel

end Run

end HostDevices.Demo
