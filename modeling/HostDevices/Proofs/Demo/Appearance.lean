import HostDevices.Demo.Picture
import Mathlib.Algebra.Group.Nat.Defs
import Mathlib.Data.List.Chain

/-!
# What a picture shows

A picture shows the value of the key held, a quarter of the delay register and, while there is a
bar, whether it beeps; nothing else can be read off it, and all of this can.

* `shownValue` — the value that a key has in the picture.
* `Picture.draw_eq` — a picture is a function of its size and of what it shows.
* `Picture.pixels_eq_iff` — pixels tell the ground, the length of the bar and its colour.
* `Picture.guardedDraw` — the picture calculated with bounded numbers;
  `Picture.guardedDraw_eq` says that no bound is ever met.
* `Picture.pos_of_mem_runs`, `Picture.isChain_runs` — the runs of a picture are as long as they can
  be.
* `Picture.draw_reveals` — all of this for pictures of any size.
-/

namespace HostDevices.Demo

/-- The value that a key has in the picture: no key looks like the key of value zero. -/
def shownValue : Option Key → Nat
  | some key => key.value
  | none => 0

namespace Picture

/-! ## Colours -/

/-- In numbers: a grey for each value, the products of the calculation being exact. -/
theorem toNat_ground (key : Option Key) : (ground key).toNat = 0x111111 * shownValue key := by
  cases key with
  | none => rfl
  | some key =>
    have hlt := key.value_lt
    show (0x11 * UInt32.ofNat key.value * 0x010101).toNat = 0x111111 * key.value
    rw [UInt32.toNat_mul, UInt32.toNat_mul, UInt32.toNat_ofNat_of_lt' (by
      have : UInt32.size = 2 ^ 32 := rfl
      omega)]
    have hgrey : (0x11 : UInt32).toNat = 0x11 := rfl
    have hspread : (0x010101 : UInt32).toNat = 0x010101 := rfl
    rw [hgrey, hspread]
    omega

theorem ground_eq_iff {key key' : Option Key} :
    ground key = ground key' ↔ shownValue key = shownValue key' := by
  rw [← UInt32.toNat_inj, toNat_ground, toNat_ground]
  omega

/-- The bar never has the colour of a ground. -/
theorem barColor_ne_ground (beeping : Bool) (key : Option Key) : barColor beeping ≠ ground key := by
  intro h
  have hnumber := congrArg UInt32.toNat h
  rw [toNat_ground] at hnumber
  cases beeping with
  | true =>
    have hcolor : (barColor true).toNat = 0xffcc00 := rfl
    omega
  | false =>
    have hcolor : (barColor false).toNat = 0x00cc66 := rfl
    omega

theorem barColor_injective {beeping beeping' : Bool} (h : barColor beeping = barColor beeping') :
    beeping = beeping' := by
  revert h
  cases beeping <;> cases beeping' <;> decide

theorem barLength_eq (delay : UInt8) : barLength delay = delay.toNat / 4 := by
  show delay.toNat * 64 / 256 = _
  omega

theorem barLength_lt (delay : UInt8) : barLength delay < width := by
  have hlt := delay.toNat_lt
  rw [barLength_eq]
  show _ < 64
  omega

/-! ## Pixels -/

section

variable {key key' : Option Key} {delay delay' : UInt8} {beeping beeping' : Bool}

/-- The first pixel belongs to the ground. -/
theorem pixel_zero (key : Option Key) (delay : UInt8) (beeping : Bool) :
    pixel key delay beeping 0 = ground key :=
  if_neg fun h => absurd h.1 (by decide)

/-- The first row of the bar. -/
theorem pixel_bar (key : Option Key) (delay : UInt8) (beeping : Bool) {x : Nat} (hx : x < width) :
    pixel key delay beeping (1792 + x) =
      if x < barLength delay then barColor beeping else ground key := by
  have hrow : (1792 + x) / width = 28 := by
    show (1792 + x) / 64 = 28
    change x < 64 at hx
    omega
  have hcolumn : (1792 + x) % width = x := by
    show (1792 + x) % 64 = x
    change x < 64 at hx
    omega
  unfold pixel
  rw [hrow, hcolumn]
  simp [height]

/-- Where one bar has ended and the other has not, the picture tells them apart. -/
theorem barLength_le_of_pixels (hground : ground key = ground key')
    (h : ∀ x < width, pixel key delay beeping (1792 + x) = pixel key' delay' beeping' (1792 + x)) :
    barLength delay' ≤ barLength delay := by
  by_contra hlt
  have hend := h (barLength delay) (barLength_lt delay)
  rw [pixel_bar key delay beeping (barLength_lt delay),
    pixel_bar key' delay' beeping' (barLength_lt delay), if_neg (Nat.lt_irrefl _),
    if_pos (Nat.lt_of_not_le hlt), hground] at hend
  exact barColor_ne_ground beeping' key' hend.symm

/-- Pixels tell what is shown, as soon as they reach to the end of the first row of the bar. -/
theorem pixels_eq_iff {n : Nat} (hn : 1856 ≤ n) :
    (∀ i < n, pixel key delay beeping i = pixel key' delay' beeping' i) ↔
      shownValue key = shownValue key' ∧ delay.toNat / 4 = delay'.toNat / 4 ∧
        (delay.toNat / 4 = 0 ∨ beeping = beeping') := by
  rw [← barLength_eq, ← barLength_eq, ← ground_eq_iff]
  constructor
  · intro h
    have hground : ground key = ground key' := by
      have hfirst := h 0 (by omega)
      rwa [pixel_zero, pixel_zero] at hfirst
    have hrow : ∀ x < width,
        pixel key delay beeping (1792 + x) = pixel key' delay' beeping' (1792 + x) := by
      intro x hx
      change x < 64 at hx
      exact h (1792 + x) (by omega)
    have hlength : barLength delay = barLength delay' :=
      Nat.le_antisymm (barLength_le_of_pixels hground.symm fun x hx => (hrow x hx).symm)
        (barLength_le_of_pixels hground hrow)
    refine ⟨hground, hlength, ?_⟩
    rcases Nat.eq_zero_or_pos (barLength delay) with hzero | hpos
    · exact Or.inl hzero
    · have hstart := hrow 0 (by decide)
      rw [pixel_bar key delay beeping (by decide), pixel_bar key' delay' beeping' (by decide),
        ← hlength, if_pos hpos, if_pos hpos] at hstart
      exact Or.inr (barColor_injective hstart)
  · rintro ⟨hground, hlength, hcolor⟩ i -
    unfold pixel
    rw [hground, hlength]
    rcases hcolor with hzero | rfl
    · -- without a bar its colour does not matter
      rw [← hlength, hzero]
      simp
    · rfl

end

/-! ## Pictures -/

section

variable (buffer : List Color) (key : Option Key) (delay : UInt8) (beeping : Bool)

/-- A picture is a function of the size of its buffer and of what it shows. -/
theorem draw_eq :
    draw buffer key delay beeping = (List.range buffer.length).map (pixel key delay beeping) := by
  apply List.ext_getElem
  · simp
  · intro i _ _
    simp [draw]

/-- A picture begins any larger picture that shows the same, whatever the buffers held. -/
theorem draw_eq_take {longer : List Color} (h : buffer.length ≤ longer.length) :
    draw buffer key delay beeping = (draw longer key delay beeping).take buffer.length := by
  rw [draw_eq, draw_eq, ← List.map_take, List.take_range, Nat.min_eq_left h]

end

/-! ## The same calculation with bounded numbers -/

/-- A number that fits into so many bits. -/
def fits (bits n : Nat) : Option Nat := if n < 2 ^ bits then some n else none

theorem fits_of_lt {bits n : Nat} (h : n < 2 ^ bits) : fits bits n = some n := if_pos h

/-- The ground, calculated with numbers of 32 bits. -/
def guardedGround : Option Key → Option Color
  | some key => do
    let grey ← fits 32 (0x11 * key.value)
    let spread ← fits 32 (grey * 0x010101)
    some (UInt32.ofNat spread)
  | none => some 0

section

variable (buffer : List Color) (key : Option Key) (delay : UInt8) (beeping : Bool)

/-- The colour of a pixel, calculated with numbers of 32 bits for colours and of so many bits for
lengths and places. -/
def guardedPixel (bits i : Nat) : Option Color := do
  let ground ← guardedGround key
  let scaled ← fits bits (delay.toNat * width)
  let place ← fits bits i
  let top ← if 4 ≤ height then some (height - 4) else none
  some (if top ≤ place / width ∧ place % width < scaled / 256 then barColor beeping else ground)

/-- The picture, calculated with bounded numbers. -/
def guardedDraw (bits : Nat) : Option (List Color) :=
  (List.range buffer.length).mapM (guardedPixel key delay beeping bits)

theorem guardedGround_eq : guardedGround key = some (ground key) := by
  cases key with
  | none => rfl
  | some key =>
    have hlt := key.value_lt
    have hgrey : fits 32 (0x11 * key.value) = some (0x11 * key.value) := fits_of_lt (by omega)
    have hspread : fits 32 (0x11 * key.value * 0x010101) = some (0x11 * key.value * 0x010101) :=
      fits_of_lt (by omega)
    have hexact : (ground (some key)).toNat = 0x11 * key.value * 0x010101 := by
      rw [toNat_ground, shownValue]
      omega
    rw [guardedGround, hgrey, Option.bind_eq_bind, Option.bind_some, hspread, Option.bind_some,
      ← hexact, UInt32.ofNat_toNat]

theorem guardedPixel_eq {bits i : Nat} (hbits : 16 ≤ bits) (hi : i < 2 ^ bits) :
    guardedPixel key delay beeping bits i = some (pixel key delay beeping i) := by
  have hpow : 2 ^ 16 ≤ 2 ^ bits := Nat.pow_le_pow_right (by decide) hbits
  have hdelay := delay.toNat_lt
  have hscaled : fits bits (delay.toNat * width) = some (delay.toNat * width) := by
    apply fits_of_lt
    show delay.toNat * 64 < 2 ^ bits
    omega
  unfold guardedPixel
  rw [guardedGround_eq, hscaled, fits_of_lt hi]
  rfl

/-- No bound is ever met, whatever the width of a word is. -/
theorem guardedDraw_eq {bits : Nat} (hbits : 16 ≤ bits) (hlength : buffer.length ≤ 2 ^ bits) :
    guardedDraw buffer key delay beeping bits = some (draw buffer key delay beeping) := by
  rw [draw_eq]
  unfold guardedDraw
  have hpixels : ∀ i ∈ List.range buffer.length,
      guardedPixel key delay beeping bits i = some (pixel key delay beeping i) := by
    intro i hi
    exact guardedPixel_eq key delay beeping hbits
      (Nat.lt_of_lt_of_le (List.mem_range.1 hi) hlength)
  generalize List.range buffer.length = places at hpixels
  induction places with
  | nil => rfl
  | cons i rest ih =>
    rw [List.mapM_cons, hpixels i (List.mem_cons_self ..),
      ih fun j hj => hpixels j (List.mem_cons_of_mem _ hj)]
    rfl

end

/-! ## Runs -/

/-- No run is empty. -/
theorem pos_of_mem_runs {cs : List Color} {r : Nat × Color} (hr : r ∈ runs cs) : 0 < r.1 := by
  fun_induction runs cs with
  | case1 => cases hr
  | case2 rest n d more hrest ih =>
    rcases List.mem_cons.1 hr with rfl | hmore
    · exact Nat.succ_pos n
    · apply ih
      rw [hrest]
      exact List.mem_cons_of_mem _ hmore
  | case3 c rest n d more hrest hother ih =>
    rcases List.mem_cons.1 hr with rfl | hmore
    · exact Nat.one_pos
    · exact ih (hrest ▸ hmore)
  | case4 c rest hrest ih =>
    obtain rfl := List.mem_singleton.1 hr
    exact Nat.one_pos

/-- A run ends only where the colour changes. -/
theorem isChain_runs (cs : List Color) : (runs cs).IsChain fun r s => r.2 ≠ s.2 := by
  fun_induction runs cs with
  | case1 => exact .nil
  | case2 rest n d more hrest ih =>
    -- the run that grows keeps its colour, and so its neighbour
    rw [hrest, List.isChain_cons] at ih
    rw [List.isChain_cons]
    exact ih
  | case3 c rest n d more hrest hother ih =>
    rw [hrest] at ih
    exact .cons_cons hother ih
  | case4 c rest hrest ih => exact .singleton _

/-- **What a picture reveals.**  Pictures of one size that reach to the end of the first row of the
bar are the same exactly when they show keys of one value, no key counting as zero, a delay register
of the same quarter, and, unless that is zero, bars of one colour.  A picture of any size does not
depend on what its buffer held, and begins any larger picture that shows the same; its calculation
stays within 32 bits for colours and within the bits of any word that can count the buffer; and its
runs are not empty, change the colour from one to the next, and make up the picture. -/
theorem draw_reveals (buffer : List Color) (key : Option Key) (delay : UInt8) (beeping : Bool) :
    let shown := draw buffer key delay beeping
    (1856 ≤ buffer.length → ∀ buffer' key' delay' beeping', buffer'.length = buffer.length →
        (shown = draw buffer' key' delay' beeping' ↔
          shownValue key = shownValue key' ∧ delay.toNat / 4 = delay'.toNat / 4 ∧
            (delay.toNat / 4 = 0 ∨ beeping = beeping'))) ∧
      (∀ longer, buffer.length ≤ longer.length →
        shown = (draw longer key delay beeping).take buffer.length) ∧
      (∀ bits, 16 ≤ bits → buffer.length ≤ 2 ^ bits →
        guardedDraw buffer key delay beeping bits = some shown) ∧
      (∀ r ∈ runs shown, 0 < r.1) ∧
      ((runs shown).IsChain fun r s => r.2 ≠ s.2) ∧
      ofRuns (runs shown) = shown := by
  intro shown
  refine ⟨?_, fun longer h => draw_eq_take buffer key delay beeping h,
    fun bits => guardedDraw_eq buffer key delay beeping, fun r => pos_of_mem_runs,
    isChain_runs shown, ofRuns_runs shown⟩
  intro hn buffer' key' delay' beeping' hlength
  rw [← pixels_eq_iff hn]
  show draw buffer key delay beeping = _ ↔ _
  rw [draw_eq, draw_eq, hlength, List.map_inj_left]
  simp only [List.mem_range]

/-- On the whole screen, over whatever it held before, no key and three ticks left look like the key
of value zero and an empty register, beeping or not; with four ticks left it is seen whether it
beeps. -/
theorem draw_reveals_four_ticks :
    draw blank none 3 true = draw errorCard (some ⟨0⟩) 0 false ∧
      draw blank none 4 true ≠ draw blank none 4 false := by
  have hsize : 1856 ≤ blank.length := by
    rw [blank, List.length_replicate]
    decide
  have hcard : errorCard.length = blank.length := by
    rw [errorCard, blank, List.length_replicate, List.length_replicate]
  constructor
  · exact ((draw_reveals blank none 3 true).1 hsize errorCard (some ⟨0⟩) 0 false hcard).2
      ⟨rfl, rfl, Or.inl rfl⟩
  · intro h
    obtain ⟨-, -, hbeeping⟩ := ((draw_reveals blank none 4 true).1 hsize blank none 4 false rfl).1 h
    revert hbeeping
    decide

end Picture

end HostDevices.Demo
