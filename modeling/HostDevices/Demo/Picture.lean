import HostDevices.Key.Basic

/-!
# The demo's picture

The demo shows the devices on a screen of 64 columns and 32 rows: the ground is a grey of the key
held, and a bar along the last four rows is as long as the delay register is full, in one colour
while the sound register is counting and in another while it is not.

* `draw` — the picture, pixel by pixel.
* `runs` — a picture as counts of equal pixels in a row.
-/

namespace HostDevices.Demo

/-- A colour in 24 bits: red, green and blue from the top. -/
abbrev Color := UInt32

namespace Picture

/-- Columns of the screen. -/
def width : Nat := 64

/-- Rows of the screen. -/
def height : Nat := 32

/-- The ground: one of sixteen greys, black for the key of value zero and for no key. -/
def ground : Option Key → Color
  | some key => 0x11 * UInt32.ofNat key.value * 0x010101
  | none => 0

/-- The bar: one colour while it beeps and one while it does not. -/
def barColor (beeping : Bool) : Color := if beeping then 0xffcc00 else 0x00cc66

/-- The length of the bar: a full register would be the whole width. -/
def barLength (delay : UInt8) : Nat := delay.toNat * width / 256

/-- The colour of the pixel with a given number, counted row by row. -/
def pixel (key : Option Key) (delay : UInt8) (beeping : Bool) (i : Nat) : Color :=
  if height - 4 ≤ i / width ∧ i % width < barLength delay then barColor beeping else ground key

/-- Paints every pixel of a buffer, whatever it held. -/
def draw (buffer : List Color) (key : Option Key) (delay : UInt8) (beeping : Bool) : List Color :=
  buffer.mapIdx fun i _ => pixel key delay beeping i

/-- A buffer of the size of the screen. -/
def blank : List Color := List.replicate (width * height) 0

/-- The error card: the whole screen in red. -/
def errorCard : List Color := List.replicate (width * height) 0xff0000

@[simp] theorem length_draw (buffer : List Color) (key : Option Key) (delay : UInt8)
    (beeping : Bool) : (draw buffer key delay beeping).length = buffer.length := by
  simp [draw]

/-- A picture as counts of equal pixels in a row. -/
def runs : List Color → List (Nat × Color)
  | [] => []
  | c :: rest =>
    match runs rest with
    | (n, d) :: more => if c = d then (n + 1, d) :: more else (1, c) :: (n, d) :: more
    | [] => [(1, c)]

/-- The pixels that runs stand for. -/
def ofRuns (rs : List (Nat × Color)) : List Color :=
  rs.flatMap fun r => List.replicate r.1 r.2

/-- Nothing is lost in runs. -/
theorem ofRuns_runs (cs : List Color) : ofRuns (runs cs) = cs := by
  induction cs with
  | nil => rfl
  | cons c rest ih =>
    unfold runs
    cases hr : runs rest with
    | nil =>
      rw [hr] at ih
      simp [ofRuns] at ih ⊢
      exact ih
    | cons r more =>
      obtain ⟨n, d⟩ := r
      rw [hr] at ih
      by_cases h : c = d
      · subst h
        simp only [if_true]
        rw [← ih]
        simp [ofRuns, List.replicate_succ]
      · simp only [h, if_false]
        rw [← ih]
        simp [ofRuns, List.replicate_succ]

/-- A colour as six lower-case hexadecimal digits. -/
def colorText (c : Color) : String :=
  let digits := Nat.toDigits 16 c.toNat
  String.ofList (List.replicate (6 - digits.length) '0' ++ digits)

end Picture

end HostDevices.Demo
