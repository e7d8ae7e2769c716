/-!
# Keys of the hexadecimal keypad

The keypad has sixteen keys, one per hexadecimal digit.  A key is written as one upper-case
hexadecimal digit, keys are ordered by value, and "no key" comes before every key.

* `Key.ofValue?` — the key of a number, refused from sixteen on.
* `Key.digit` — the character a key is written as.
* `Key.number` — a key or "no key" as one integer, `-1` standing for "no key".
* `Key.least?` — the smallest of a list of such optional keys.
-/

namespace HostDevices

/-- One of the sixteen keys. -/
structure Key where
  /-- The position of the key in numeric order. -/
  index : Fin 16
deriving DecidableEq, Repr

namespace Key

/-- The digit the key stands for, a number below sixteen. -/
def value (k : Key) : Nat := k.index.val

theorem value_lt (k : Key) : k.value < 16 := k.index.isLt

/-- The key of a number, if the number is a hexadecimal digit. -/
def ofValue? (n : Nat) : Option Key :=
  if h : n < 16 then some ⟨⟨n, h⟩⟩ else none

/-- All keys in numeric order. -/
def all : List Key := (List.finRange 16).map Key.mk

/-- The upper-case hexadecimal digit of the key. -/
def digit (k : Key) : Char :=
  if k.value < 10 then Char.ofNat ('0'.toNat + k.value) else Char.ofNat ('A'.toNat + (k.value - 10))

/-- The key as text: its digit. -/
def text (k : Key) : String := String.singleton k.digit

/-- The key in field notation. -/
def fieldText (k : Key) : String := "HexKey(" ++ k.value.repr ++ ")"

/-- A key or "no key" as one integer, `-1` standing for "no key". -/
def number : Option Key → Int
  | some k => k.value
  | none => -1

/-! ## Order -/

/-- Keys in ascending order of value; equal keys are all kept. -/
def sorted (ks : List Key) : List Key := ks.mergeSort fun a b => decide (a.value ≤ b.value)

/-- The smaller of two optional keys: "no key" is below every key. -/
def min? (a b : Option Key) : Option Key :=
  if number b < number a then b else a

/-- The smallest of several optional keys, and "no key" when there are none. -/
def least? : List (Option Key) → Option Key
  | [] => none
  | a :: rest => rest.foldl min? a

end Key

end HostDevices
