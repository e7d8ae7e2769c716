/-!
# Reading and writing numerals

Unsigned decimal numerals with an upper bound, as they are typed on a command line, and the digit
strings that other texts are made of.

* `Numeral.read` — the number a text denotes, or why it denotes none.
* `Numeral.fixed` — a number in exactly so many digits.
* `Numeral.fraction` — the digits behind a decimal point, without closing zeros.
-/

namespace HostDevices

/-- Why a text is not a numeral within its bound. -/
inductive NumeralError where
  | empty
  | invalidDigit
  | tooLarge
deriving DecidableEq, Repr

/-- The wording of a numeral error. -/
def NumeralError.message : NumeralError → String
  | empty => "cannot parse integer from empty string"
  | invalidDigit => "invalid digit found in string"
  | tooLarge => "number too large to fit in target type"

namespace Numeral

/-! ## Reading -/

/-- The number of a decimal digit. -/
def digitValue? (c : Char) : Option Nat :=
  if c.isDigit then some (c.toNat - '0'.toNat) else none

/-- Reads digits from the left onto `acc`; the first character that is no digit, or that lifts the
number above `bound`, decides the error. -/
def readDigits (bound acc : Nat) : List Char → Except NumeralError Nat
  | [] => .ok acc
  | c :: rest =>
    match digitValue? c with
    | none => .error .invalidDigit
    | some d =>
      if 10 * acc + d ≤ bound then readDigits bound (10 * acc + d) rest else .error .tooLarge

/-- Reads a numeral of at most `bound`: one or more digits behind at most one plus sign. -/
def read (bound : Nat) (s : String) : Except NumeralError Nat :=
  match s.toList with
  | [] => .error .empty
  | ['+'] => .error .invalidDigit
  | '+' :: digits => readDigits bound 0 digits
  | digits => readDigits bound 0 digits

/-! ## Writing -/

/-- The last `places` decimal digits of a number, zeros in front included. -/
def fixed : (places : Nat) → Nat → List Char
  | 0, _ => []
  | places + 1, n => fixed places (n / 10) ++ [Nat.digitChar (n % 10)]

@[simp] theorem length_fixed (places n : Nat) : (fixed places n).length = places := by
  induction places generalizing n with
  | zero => rfl
  | succ places ih => simp [fixed, ih]

/-- A fraction of `places` digits behind its point, closing zeros left out; nothing at all, not
even the point, when every digit is zero. -/
def fraction (places n : Nat) : List Char :=
  match (fixed places n).reverse.dropWhile (· == '0') with
  | [] => []
  | digits => '.' :: digits.reverse

/-- A whole number followed by a fraction of `places` digits. -/
def mixed (whole places n : Nat) : String :=
  whole.repr ++ String.ofList (fraction places n)

end Numeral

end HostDevices
