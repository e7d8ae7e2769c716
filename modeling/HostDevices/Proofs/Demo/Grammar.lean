import HostDevices.Demo.Options
import Mathlib.Data.Nat.Digits.Defs

/-!
# The grammar of command lines

A command line is made of groups: an option alone, or an option with a value in one of five
spellings.  Wherever a group stands, it is scanned as what it is: a value belongs to the option in
front of it, and no option is taken for a value.

* `Digits` — a value as it is typed, and `Digits.number`, the number that it denotes;
  `Digits.read_text` says that it is read as that number, or refused as too large.
* `Group` — an option as it is written, and `Group.arguments`, its arguments.
* `Argument.ofText_short`, `Argument.ofText_long`, `Argument.ofText_longEquals` — what each argument
  of a group is.
* `Options.scan_group_append` — a group is scanned in front of others, and `Options.scan_groups` —
  so are all groups of a command line.
-/

namespace HostDevices.Demo

/-! ## Values -/

/-- A value as it is typed: digits, one at least. -/
structure Digits where
  chars : List Char
  ne_nil : chars ≠ []
  isDigit : ∀ c ∈ chars, c.isDigit = true

namespace Digits

/-- The digits as an argument. -/
def text (ds : Digits) : String := String.ofList ds.chars

/-- The number that decimal digits denote, the last of them counting ones. -/
def numberOf (cs : List Char) : Nat :=
  Nat.ofDigits 10 (cs.reverse.map fun c => c.toNat - '0'.toNat)

/-- The number that the digits denote; zeros in front do not count. -/
def number (ds : Digits) : Nat := numberOf ds.chars

theorem numberOf_cons (c : Char) (cs : List Char) :
    numberOf (c :: cs) = (c.toNat - '0'.toNat) * 10 ^ cs.length + numberOf cs := by
  unfold numberOf
  rw [List.reverse_cons, List.map_append, Nat.ofDigits_append, List.map_singleton,
    Nat.ofDigits_singleton, List.length_map, List.length_reverse, Nat.add_comm, Nat.mul_comm]

theorem digitValue?_of_isDigit {c : Char} (h : c.isDigit = true) :
    Numeral.digitValue? c = some (c.toNat - '0'.toNat) := if_pos h

/-- Digits behind a number make it grow, so the bound is met in the end if it is met at all. -/
theorem readDigits_eq {bound acc : Nat} {cs : List Char} (hcs : ∀ c ∈ cs, c.isDigit = true)
    (hacc : acc ≤ bound) :
    Numeral.readDigits bound acc cs =
      if acc * 10 ^ cs.length + numberOf cs ≤ bound then
        .ok (acc * 10 ^ cs.length + numberOf cs)
      else .error .tooLarge := by
  induction cs generalizing acc with
  | nil =>
    have hzero : numberOf [] = 0 := rfl
    rw [Numeral.readDigits, hzero, List.length_nil, Nat.pow_zero, Nat.mul_one, Nat.add_zero,
      if_pos hacc]
  | cons c rest ih =>
    have hrest : ∀ d ∈ rest, d.isDigit = true := fun d hd => hcs d (List.mem_cons_of_mem _ hd)
    rw [Numeral.readDigits, digitValue?_of_isDigit (hcs c (List.mem_cons_self ..))]
    have hnumber : acc * 10 ^ (c :: rest).length + numberOf (c :: rest) =
        (10 * acc + (c.toNat - '0'.toNat)) * 10 ^ rest.length + numberOf rest := by
      rw [numberOf_cons, List.length_cons, Nat.pow_succ, Nat.add_mul]
      ring
    rw [hnumber]
    show (if 10 * acc + (c.toNat - '0'.toNat) ≤ bound then _ else _) = _
    generalize 10 * acc + (c.toNat - '0'.toNat) = next
    by_cases hnext : next ≤ bound
    · rw [if_pos hnext, ih hrest hnext]
    · have hgrown : ¬ next * 10 ^ rest.length + numberOf rest ≤ bound := by
        have hpos : 0 < 10 ^ rest.length := Nat.pow_pos (by decide)
        have := Nat.le_mul_of_pos_right next hpos
        omega
      rw [if_neg hnext, if_neg hgrown]

/-- The first of the digits. -/
theorem exists_cons (ds : Digits) : ∃ c rest, ds.chars = c :: rest ∧ c.isDigit = true := by
  obtain ⟨chars, hne, hdigit⟩ := ds
  cases chars with
  | nil => exact absurd rfl hne
  | cons c rest => exact ⟨c, rest, rfl, hdigit c (List.mem_cons_self ..)⟩

theorem ne_of_isDigit {c d : Char} (hc : c.isDigit = true) (hd : d.isDigit = false) : c ≠ d := by
  rintro rfl
  rw [hc] at hd
  cases hd

/-- Digits are read as the number that they denote, or refused as too large. -/
theorem read_text (bound : Nat) (ds : Digits) :
    Numeral.read bound ds.text =
      if ds.number ≤ bound then .ok ds.number else .error .tooLarge := by
  obtain ⟨c, rest, hchars, hc⟩ := ds.exists_cons
  have hplus : c ≠ '+' := ne_of_isDigit hc rfl
  have hread : Numeral.read bound ds.text = Numeral.readDigits bound 0 ds.chars := by
    unfold Numeral.read text
    rw [String.toList_ofList, hchars]
    split
    · rename_i h
      cases h
    · rename_i h
      cases h
      exact absurd rfl hplus
    · rename_i h
      cases h
      exact absurd rfl hplus
    · rfl
  rw [hread, readDigits_eq ds.isDigit (Nat.zero_le bound), Nat.zero_mul, Nat.zero_add]
  rfl

end Digits

/-! ## Groups -/

/-- The short name of an option. -/
def OptionName.letter : OptionName → Char
  | period => 'p'
  | beep => 'b'
  | delay => 'd'

/-- Every number below this one fits the option. -/
def OptionName.limit : OptionName → Nat
  | period => 2 ^ 64
  | beep => 2 ^ 8
  | delay => 2 ^ 8

/-- The number of an option that is not given, or given without a value. -/
def OptionName.standard : OptionName → Nat
  | period => 16666
  | beep => 10
  | delay => 60

theorem OptionName.le_bound_iff (name : OptionName) (n : Nat) :
    n ≤ name.bound ↔ n < name.limit := by
  have hword : UInt64.size = 2 ^ 64 := rfl
  have hbyte : UInt8.size = 2 ^ 8 := rfl
  cases name <;> simp only [bound, limit] <;> omega

/-- How a value is written behind its option. -/
inductive Spelling where
  /-- As in `-p5`. -/
  | short
  /-- As in `-p=5`. -/
  | shortEquals
  /-- As in `-p 5`. -/
  | shortApart
  /-- As in `--period 5`. -/
  | longApart
  /-- As in `--period=5`. -/
  | longEquals
deriving DecidableEq, Repr

/-- An option as it is written. -/
inductive Group where
  /-- As in `-p`, without a value. -/
  | bareShort (name : OptionName)
  /-- As in `--period`, without a value. -/
  | bareLong (name : OptionName)
  | valued (name : OptionName) (spelling : Spelling) (value : Digits)

namespace Group

/-- The option of a group. -/
def name : Group → OptionName
  | bareShort name => name
  | bareLong name => name
  | valued name _ _ => name

/-- The value of a group. -/
def value? : Group → Option Digits
  | bareShort _ => none
  | bareLong _ => none
  | valued _ _ value => some value

/-- The number that a group gives to its option. -/
def number? (g : Group) : Option Nat := g.value?.map Digits.number

/-- The number of a group, if there is one, fits its option. -/
def InRange (g : Group) : Prop := ∀ n, g.number? = some n → n < g.name.limit

instance (g : Group) : Decidable g.InRange :=
  inferInstanceAs (Decidable (∀ n ∈ g.number?, n < g.name.limit))

/-- The arguments of a group. -/
def arguments : Group → List String
  | bareShort name => [String.ofList ['-', name.letter]]
  | bareLong name => [String.ofList ('-' :: '-' :: name.text.toList)]
  | valued name .short value => [String.ofList ('-' :: name.letter :: value.chars)]
  | valued name .shortEquals value => [String.ofList ('-' :: name.letter :: '=' :: value.chars)]
  | valued name .shortApart value => [String.ofList ['-', name.letter], value.text]
  | valued name .longApart value =>
    [String.ofList ('-' :: '-' :: name.text.toList), value.text]
  | valued name .longEquals value =>
    [String.ofList ('-' :: '-' :: name.text.toList ++ '=' :: value.chars)]

/-- The option that a group gives. -/
def given (g : Group) : GivenOption := ⟨g.name, g.value?.map Digits.text⟩

end Group

/-! ## Single arguments -/

namespace Argument

open Digits

theorem ofText_digits (ds : Digits) : ofText ds.text = .word := by
  obtain ⟨c, rest, hchars, hc⟩ := ds.exists_cons
  have hdash : c ≠ '-' := ne_of_isDigit hc rfl
  unfold ofText Digits.text
  rw [String.toList_ofList, hchars]
  simp [hdash]

theorem attached_digits (ds : Digits) : attached ds.chars = some ds.text := by
  obtain ⟨c, rest, hchars, hc⟩ := ds.exists_cons
  have hequals : c ≠ '=' := ne_of_isDigit hc rfl
  unfold attached Digits.text
  rw [hchars]
  simp [hequals]

theorem attached_equals (ds : Digits) : attached ('=' :: ds.chars) = some ds.text := by
  obtain ⟨c, rest, hchars, hc⟩ := ds.exists_cons
  have hequals : c ≠ '=' := ne_of_isDigit hc rfl
  unfold attached Digits.text
  rw [hchars]
  simp [hequals]

/-- A short name and what is behind it. -/
theorem ofText_short (name : OptionName) (rest : List Char) :
    ofText (String.ofList ('-' :: name.letter :: rest)) = .named name (attached rest) := by
  unfold ofText
  rw [String.toList_ofList]
  cases name <;> rfl

/-- A long name without a value. -/
theorem ofText_long (name : OptionName) :
    ofText (String.ofList ('-' :: '-' :: name.text.toList)) = .named name none := by
  cases name <;> decide

/-- A long name and a value behind an equals sign. -/
theorem ofText_longEquals (name : OptionName) (rest : List Char) :
    ofText (String.ofList ('-' :: '-' :: name.text.toList ++ '=' :: rest)) =
      .named name (attached ('=' :: rest)) := by
  unfold ofText
  rw [String.toList_ofList]
  cases name <;> rfl

end Argument

/-! ## Scanning -/

namespace Options

open Argument

/-- A group begins with its option, so never with a word that the group in front of it could take for
a value. -/
theorem arguments_eq_cons (g : Group) :
    ∃ arg rest value, g.arguments = arg :: rest ∧ ofText arg = .named g.name value := by
  cases g with
  | bareShort name => exact ⟨_, _, _, rfl, ofText_short name []⟩
  | bareLong name => exact ⟨_, _, _, rfl, ofText_long name⟩
  | valued name spelling value =>
    cases spelling with
    | short => exact ⟨_, _, _, rfl, ofText_short name value.chars⟩
    | shortEquals => exact ⟨_, _, _, rfl, ofText_short name ('=' :: value.chars)⟩
    | shortApart => exact ⟨_, _, _, rfl, ofText_short name []⟩
    | longApart => exact ⟨_, _, _, rfl, ofText_long name⟩
    | longEquals => exact ⟨_, _, _, rfl, ofText_longEquals name value.chars⟩

/-- An option that has its value in the same argument. -/
theorem scan_attached {arg value : String} {name : OptionName}
    (harg : ofText arg = .named name (some value)) (args : List String) :
    scan (arg :: args) = (⟨name, some value⟩ :: ·) <$> scan args := by
  rw [scan, harg]

/-- An option that takes the next argument for its value. -/
theorem scan_apart {arg next : String} {name : OptionName} (harg : ofText arg = .named name none)
    (hnext : ofText next = .word) (args : List String) :
    scan (arg :: next :: args) = (⟨name, some next⟩ :: ·) <$> scan args := by
  rw [scan, harg]
  exact if_pos hnext

/-- An option without a value in front of other groups. -/
theorem scan_bare {arg : String} {name : OptionName} (harg : ofText arg = .named name none)
    (gs : List Group) :
    scan (arg :: gs.flatMap Group.arguments) =
      (⟨name, none⟩ :: ·) <$> scan (gs.flatMap Group.arguments) := by
  cases gs with
  | nil =>
    show scan [arg] = .ok [⟨name, none⟩]
    rw [scan, harg]
  | cons g rest =>
    obtain ⟨next, more, value, hg, hnext⟩ := arguments_eq_cons g
    have hword : ofText next ≠ .word := by
      rw [hnext]
      simp
    rw [List.flatMap_cons, hg, List.cons_append, scan, harg]
    exact if_neg hword

/-- A group in front of others is scanned as what it is. -/
theorem scan_group_append (g : Group) (gs : List Group) :
    scan (g.arguments ++ gs.flatMap Group.arguments) =
      (g.given :: ·) <$> scan (gs.flatMap Group.arguments) := by
  cases g with
  | bareShort name => exact scan_bare (ofText_short name []) gs
  | bareLong name => exact scan_bare (ofText_long name) gs
  | valued name spelling value =>
    cases spelling with
    | short =>
      have harg := ofText_short name value.chars
      rw [attached_digits] at harg
      exact scan_attached harg _
    | shortEquals =>
      have harg := ofText_short name ('=' :: value.chars)
      rw [attached_equals] at harg
      exact scan_attached harg _
    | shortApart => exact scan_apart (ofText_short name []) (ofText_digits value) _
    | longApart => exact scan_apart (ofText_long name) (ofText_digits value) _
    | longEquals =>
      have harg := ofText_longEquals name value.chars
      rw [attached_equals] at harg
      exact scan_attached harg _

/-- Groups are scanned as what they are, in order. -/
theorem scan_groups (gs : List Group) :
    scan (gs.flatMap Group.arguments) = .ok (gs.map Group.given) := by
  induction gs with
  | nil => rfl
  | cons g rest ih =>
    rw [List.flatMap_cons, scan_group_append, ih]
    rfl

end Options

end HostDevices.Demo
