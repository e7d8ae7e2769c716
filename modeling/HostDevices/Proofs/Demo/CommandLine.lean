import HostDevices.Proofs.Demo.Grammar
import Mathlib.Data.List.Nodup
import Mathlib.Data.List.Perm.Basic

/-!
# Command lines of the demo

What comes of a command line depends only on which options are given and which numbers they are
given, not on how they are written nor on their order.

* `Setting` — what a group says, and `Options.settle`, what comes of an option.
* `Options.ofSettings` — what comes of settings; `Options.ofSettings_cases` says that these are the
  numbers that are found, or the error of one option.
* `Options.ofSettings_perm` — the order of settings does not matter.
* `Options.ofArguments_groups` — command lines say what their groups say.
* `Options.result_of_groups` — what comes of a command line, in each of the cases that there are.
-/

namespace HostDevices.Demo

/-! ## Settings -/

/-- What a group says: the option, and the number that it is given if it is given one. -/
structure Setting where
  name : OptionName
  number : Option Nat
deriving DecidableEq, Repr

/-- What a group says, however it is written. -/
def Group.setting (g : Group) : Setting := ⟨g.name, g.number?⟩

namespace Options

/-- The numbers that settings give to an option. -/
def numbersFor (ss : List Setting) (name : OptionName) : List Nat :=
  (ss.filter (·.name == name)).filterMap Setting.number

/-- What comes of the settings of an option: each number must fit, and the option may be set
once. -/
def settle (ss : List Setting) (name : OptionName) : Except OptionsError (Option Nat) :=
  if ∀ n ∈ numbersFor ss name, n < name.limit then
    if (ss.filter (·.name == name)).length > 1 then .error (.multipleUsage name)
    else .ok (numbersFor ss name).head?
  else .error (.invalidValue name .tooLarge)

/-- What comes of settings: the options are settled in turn, and the first that cannot be decides
the error. -/
def ofSettings (ss : List Setting) : Except OptionsError Options := do
  let period ← settle ss .period
  let beep ← settle ss .beep
  let delay ← settle ss .delay
  let defaults : Options := {}
  pure {
    period := (period.map UInt64.ofNat).getD defaults.period
    beep := (beep.map UInt8.ofNat).getD defaults.beep
    delay := (delay.map UInt8.ofNat).getD defaults.delay }

/-- Values are read one by one; the first that does not fit decides the error. -/
theorem mapM_read (name : OptionName) (values : List Digits) :
    (values.map Digits.text).mapM (fun value =>
        (Numeral.read name.bound value).mapError (OptionsError.invalidValue name)) =
      if ∀ n ∈ values.map Digits.number, n < name.limit then .ok (values.map Digits.number)
      else .error (.invalidValue name .tooLarge) := by
  induction values with
  | nil => rfl
  | cons ds rest ih =>
    simp only [List.map_cons, List.forall_mem_cons]
    rw [List.mapM_cons, Digits.read_text, ih]
    by_cases hfirst : ds.number < name.limit
    · rw [if_pos ((name.le_bound_iff _).2 hfirst)]
      by_cases hrest : ∀ n ∈ rest.map Digits.number, n < name.limit
      · rw [if_pos hrest, if_pos ⟨hfirst, hrest⟩]
        rfl
      · rw [if_neg hrest, if_neg (mt And.right hrest)]
        rfl
    · rw [if_neg (mt (name.le_bound_iff _).1 hfirst), if_neg (mt And.left hfirst)]
      rfl

/-- The numbers of an option are those of its values. -/
theorem numbersFor_setting (gs : List Group) (name : OptionName) :
    numbersFor (gs.map Group.setting) name =
      ((gs.filter (·.name == name)).filterMap Group.value?).map Digits.number := by
  unfold numbersFor
  rw [List.filter_map, List.filterMap_map, List.map_filterMap]
  rfl

/-- The number of an option in scanned groups is what the groups say of it. -/
theorem number?_given (gs : List Group) (name : OptionName) :
    number? (gs.map Group.given) name = settle (gs.map Group.setting) name := by
  have hmine : (gs.map Group.given).filter (·.name == name) =
      (gs.filter (·.name == name)).map Group.given := List.filter_map
  have hsaid : (gs.map Group.setting).filter (·.name == name) =
      (gs.filter (·.name == name)).map Group.setting := List.filter_map
  have hvalues : ((gs.filter (·.name == name)).map Group.given).filterMap (·.value) =
      ((gs.filter (·.name == name)).filterMap Group.value?).map Digits.text := by
    rw [List.filterMap_map, List.map_filterMap]
    rfl
  unfold number? settle
  simp only [hmine, hsaid, hvalues, mapM_read, numbersFor_setting, List.length_map]
  split
  · rfl
  · rfl

/-- Command lines say what their groups say. -/
theorem ofArguments_groups (gs : List Group) :
    ofArguments (gs.flatMap Group.arguments) = ofSettings (gs.map Group.setting) := by
  unfold ofArguments ofSettings
  rw [scan_groups]
  show (number? (gs.map Group.given) .period).bind _ = _
  simp only [number?_given]
  rfl

/-! ## What comes of settings -/

/-- The number that an option has. -/
def value (o : Options) : OptionName → Nat
  | .period => o.period.toNat
  | .beep => o.beep.toNat
  | .delay => o.delay.toNat

/-- An option that is settled is set once at most, to a number that fits. -/
theorem settle_eq_ok {ss : List Setting} {name : OptionName} {found : Option Nat}
    (h : settle ss name = .ok found) :
    (∀ n ∈ numbersFor ss name, n < name.limit) ∧
      (ss.filter (·.name == name)).length ≤ 1 ∧ found = (numbersFor ss name).head? := by
  unfold settle at h
  split at h
  · rename_i hfit
    split at h
    · cases h
    · rename_i honce
      cases h
      exact ⟨hfit, by omega, rfl⟩
  · cases h

/-- The number that is found for an option fits it. -/
theorem lt_limit_of_settle {ss : List Setting} {name : OptionName} {n : Nat}
    (h : settle ss name = .ok (some n)) : n < name.limit := by
  obtain ⟨hfit, -, hfound⟩ := settle_eq_ok h
  exact hfit n (List.mem_of_mem_head? hfound.symm)

/-- Settings come to the numbers that are found for each option, if all of them can be settled, and
otherwise to the error of one of them. -/
theorem ofSettings_cases (ss : List Setting) :
    (∃ found : OptionName → Option Nat, (∀ name, settle ss name = .ok (found name)) ∧
        ∃ o, ofSettings ss = .ok o ∧ ∀ name, o.value name = (found name).getD name.standard) ∨
      ∃ name e, settle ss name = .error e ∧ ofSettings ss = .error e := by
  unfold ofSettings
  cases hperiod : settle ss .period with
  | error e => exact Or.inr ⟨.period, e, hperiod, rfl⟩
  | ok period =>
    cases hbeep : settle ss .beep with
    | error e => exact Or.inr ⟨.beep, e, hbeep, rfl⟩
    | ok beep =>
      cases hdelay : settle ss .delay with
      | error e => exact Or.inr ⟨.delay, e, hdelay, rfl⟩
      | ok delay =>
        refine Or.inl ⟨fun | .period => period | .beep => beep | .delay => delay, ?_, _, rfl, ?_⟩
        · intro name
          cases name with
          | period => exact hperiod
          | beep => exact hbeep
          | delay => exact hdelay
        · intro name
          cases name with
          | period =>
            cases period with
            | none => rfl
            | some n => exact UInt64.toNat_ofNat_of_lt' (lt_limit_of_settle hperiod)
          | beep =>
            cases beep with
            | none => rfl
            | some n => exact UInt8.toNat_ofNat_of_lt' (lt_limit_of_settle hbeep)
          | delay =>
            cases delay with
            | none => rfl
            | some n => exact UInt8.toNat_ofNat_of_lt' (lt_limit_of_settle hdelay)

/-- What comes of an option does not depend on the order of settings. -/
theorem settle_perm {ss ts : List Setting} (h : ss.Perm ts) (name : OptionName) :
    settle ss name = settle ts name := by
  have hmine : (ss.filter (·.name == name)).Perm (ts.filter (·.name == name)) := h.filter _
  have hnumbers : (numbersFor ss name).Perm (numbersFor ts name) := hmine.filterMap _
  have hfit : (∀ n ∈ numbersFor ss name, n < name.limit) ↔
      ∀ n ∈ numbersFor ts name, n < name.limit := by
    simp only [hnumbers.mem_iff]
  unfold settle
  rw [hmine.length_eq]
  by_cases hall : ∀ n ∈ numbersFor ts name, n < name.limit
  · rw [if_pos hall, if_pos (hfit.2 hall)]
    by_cases hmany : (ts.filter (·.name == name)).length > 1
    · rw [if_pos hmany, if_pos hmany]
    · rw [if_neg hmany, if_neg hmany]
      have hfew : (numbersFor ts name).length ≤ 1 :=
        (List.length_filterMap_le _ _).trans (Nat.le_of_not_lt hmany)
      -- there is one number at most, which has no other order
      have hsame : numbersFor ss name = numbersFor ts name := by
        cases hts : numbersFor ts name with
        | nil => exact (hts ▸ hnumbers).eq_nil
        | cons n rest =>
          rw [hts] at hfew hnumbers
          obtain rfl : rest = [] := List.length_eq_zero_iff.1 (by simpa using hfew)
          exact hnumbers.eq_singleton
      rw [hsame]
  · rw [if_neg hall, if_neg (mt hfit.1 hall)]

/-- The order of settings does not matter. -/
theorem ofSettings_perm {ss ts : List Setting} (h : ss.Perm ts) :
    ofSettings ss = ofSettings ts := by
  unfold ofSettings
  simp only [settle_perm h]

/-! ## Command lines -/

/-- A number of an option is the number of a group of that option. -/
theorem mem_numbersFor_setting {gs : List Group} {name : OptionName} {n : Nat} :
    n ∈ numbersFor (gs.map Group.setting) name ↔ ∃ g ∈ gs, g.name = name ∧ g.number? = some n := by
  unfold numbersFor
  rw [List.mem_filterMap]
  constructor
  · rintro ⟨s, hs, hn⟩
    obtain ⟨hmem, hname⟩ := List.mem_filter.1 hs
    obtain ⟨g, hg, rfl⟩ := List.mem_map.1 hmem
    exact ⟨g, hg, beq_iff_eq.1 hname, hn⟩
  · rintro ⟨g, hg, hname, hn⟩
    exact ⟨g.setting, List.mem_filter.2 ⟨List.mem_map_of_mem hg, beq_iff_eq.2 hname⟩, hn⟩

/-- How often an option is given. -/
theorem length_filter_setting (gs : List Group) (name : OptionName) :
    ((gs.map Group.setting).filter (·.name == name)).length = (gs.map Group.name).count name := by
  rw [← List.countP_eq_length_filter, List.count_eq_countP, List.countP_map, List.countP_map]
  rfl

/-- Why an option cannot be settled: a number does not fit, or it is given twice. -/
theorem settle_eq_error {gs : List Group} {name : OptionName} {e : OptionsError}
    (h : settle (gs.map Group.setting) name = .error e) :
    (∃ g ∈ gs, g.name = name ∧ ¬ g.InRange ∧ e = .invalidValue name .tooLarge) ∨
      2 ≤ (gs.map Group.name).count name ∧ e = .multipleUsage name := by
  unfold settle at h
  split at h
  · split at h
    · rename_i hmany
      cases h
      rw [length_filter_setting] at hmany
      exact Or.inr ⟨hmany, rfl⟩
    · cases h
  · rename_i hfit
    cases h
    left
    by_contra hnone
    apply hfit
    intro n hn
    obtain ⟨g, hg, hname, hnumber⟩ := mem_numbersFor_setting.1 hn
    by_contra hlarge
    refine hnone ⟨g, hg, hname, ?_, rfl⟩
    intro hrange
    exact hlarge (hname ▸ hrange n hnumber)

/-- Groups that are settled are in range. -/
theorem inRange_of_settle {gs : List Group} {name : OptionName} {found : Option Nat}
    (h : settle (gs.map Group.setting) name = .ok found) {g : Group} (hg : g ∈ gs)
    (hname : g.name = name) : g.InRange := by
  subst hname
  intro n hn
  exact (settle_eq_ok h).1 n (mem_numbersFor_setting.2 ⟨g, hg, rfl, hn⟩)

/-- The number of a group is the one that is found for its option. -/
theorem eq_some_of_settle {gs : List Group} {g : Group} {n : Nat} {found : Option Nat} (hg : g ∈ gs)
    (hn : g.number? = some n) (h : settle (gs.map Group.setting) g.name = .ok found) :
    found = some n := by
  obtain ⟨-, honce, rfl⟩ := settle_eq_ok h
  have hmem : n ∈ numbersFor (gs.map Group.setting) g.name :=
    mem_numbersFor_setting.2 ⟨g, hg, rfl, hn⟩
  have hfew : (numbersFor (gs.map Group.setting) g.name).length ≤ 1 :=
    (List.length_filterMap_le _ _).trans honce
  cases hnumbers : numbersFor (gs.map Group.setting) g.name with
  | nil => simp [hnumbers] at hmem
  | cons m rest =>
    rw [hnumbers] at hmem hfew
    obtain rfl : rest = [] := List.length_eq_zero_iff.1 (by simpa using hfew)
    rw [List.mem_singleton.1 hmem]
    rfl

/-- Nothing is found for an option that no group gives a number. -/
theorem eq_none_of_settle {gs : List Group} {name : OptionName} {found : Option Nat}
    (hbare : ∀ g ∈ gs, g.name = name → g.number? = none)
    (h : settle (gs.map Group.setting) name = .ok found) : found = none := by
  obtain ⟨-, -, rfl⟩ := settle_eq_ok h
  rw [List.head?_eq_none_iff, List.eq_nil_iff_forall_not_mem]
  intro n hn
  obtain ⟨g, hg, hname, hnumber⟩ := mem_numbersFor_setting.1 hn
  rw [hbare g hg hname] at hnumber
  cases hnumber

/-- In the settings of the devices the period counts exactly as many microseconds as were given. -/
theorem nanos_config (o : Options) :
    10 ^ 9 * o.config.timerPeriod.secs.toNat + o.config.timerPeriod.nanos =
      1000 * o.value .period := by
  show 10 ^ 9 * (o.period / 1000000).toNat + (o.period % 1000000).toNat * 1000 =
    1000 * o.period.toNat
  have hmillion : (1000000 : UInt64).toNat = 1000000 := rfl
  rw [UInt64.toNat_div, UInt64.toNat_mod, hmillion]
  omega

/-- **What comes of a command line.**  A command line is made of groups, each an option alone or
with a value of any digits in any spelling.  If no option is given twice and every number fits, the
options are the numbers that are denoted, and the standard ones for options that are left out or
given without a value; the devices are set up with exactly that many microseconds.  Groups that say
the same come to the same, in whatever spelling and order.  If no option is given twice and the
number of just one group does not fit, that group's option is named as having too large a value; if
all numbers fit and an option is given twice, such an option is named. -/
theorem result_of_groups (gs : List Group) :
    let result := ofArguments (gs.flatMap Group.arguments)
    ((gs.map Group.name).Nodup → (∀ g ∈ gs, g.InRange) →
        ∃ o, result = .ok o ∧
          (∀ g ∈ gs, ∀ n, g.number? = some n → o.value g.name = n) ∧
          (∀ name, (∀ g ∈ gs, g.name = name → g.number? = none) → o.value name = name.standard) ∧
          10 ^ 9 * o.config.timerPeriod.secs.toNat + o.config.timerPeriod.nanos =
            1000 * o.value .period) ∧
      (∀ hs : List Group, (hs.map Group.setting).Perm (gs.map Group.setting) →
        ofArguments (hs.flatMap Group.arguments) = result) ∧
      ((gs.map Group.name).Nodup → ∀ g ∈ gs, ¬ g.InRange → (∀ h ∈ gs, ¬ h.InRange → h = g) →
        result = .error (.invalidValue g.name .tooLarge) ∧
          (OptionsError.invalidValue g.name .tooLarge).message =
            "error: Invalid value for '--" ++ g.name.text ++ " <" ++ g.name.text ++
              ">': number too large to fit in target type") ∧
      (¬ (gs.map Group.name).Nodup → (∀ g ∈ gs, g.InRange) →
        ∃ name, 2 ≤ (gs.map Group.name).count name ∧ result = .error (.multipleUsage name)) := by
  intro result
  have hresult : result = ofSettings (gs.map Group.setting) := ofArguments_groups gs
  rw [hresult]
  refine ⟨?_, ?_, ?_, ?_⟩
  · intro honce hrange
    rcases ofSettings_cases (gs.map Group.setting) with
      ⟨found, hfound, o, ho, hvalue⟩ | ⟨name, e, he, -⟩
    · refine ⟨o, ho, ?_, ?_, nanos_config o⟩
      · intro g hg n hn
        rw [hvalue, eq_some_of_settle hg hn (hfound g.name)]
        rfl
      · intro name hbare
        rw [hvalue, eq_none_of_settle hbare (hfound name)]
        rfl
    · rcases settle_eq_error he with ⟨g, hg, -, hlarge, -⟩ | ⟨htwice, -⟩
      · exact absurd (hrange g hg) hlarge
      · have := List.nodup_iff_count_le_one.1 honce name
        omega
  · intro hs hsame
    rw [ofArguments_groups, ofSettings_perm hsame]
  · intro honce g hg hlarge honly
    refine ⟨?_, by cases g.name <;> rfl⟩
    rcases ofSettings_cases (gs.map Group.setting) with
      ⟨found, hfound, -⟩ | ⟨name, e, he, herror⟩
    · exact absurd (inRange_of_settle (hfound g.name) hg rfl) hlarge
    · rcases settle_eq_error he with ⟨h, hh, rfl, hlarge', rfl⟩ | ⟨htwice, -⟩
      · rw [herror, honly h hh hlarge']
      · have := List.nodup_iff_count_le_one.1 honce name
        omega
  · intro htwice hrange
    rcases ofSettings_cases (gs.map Group.setting) with
      ⟨found, hfound, -⟩ | ⟨name, e, he, herror⟩
    · refine absurd (List.nodup_iff_count_le_one.2 fun name => ?_) htwice
      rw [← length_filter_setting]
      exact (settle_eq_ok (hfound name)).2.1
    · rcases settle_eq_error he with ⟨g, hg, -, hlarge, -⟩ | ⟨hmany, rfl⟩
      · exact absurd (hrange g hg) hlarge
      · exact ⟨name, hmany, herror⟩

/-- A bare option in front of a long one keeps its standard number, and zeros in front of a period
do not count; in other spellings, with the options turned round, nothing changes.  A beep of 256 is
too large, also in front of a bare option, and two beeps are one too many, although one is bare. -/
theorem result_of_groups_spelled :
    (∃ o, ofArguments ["-d", "--period=0020000", "-b", "7"] = .ok o ∧
        o.value .period = 20000 ∧ o.value .beep = 7 ∧ o.value .delay = 60) ∧
      ofArguments ["-b7", "--delay", "--period", "20000"] =
        ofArguments ["-d", "--period=0020000", "-b", "7"] ∧
      ofArguments ["--beep", "256", "-p"] = .error (.invalidValue .beep .tooLarge) ∧
      ofArguments ["-b", "-b=7"] = .error (.multipleUsage .beep) := by
  let seven : Digits := ⟨['7'], by decide, by simp⟩
  let overlarge : Digits := ⟨['2', '5', '6'], by decide, by simp⟩
  let padded : Digits := ⟨['0', '0', '2', '0', '0', '0', '0'], by decide, by simp⟩
  let period : Digits := ⟨['2', '0', '0', '0', '0'], by decide, by simp⟩
  let chosen : List Group :=
    [.bareShort .delay, .valued .period .longEquals padded, .valued .beep .shortApart seven]
  let turned : List Group :=
    [.valued .beep .short seven, .bareLong .delay, .valued .period .longApart period]
  let high : Group := .valued .beep .longApart overlarge
  let twice : List Group := [.bareShort .beep, .valued .beep .shortEquals seven]
  obtain ⟨hchosen, hturned, -, -⟩ := result_of_groups chosen
  obtain ⟨-, -, hhigh, -⟩ := result_of_groups [high, .bareShort .period]
  obtain ⟨-, -, -, htwice⟩ := result_of_groups twice
  refine ⟨?_, hturned turned ?_, ?_, ?_⟩
  · obtain ⟨o, ho, hnumbers, hbare, -⟩ := hchosen (by decide) (by decide)
    refine ⟨o, ho, ?_, ?_, ?_⟩
    · exact hnumbers (.valued .period .longEquals padded) (by simp [chosen]) 20000 (by decide)
    · exact hnumbers (.valued .beep .shortApart seven) (by simp [chosen]) 7 (by decide)
    · exact hbare .delay (by simp [chosen, Group.name, Group.number?, Group.value?])
  · -- the beep, the delay and the period, in another order
    decide
  · refine (hhigh (by decide) high (List.mem_cons_self ..) (by decide) ?_).1
    intro h hh hlarge
    rcases List.mem_pair.1 hh with rfl | rfl
    · rfl
    · exact absurd (by decide) hlarge
  · obtain ⟨name, hmany, herror⟩ := htwice (by decide) (by decide)
    obtain rfl : name = .beep := by
      cases name with
      | period => exact absurd hmany (by decide)
      | beep => rfl
      | delay => exact absurd hmany (by decide)
    exact herror

end Options

end HostDevices.Demo
