import HostDevices.Config
import HostDevices.Text.Numeral

/-!
# Options of the demo

The demo takes three numbers on its command line: the timer period in microseconds, and what the
sound and delay registers are loaded with when a key goes down.  An option is written short or long,
its value behind it, behind an equals sign or as the next argument; an option without a value keeps
its default.

* `Argument.ofText` — what a single argument is.
* `Options.scan` — the options that were given, in order; it stops at the first argument that is
  none.
* `Options.ofArguments` — the numbers, or why there are none.
-/

namespace HostDevices.Demo

/-- The numbers of the demo. -/
structure Options where
  /-- The timer period, in microseconds. -/
  period : UInt64 := 16666
  /-- What the sound register is loaded with. -/
  beep : UInt8 := 10
  /-- What the delay register is loaded with. -/
  delay : UInt8 := 60
deriving DecidableEq, Repr

/-- The options that take a value. -/
inductive OptionName where
  | period
  | beep
  | delay
deriving DecidableEq, Repr

namespace OptionName

/-- The long name of an option. -/
def text : OptionName → String
  | period => "period"
  | beep => "beep"
  | delay => "delay"

/-- The largest value of an option. -/
def bound : OptionName → Nat
  | period => UInt64.size - 1
  | beep => UInt8.size - 1
  | delay => UInt8.size - 1

end OptionName

/-- Why the command line holds no options. -/
inductive OptionsError where
  | unknownArgument
  | helpDisplayed
  | versionDisplayed
  | multipleUsage (name : OptionName)
  | invalidValue (name : OptionName) (why : NumeralError)
deriving DecidableEq, Repr

/-- An option as it is shown to the user. -/
def OptionName.usage (name : OptionName) : String := "--" ++ name.text ++ " <" ++ name.text ++ ">"

/-- The wording of an options error. -/
def OptionsError.message : OptionsError → String
  | unknownArgument => "error: Found an argument which is not known"
  | helpDisplayed => "usage: [" ++ OptionName.usage .period ++ "] [" ++ OptionName.usage .beep ++
      "] [" ++ OptionName.usage .delay ++ "]"
  | versionDisplayed => "keypad demo"
  | multipleUsage name => "error: The argument '" ++ name.usage ++ "' was given more than once"
  | invalidValue name why => "error: Invalid value for '" ++ name.usage ++ "': " ++ why.message

/-! ## Single arguments -/

/-- What a single argument is. -/
inductive Argument where
  /-- A value, or nothing the demo knows. -/
  | word
  /-- Two dashes: no option comes after them. -/
  | endOfOptions
  | help
  | version
  /-- It looks like an option and is none. -/
  | unknown
  /-- An option, and the value written together with it. -/
  | named (name : OptionName) (value : Option String)
deriving DecidableEq, Repr

namespace Argument

/-- The value behind an option's name in the same argument; equals signs in front do not count. -/
def attached : List Char → Option String
  | [] => none
  | cs => some (String.ofList (cs.dropWhile (· == '=')))

/-- An argument with a long name, its dashes taken off. -/
def long (cs : List Char) : Argument :=
  let value := attached (cs.dropWhile (· != '='))
  match String.ofList (cs.takeWhile (· != '=')) with
  | "period" => named .period value
  | "beep" => named .beep value
  | "delay" => named .delay value
  | "help" => help
  | "version" => version
  | _ => unknown

/-- An argument with a short name, its dash taken off. -/
def short (c : Char) (rest : List Char) : Argument :=
  match c with
  | 'p' => named .period (attached rest)
  | 'b' => named .beep (attached rest)
  | 'd' => named .delay (attached rest)
  | 'h' => help
  | 'V' => version
  | _ => unknown

/-- What an argument is: any number of dashes from two on go before a long name, one before a short
one, and a dash alone is a word. -/
def ofText (arg : String) : Argument :=
  match arg.toList with
  | ['-', '-'] => endOfOptions
  | '-' :: '-' :: cs => long (cs.dropWhile (· == '-'))
  | '-' :: c :: rest => short c rest
  | _ => word

end Argument

/-! ## The command line -/

/-- An option that was given, with its value if it had one. -/
structure GivenOption where
  name : OptionName
  value : Option String
deriving DecidableEq, Repr

namespace Options

/-- The options that were given, in order.  An option without an attached value takes the next
argument, if that is a word; every other word is unknown, and so is whatever follows the end of
options. -/
def scan : List String → Except OptionsError (List GivenOption)
  | [] => .ok []
  | arg :: rest =>
    match Argument.ofText arg with
    | .word => .error .unknownArgument
    | .unknown => .error .unknownArgument
    | .endOfOptions => if rest.isEmpty then .ok [] else .error .unknownArgument
    | .help => .error .helpDisplayed
    | .version => .error .versionDisplayed
    | .named name (some value) => (⟨name, some value⟩ :: ·) <$> scan rest
    | .named name none =>
      match rest with
      | [] => .ok [⟨name, none⟩]
      | next :: behind =>
        if Argument.ofText next = .word then (⟨name, some next⟩ :: ·) <$> scan behind
        else (⟨name, none⟩ :: ·) <$> scan (next :: behind)

/-- The number given for an option: every value must be a numeral within the option's bound, and the
option may be given once. -/
def number? (given : List GivenOption) (name : OptionName) : Except OptionsError (Option Nat) := do
  let mine := given.filter (·.name == name)
  let numbers ← (mine.filterMap (·.value)).mapM fun value =>
    (Numeral.read name.bound value).mapError (.invalidValue name)
  if mine.length > 1 then .error (.multipleUsage name) else .ok numbers.head?

/-- The options of a command line. -/
def ofArguments (args : List String) : Except OptionsError Options := do
  let given ← scan args
  let period ← number? given .period
  let beep ← number? given .beep
  let delay ← number? given .delay
  let defaults : Options := {}
  pure {
    period := (period.map UInt64.ofNat).getD defaults.period
    beep := (beep.map UInt8.ofNat).getD defaults.beep
    delay := (delay.map UInt8.ofNat).getD defaults.delay }

/-- The settings of the devices under these options. -/
def config (o : Options) : Config := Config.standard.withTimerPeriod (.ofMicros o.period)

/-- The options in field notation. -/
def text (o : Options) : String :=
  fieldsText "Opt"
    [("period", o.period.toNat.repr), ("beep", o.beep.toNat.repr), ("delay", o.delay.toNat.repr)]

end Options

end HostDevices.Demo
