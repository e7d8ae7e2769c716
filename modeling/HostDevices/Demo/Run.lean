import HostDevices.Demo.Event
import HostDevices.Demo.Options
import HostDevices.Demo.Picture
import HostDevices.Demo.Window
import HostDevices.Devices
import HostDevices.Fault
import HostDevices.Source.Queue

/-!
# Runs of the demo

The demo sets up the devices, opens its window, and then works frame by frame: it queues the key
changes, polls the devices, loads both registers when another key is held, and shows the picture.
Escape ends it after the frame.  An update that fails brings up the error card, which then stays.

Time is a number of microseconds that may lie before the epoch; a clock that is read there makes the
demo crash, and so does a record at a time that has no stamp.

* `Demo.State.frame` — one frame.
* `Demo.State.frames` — frames until the window closes, Escape is held or the demo crashes.
* `Demo.opening` — what comes before the first frame.
* `Demo.run` — a whole run, from the command line on.
-/

namespace HostDevices.Demo

/-- How a run ends. -/
inductive Exit where
  | success
  | failure
  | crash
deriving DecidableEq, Repr

/-- The exit code of an end. -/
def Exit.code : Exit → Nat
  | success => 0
  | failure => 1
  | crash => 101

/-- A run that is over. -/
structure Outcome where
  exit : Exit
  events : List Event
deriving DecidableEq, Repr

/-- The clock's reading at a time: its microseconds in 64 bits, and none before the epoch. -/
def reading? (time : Int) : Option UInt64 :=
  if time < 0 then none else some (UInt64.ofNat time.toNat)

/-- From the epoch on the clock can be read. -/
theorem reading_of_nonneg {time : Int} (h : 0 ≤ time) : ∃ now, reading? time = some now :=
  ⟨_, if_neg (Int.not_lt.2 h)⟩

/-- In numbers: a time that 64 bits can hold is read as it is. -/
theorem toNat_reading {time : Int} {now : UInt64} (h : reading? time = some now)
    (hlt : time < UInt64.size) : now.toNat = time.toNat := by
  unfold reading? at h
  split at h
  · simp at h
  · simp only [Option.some.injEq] at h
    rw [← h, UInt64.toNat_ofNat_of_lt' (by omega)]

/-- The demo between two frames. -/
structure State where
  devices : Devices EventQueue
  /-- The codes that were held in the last frame without Escape. -/
  held : List String := []
  /-- Escape has been held. -/
  escaped : Bool := false
  /-- The error card is visible. -/
  card : Bool := false
  /-- The key of the frame before. -/
  key : Option Key := none
  /-- Microseconds since the epoch. -/
  time : Int

namespace State

/-- Queues the key changes of a frame; with Escape held there are none. -/
def takeKeys (v : Verbosity) (s : State) (f : Frame) : Logged State :=
  if Window.escape ∈ f.codes then pure { s with escaped := true }
  else do
    let events := Window.changes f.releaseOrder f.pressOrder s.held f.codes
    let queue ← KeyBuffer.fill v s.devices.keypad.source (events.map some)
    let keypad := { s.devices.keypad with source := queue }
    pure { s with devices := { s.devices with keypad }, held := f.codes }

/-- Drains the queue into the keypad. -/
def sync (v : Verbosity) (s : State) : Logged State := do
  let (_, devices) ← s.devices.sync v
  pure { s with devices }

/-- Pays for the ticks up to a reading, and loads both registers if another key is held than in the
frame before. -/
def serve (v : Verbosity) (o : Options) (s : State) (now : UInt64) : Logged State := do
  let devices ← s.devices.countDown v now now
  let key := devices.keypad.keypad.held
  if key = s.key then pure { s with devices }
  else do
    v.note (.keyChanged key)
    match key with
    | none => pure { s with devices, key }
    | some _ => do
      let devices ← devices.loadDelay v o.delay
      let devices ← devices.loadSound v o.beep
      pure { s with devices, key }

/-- What the window shows. -/
def picture (s : State) : List Color :=
  if s.card then Picture.errorCard
  else
    Picture.draw Picture.blank s.devices.keypad.keypad.held s.devices.delay.value
      s.devices.sound.isActive

/-- The fault of an update that failed. -/
def updateFault (why : String) : Fault :=
  .told ["Failed to Update ", quoted isUnprintable why]

/-- What is seen of an act of a fault report. -/
def actSeen (v : Verbosity) : Fault.Act → List Event
  | .asked => []
  | .noted r => [.record r]
  | .revealed => seen (v.note .cardShown)

/-- Updates the window; the first update that fails is reported. -/
def present (v : Verbosity) (s : State) (f : Frame) : List Event × State :=
  match f.failure, s.card with
  | some why, false =>
    (.frame s.picture :: ((updateFault why).report v).flatMap (actSeen v), { s with card := true })
  | _, _ => ([.frame s.picture], s)

/-- The time at which the frame after this one begins. -/
def pass (s : State) (f : Frame) : State := { s with time := s.time + 16000 + f.delay }

/-- What happens in a frame; the demo crashes when the clock is read before the epoch. -/
def course (v : Verbosity) (o : Options) (s : State) (f : Frame) : Scene State :=
  let synced := s.takeKeys v f >>= sync v
  match reading? s.time with
  | none => ⟨seen synced, none⟩
  | some now =>
    let served := synced.val.serve v o now
    let shown := served.val.present v f
    ⟨seen synced ++ seen served ++ shown.1, some (shown.2.pass f)⟩

/-- One frame, its records stamped with the time at which it begins. -/
def frame (v : Verbosity) (o : Options) (s : State) (f : Frame) : Scene State :=
  (s.course v o f).stamped s.time

/-- Frames in order, as long as the window is open and Escape has not been held. -/
def frames (v : Verbosity) (o : Options) (s : State) : List Frame → List Event × Exit
  | [] => ([], .success)
  | f :: rest =>
    match s.frame v o f with
    | ⟨events, none⟩ => (events, .crash)
    | ⟨events, some s⟩ =>
      if s.escaped then (events, .success)
      else
        let more := s.frames v o rest
        (events ++ more.1, more.2)

/-- The demo before its first frame. -/
def initial (period : Period) (now : UInt64) (time : Int) : State where
  devices := .start period {} now now
  time := time

end State

/-- What happens before the first frame: the period is checked first, then the clock is read, then
the window is opened. -/
def openingCourse (v : Verbosity) (o : Options) (start : Int) (opens : Bool) :
    Scene (Except InvalidPeriod State) :=
  let prepared := Devices.prepare v o.config
  match prepared.val with
  | .error reason =>
    ⟨seen prepared ++ seen (v.note (.periodRejected reason)), some (.error reason)⟩
  | .ok period =>
    match reading? start with
    | none => ⟨seen prepared, none⟩
    | some now =>
      ⟨seen prepared ++ [.window Picture.width Picture.height],
        if opens then some (.ok (.initial period now start)) else none⟩

/-- The demo up to its first frame, its records stamped with the time at which it starts. -/
def opening (v : Verbosity) (o : Options) (start : Int) (opens : Bool) :
    Scene (Except InvalidPeriod State) :=
  (openingCourse v o start opens).stamped start

/-- A run with known options. -/
def runWith (v : Verbosity) (o : Options) (start : Int) (opens : Bool) (fs : List Frame) :
    Outcome :=
  match opening v o start opens with
  | ⟨events, none⟩ => ⟨.crash, events⟩
  | ⟨events, some (.error _)⟩ => ⟨.failure, events⟩
  | ⟨events, some (.ok s)⟩ =>
    let played := s.frames v o fs
    ⟨played.2, events ++ played.1⟩

/-- How a run ends whose command line holds no options. -/
def Exit.ofOptionsError : OptionsError → Exit
  | .helpDisplayed => success
  | .versionDisplayed => success
  | _ => failure

/-- A whole run. -/
def run (v : Verbosity) (args : List String) (start : Int) (opens : Bool) (fs : List Frame) :
    Outcome :=
  match Options.ofArguments args with
  | .error e => ⟨.ofOptionsError e, []⟩
  | .ok o => runWith v o start opens fs

end HostDevices.Demo
