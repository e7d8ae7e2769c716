import HostDevices.Demo.Run

/-!
# The demo on a terminal

The window is played by standard input: every line is a frame and names the keys held in it.  What
is seen of the run is written line by line, a picture as its runs.
-/

namespace HostDevices.Demo

/-- The name of a level in front of a record. -/
def levelText : Level → String
  | .error => "ERROR"
  | .warn => "WARN"
  | .info => "INFO"
  | .debug => "DEBUG"
  | .trace => "TRACE"

/-- One line for what is seen. -/
def Event.line : Event → String
  | .record r => levelText r.level ++ ": " ++ r.message
  | .window width height => "window " ++ width.repr ++ "x" ++ height.repr
  | .frame pixels =>
    "frame " ++ ", ".intercalate
      ((Picture.runs pixels).map fun r => r.1.repr ++ " " ++ Picture.colorText r.2)

/-- The frame of a line: the names of the keys held, set apart by blanks. -/
def Frame.ofLine (line : String) : Frame where
  keys := some ((line.trimAscii.toString.splitOn " ").filter fun name => !name.isEmpty)

/-- The lines of a stream, up to its end. -/
partial def readLines (input : IO.FS.Stream) (lines : List String) : IO (List String) := do
  let line ← input.getLine
  if line.isEmpty then pure lines.reverse else readLines input (line :: lines)

/-- Plays the demo until standard input ends or Escape is held, and gives the exit code. -/
def onTerminal (args : List String) : IO UInt32 := do
  match Options.ofArguments args with
  | .error e =>
    (← IO.getStderr).putStrLn e.message
    pure (UInt32.ofNat (Exit.ofOptionsError e).code)
  | .ok o =>
    let lines ← readLines (← IO.getStdin) []
    let start := (← IO.monoMsNow) * 1000
    let outcome := runWith (.upTo .info) o start true (lines.map Frame.ofLine)
    for event in outcome.events do
      IO.println event.line
    pure (UInt32.ofNat outcome.exit.code)

end HostDevices.Demo

/-- The demo as a program. -/
def main (args : List String) : IO UInt32 := HostDevices.Demo.onTerminal args
