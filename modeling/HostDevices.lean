import HostDevices.Main
import HostDevices.Session.Devices
import HostDevices.Source.Script
import HostDevices.Proofs.Timing.Ticks
import HostDevices.Proofs.Keypad.CodeLatch
import HostDevices.Proofs.Keypad.History
import HostDevices.Proofs.Demo.Trail
import HostDevices.Proofs.Timing.Register
import HostDevices.Proofs.Demo.Timeline
import HostDevices.Proofs.Session.Independence
import HostDevices.Proofs.Keypad.Draining
import HostDevices.Proofs.Keypad.Strokes
import HostDevices.Proofs.Demo.Latch
import HostDevices.Proofs.Keypad.Dropping
import HostDevices.Proofs.Demo.Draft
import HostDevices.Proofs.Demo.Verbosity
import HostDevices.Proofs.Demo.Ending
import HostDevices.Proofs.Demo.Card
import HostDevices.Source.Lent
import HostDevices.Proofs.Session.Loss
import HostDevices.Proofs.Session.Overflow
import HostDevices.Proofs.Keypad.Chronicle
import HostDevices.Proofs.Timing.Replay
import HostDevices.Proofs.Demo.Stream
import HostDevices.Proofs.Session.SetUp
import HostDevices.Proofs.Timing.Exactness
import HostDevices.Proofs.Demo.CommandLine
import HostDevices.Proofs.Demo.Appearance
import HostDevices.Proofs.Keypad.Layout
import HostDevices.Proofs.Text.Events
import HostDevices.Proofs.Text.Durations
