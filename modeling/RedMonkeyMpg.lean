import RedMonkeyMpg.Lib.Run
import RedMonkeyMpg.Core.Mapper
import RedMonkeyMpg.Core.Centre
import RedMonkeyMpg.Core.Justified
import RedMonkeyMpg.Core.Keyboard
import RedMonkeyMpg.Core.Production
import RedMonkeyMpg.Input.Lite2
import RedMonkeyMpg.Lib.Slots
import RedMonkeyMpg.Store.Address
import RedMonkeyMpg.Store.Record
import RedMonkeyMpg.Store.Config
import RedMonkeyMpg.Store.History
import RedMonkeyMpg.Usb.Line
import RedMonkeyMpg.Usb.Shadow
import RedMonkeyMpg.Input.Mobile
import RedMonkeyMpg.Mobile.Receiver
import RedMonkeyMpg.Mobile.Steps
import RedMonkeyMpg.Mobile.Gate
import RedMonkeyMpg.Mobile.Stale
import RedMonkeyMpg.Gamepad.Receiver
import RedMonkeyMpg.Gamepad.Pairing
import RedMonkeyMpg.Gamepad.Loop
import RedMonkeyMpg.Gamepad.Steps
import RedMonkeyMpg.Gamepad.Events
import RedMonkeyMpg.Gamepad.Gate
import RedMonkeyMpg.Gamepad.Rollback
import RedMonkeyMpg.Gamepad.Stale
import RedMonkeyMpg.Gamepad.Link
import RedMonkeyMpg.Gamepad.Committed
import RedMonkeyMpg.Usb.Receivers
import RedMonkeyMpg.Core.Episode
import RedMonkeyMpg.Input.Replay
import RedMonkeyMpg.Mobile.Direction
import RedMonkeyMpg.Mobile.Bench
import RedMonkeyMpg.Usb.Missed
import RedMonkeyMpg.Gamepad.Confirm
import RedMonkeyMpg.Lib.Framing
import RedMonkeyMpg.Setup.Line
import RedMonkeyMpg.Setup.Queue
import RedMonkeyMpg.Setup.Service
import RedMonkeyMpg.Setup.Transaction
import RedMonkeyMpg.Setup.Answers
import RedMonkeyMpg.Setup.Isolation
import RedMonkeyMpg.Input.Events
import RedMonkeyMpg.Usb.Delivery
import RedMonkeyMpg.Mobile.Status
import RedMonkeyMpg.Core.Selection
import RedMonkeyMpg.Mobile.Selection
import RedMonkeyMpg.Gamepad.Controls
import RedMonkeyMpg.Gamepad.Selection
import RedMonkeyMpg.Usb.Mailbox
import RedMonkeyMpg.Gamepad.Chord
import RedMonkeyMpg.Input.Fingerprint
import RedMonkeyMpg.Setup.Schedule
import RedMonkeyMpg.Input.Registry
import RedMonkeyMpg.Lib.Crc
import RedMonkeyMpg.Store.Burst
import RedMonkeyMpg.Input.Distance
import RedMonkeyMpg.Gamepad.Stranded
import RedMonkeyMpg.Setup.Identity
import RedMonkeyMpg.Setup.Port
import RedMonkeyMpg.Gamepad.Keys
import RedMonkeyMpg.Lib.Json
import RedMonkeyMpg.Setup.Backup
import RedMonkeyMpg.Setup.Client
import RedMonkeyMpg.Core.Symmetry
import RedMonkeyMpg.Diagnostics.KeyboardBench
import RedMonkeyMpg.Setup.Progress
import RedMonkeyMpg.Usb.Stop
import RedMonkeyMpg.Gamepad.Led
import RedMonkeyMpg.Mobile.Notify
import RedMonkeyMpg.Diagnostics.HidDump
import RedMonkeyMpg.Setup.Charge
