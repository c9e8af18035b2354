import DomeHeartbeat.Firmware.PollUsb

/-!
# poll_usb statement by statement

`Pc` names the accesses of `poll_usb` to volatile variables and pins together
with its calls into the USB stack; each is one statement, and the tests of the
local `value` belong to the statement before them. What the USB stack answers
is an input. `Device.pollUsbByte` and `Device.pollUsbStatus` are what the
statements compute when nothing comes between them.
-/

namespace DomeHeartbeat

open Reactive

/-- The next access or call of `poll_usb`. -/
inductive Pc where
  | outside
  | usbCanRead
  | usbRead
  | startSiren
  | clearTriggered
  | clearActive
  | disableRelay
  | testTriggered (value : UInt8)
  | storeHeartbeat (value : UInt8)
  | testHeartbeat
  | setLedEnabled (enabled : Bool)
  | clearLedTriggered
  | testSendStatus
  | readActive
  | readTriggered
  | readHeartbeat
  | usbWrite (byte : UInt8)
  | clearSendStatus
deriving DecidableEq, Repr

/-- The answers of `usb_can_read` and `usb_read`; a negative result of the latter is `none`. -/
structure UsbAnswer where
  canRead : Bool
  read : Option UInt8
deriving DecidableEq, Repr

namespace Pc

/-- The statement that follows `usb_read` when it returns a byte. -/
def received (value : UInt8) : Pc :=
  if value = 0xFF then startSiren
  else if value > 240 then usbCanRead
  else if value = 0 then clearTriggered
  else testTriggered value

theorem received_siren : received 0xFF = startSiren := rfl

theorem received_zero : received 0 = clearTriggered := rfl

/-- A reserved byte leads straight back to the loop condition. -/
theorem received_reserved {value : UInt8} (ignored : 240 < value) (silent : value ≠ 0xFF) :
    received value = usbCanRead := by
  rw [received, if_neg silent, if_pos ignored]

theorem received_timeout {value : UInt8} (positive : value ≠ 0) (accepted : value ≤ 240) :
    received value = testTriggered value := by
  have silent : value ≠ 0xFF := Counter.ne_of_bound accepted (by decide)
  rw [received, if_neg silent, if_neg (UInt8.not_lt.mpr accepted), if_neg positive]

/-- `poll_usb` is in the middle of handling a host byte. -/
def handling : Pc → Bool
  | startSiren | clearTriggered | clearActive | disableRelay | testTriggered _
  | storeHeartbeat _ | testHeartbeat | setLedEnabled _ | clearLedTriggered => true
  | _ => false

end Pc

namespace Device

/-- One statement of `for (;;) poll_usb();`. -/
def pollUsbStatement (pc : Pc) (device : Device) (answer : UsbAnswer) : Pc × Device :=
  match pc with
  | .outside => (.usbCanRead, device)
  | .usbCanRead => (if answer.canRead then .usbRead else .testSendStatus, device)
  | .usbRead => (answer.read.elim .testSendStatus Pc.received, device)
  | .startSiren => (.usbCanRead, { device with enableSirenSteps := 10 })
  | .clearTriggered => (.clearActive, { device with triggered := false })
  | .clearActive => (.disableRelay, { device with active := false })
  | .disableRelay => (.testTriggered 0, { device with relay := false })
  | .testTriggered value =>
      (if !device.triggered then .storeHeartbeat value else .usbCanRead, device)
  | .storeHeartbeat value => (.testHeartbeat, { device with heartbeat := value })
  | .testHeartbeat => (.setLedEnabled (device.heartbeat != 0), device)
  | .setLedEnabled enabled => (.clearLedTriggered, { device with heartbeatLedEnabled := enabled })
  | .clearLedTriggered => (.usbCanRead, { device with heartbeatLedTriggered := false })
  | .testSendStatus => (if device.sendStatusByte then .readActive else .outside, device)
  | .readActive => (if device.active then .usbWrite 254 else .readTriggered, device)
  | .readTriggered => (if device.triggered then .usbWrite 255 else .readHeartbeat, device)
  | .readHeartbeat => (.usbWrite device.heartbeat, device)
  | .usbWrite _ => (.clearSendStatus, device)
  | .clearSendStatus => (.outside, { device with sendStatusByte := false })

/-- The byte passed to `usb_write`, if the statement calls it. -/
def pollUsbWritten : Pc → List UInt8
  | .usbWrite byte => [byte]
  | _ => []

section Branches

variable {device : Device} (answer : UsbAnswer)

/-! What the statements with a test lead to. -/

theorem pollUsbStatement_usbRead_none (nothing : answer.read = none) :
    device.pollUsbStatement .usbRead answer = (.testSendStatus, device) := by
  simp [pollUsbStatement, nothing]

theorem pollUsbStatement_usbRead_some {value : UInt8} (received : answer.read = some value) :
    device.pollUsbStatement .usbRead answer = (Pc.received value, device) := by
  simp [pollUsbStatement, received]

theorem pollUsbStatement_testTriggered_latched (value : UInt8)
    (triggered : device.triggered = true) :
    device.pollUsbStatement (.testTriggered value) answer = (.usbCanRead, device) := by
  simp [pollUsbStatement, triggered]

theorem pollUsbStatement_testTriggered_armed (value : UInt8)
    (untriggered : device.triggered = false) :
    device.pollUsbStatement (.testTriggered value) answer = (.storeHeartbeat value, device) := by
  simp [pollUsbStatement, untriggered]

theorem pollUsbStatement_testSendStatus_requested (requested : device.sendStatusByte = true) :
    device.pollUsbStatement .testSendStatus answer = (.readActive, device) := by
  simp [pollUsbStatement, requested]

theorem pollUsbStatement_testSendStatus_served (served : device.sendStatusByte = false) :
    device.pollUsbStatement .testSendStatus answer = (.outside, device) := by
  simp [pollUsbStatement, served]

theorem pollUsbStatement_readActive_closing (active : device.active = true) :
    device.pollUsbStatement .readActive answer = (.usbWrite 254, device) := by
  simp [pollUsbStatement, active]

theorem pollUsbStatement_readActive_inactive (inactive : device.active = false) :
    device.pollUsbStatement .readActive answer = (.readTriggered, device) := by
  simp [pollUsbStatement, inactive]

theorem pollUsbStatement_readTriggered_latched (triggered : device.triggered = true) :
    device.pollUsbStatement .readTriggered answer = (.usbWrite 255, device) := by
  simp [pollUsbStatement, triggered]

theorem pollUsbStatement_readTriggered_armed (untriggered : device.triggered = false) :
    device.pollUsbStatement .readTriggered answer = (.readHeartbeat, device) := by
  simp [pollUsbStatement, untriggered]

end Branches

end Device

end DomeHeartbeat
