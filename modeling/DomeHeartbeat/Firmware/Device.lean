import DomeHeartbeat.Reactive.Ring
import DomeHeartbeat.Reactive.Counter

/-!
# The device as the timer interrupt and the main loop see it

`Device` holds the globals of `main.c`, the pins they drive and the receive
side of `serial.c`. The transmit side is not part of it: the bytes passed to
`serial_write` are outputs of a step, which `Transmitter` takes up.
-/

namespace DomeHeartbeat

open Reactive

/-- The compile-time switches of the Makefile. `EXTERNAL_SIREN` only selects the
port bit behind `Device.siren`. -/
structure Config where
  maxShutterCloseSteps : Nat
  hasBumperGuard : Bool
  closeBFirst : Bool
deriving DecidableEq, Repr

/-- The values the Makefile ships with. -/
def makefileConfig : Config where
  maxShutterCloseSteps := 62
  hasBumperGuard := true
  closeBFirst := true

/-- The buffers of `serial.c` have 256 slots. -/
instance buffer_neZero : NeZero 256 := ⟨by decide⟩

/-- Globals, output pins and the receive buffer. -/
@[ext]
structure Device where
  heartbeat : UInt8
  active : Bool
  triggered : Bool
  shutterACloseSteps : UInt8
  shutterBCloseSteps : UInt8
  relayResetSteps : UInt8
  enableSirenSteps : UInt8
  sendStatusByte : Bool
  ledActive : Bool
  /-- PC6 -/
  relay : Bool
  /-- PE6, or PB2 when `EXTERNAL_SIREN` is set -/
  siren : Bool
  /-- PC7 -/
  blinkerLed : Bool
  /-- PD4 -/
  heartbeatLedEnabled : Bool
  /-- PD7 -/
  heartbeatLedTriggered : Bool
  /-- `input_buffer`, `input_read` and `input_write` -/
  input : Ring UInt8 256
  rxLedPulse : UInt8
  /-- PB1 -/
  rxLed : Bool

/-- `TX_RX_LED_PULSE_MS` -/
def txRxLedPulseMs : UInt8 := 10

namespace Device

/-- The state `main` leaves behind before it enables interrupts. -/
def reset : Device where
  heartbeat := 0
  active := false
  triggered := false
  shutterACloseSteps := 0
  shutterBCloseSteps := 0
  relayResetSteps := 0
  enableSirenSteps := 0
  sendStatusByte := false
  ledActive := false
  relay := false
  siren := false
  blinkerLed := false
  heartbeatLedEnabled := false
  heartbeatLedTriggered := false
  input := .reset fun _ => 0
  rxLedPulse := 0
  rxLed := false

/-! ## serial.c, receive side -/

/-- `input_write != input_read` -/
def serialCanRead (device : Device) : Bool := device.input.write != device.input.read

/-- The byte `serial_read` returns once it no longer waits for one, and the
device with `input_read` advanced. -/
def serialRead (device : Device) : UInt8 × Device :=
  (device.input.head, { device with input := device.input.advance })

/-- `ISR(USART1_RX_vect)` stores the received byte without a full test. -/
def isrUsart1Rx (device : Device) (byte : UInt8) : Device :=
  { device with input := device.input.put byte, rxLed := true, rxLedPulse := txRxLedPulseMs }

/-- The received bytes no `serial_read` has returned yet, oldest first. -/
def unread (device : Device) : List UInt8 := device.input.contents

theorem serialCanRead_iff (device : Device) :
    device.serialCanRead = true ↔ device.input.isEmpty = false := by
  simp [serialCanRead, Ring.isEmpty]

theorem serialCanRead_iff_count {device : Device} :
    device.serialCanRead = true ↔ device.input.count ≠ 0 := by
  rw [serialCanRead_iff, ← Bool.not_eq_true, Ring.isEmpty_iff_count]

/-- Reading takes the oldest unread byte. -/
theorem unread_serialRead {device : Device} (ready : device.serialCanRead = true) :
    device.unread = device.serialRead.1 :: device.serialRead.2.unread :=
  device.input.contents_advance (device.serialCanRead_iff.mp ready)

theorem unread_isrUsart1Rx (device : Device) (byte : UInt8) :
    (device.isrUsart1Rx byte).unread =
      if device.input.isFull then [] else device.unread ++ [byte] :=
  device.input.contents_put byte

@[simp] theorem unread_reset : reset.unread = [] := Ring.contents_reset _

end Device

end DomeHeartbeat
