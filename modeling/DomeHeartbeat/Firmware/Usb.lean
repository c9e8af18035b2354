import DomeHeartbeat.Firmware.Transmitter

/-!
# usb.c and the traffic LEDs

`tx_led_pulse` and `rx_led_pulse` are defined in both `usb.c` and `serial.c` and
linked into one object each, so `Board` has them once: as `txLedPulse` of the
transmitter and `rxLedPulse` of the device. What the USB stack answers is an
argument.
-/

namespace DomeHeartbeat

open Reactive

/-- `TX_RX_LED_PULSE_MS` of `usb.c` -/
def usbTxRxLedPulseMs : UInt8 := 100

/-- The globals and pins of all source files. -/
structure Board where
  device : Device
  transmitter : Transmitter
  /-- PD5 -/
  usbTxLed : Bool
  /-- PB0 -/
  usbRxLed : Bool
  /-- Start-of-frame events are enabled. -/
  sofEvents : Bool

/-- What the USB stack answers to the four questions of `usb_write`: whether the
host has the port open, whether the byte was sent, whether the port is still
open, and whether the endpoint was flushed. -/
structure CdcAnswer where
  dtr : Bool
  sent : Bool
  stillDtr : Bool
  flushed : Bool
deriving DecidableEq, Repr

namespace Board

/-- The state `usb_initialize` and `serial_initialize` leave behind. -/
def reset : Board where
  device := .reset
  transmitter := .reset
  usbTxLed := false
  usbRxLed := false
  sofEvents := false

/-- `usb_read` with the result of `CDC_Device_ReceiveByte`. -/
def usbRead (board : Board) (ret : Int) : Int × Board :=
  (ret,
    if ret ≥ 0 then { board with
      usbRxLed := true
      device := { board.device with rxLedPulse := usbTxRxLedPulseMs }
      sofEvents := true }
    else board)

/-- `usb_write`; the byte itself only goes to the USB stack. -/
def usbWrite (board : Board) (answer : CdcAnswer) : Board :=
  if !answer.dtr then board
  else if !answer.sent then board
  else if !answer.stillDtr then board
  else if !answer.flushed then board
  else { board with
    usbTxLed := true
    transmitter := { board.transmitter with txLedPulse := usbTxRxLedPulseMs }
    sofEvents := true }

/-- `if (pulse && !(--pulse)) LED_DISABLED;` -/
def countPulse (pulse : UInt8) (led : Bool) : UInt8 × Bool :=
  if pulse != 0 then
    let pulse := pulse - 1
    if pulse == 0 then (pulse, false) else (pulse, led)
  else (pulse, led)

/-- `EVENT_USB_Device_StartOfFrame` -/
def eventUsbDeviceStartOfFrame (board : Board) : Board :=
  let tx := countPulse board.transmitter.txLedPulse board.usbTxLed
  let rx := countPulse board.device.rxLedPulse board.usbRxLed
  let board := { board with
    transmitter := { board.transmitter with txLedPulse := tx.1 }
    usbTxLed := tx.2
    device := { board.device with rxLedPulse := rx.1 }
    usbRxLed := rx.2 }
  if tx.1 == 0 && rx.1 == 0 then { board with sofEvents := false } else board

/-- `ISR(TIMER3_COMPA_vect)` of `serial.c` -/
def isrTimer3Compa (board : Board) : Board :=
  let tx := countPulse board.transmitter.txLedPulse board.transmitter.txLed
  let rx := countPulse board.device.rxLedPulse board.device.rxLed
  let txLed := if tx.1 == 0 then false else tx.2
  let rxLed := if rx.1 == 0 then false else rx.2
  { board with
    transmitter := { board.transmitter with txLedPulse := tx.1, txLed := txLed }
    device := { board.device with rxLedPulse := rx.1, rxLed := rxLed } }

/-- A pulse counts down to zero, and the LED goes out on the way there. -/
theorem countPulse_toNat (pulse : UInt8) (led : Bool) :
    (countPulse pulse led).1.toNat = pulse.toNat - 1 := by
  by_cases zero : pulse = 0
  · simp [countPulse, zero]
  · have less := Counter.toNat_pred zero
    by_cases last : pulse - 1 = 0
    · simpa [countPulse, zero, last] using less
    · simpa [countPulse, zero, last] using less

theorem countPulse_led (pulse : UInt8) (led : Bool) :
    (countPulse pulse led).2 = (led && pulse != 1) := by
  by_cases zero : pulse = 0
  · simp [countPulse, zero]
  · have last := @Counter.pred_eq_zero pulse
    by_cases one : pulse = 1
    · simp [countPulse, one]
    · simp [countPulse, zero, last, one]

end Board

end DomeHeartbeat
