import DomeHeartbeat.Reactive.Machine
import DomeHeartbeat.Firmware.TimerIsr
import DomeHeartbeat.Firmware.PollUsb

/-!
# The monitor with atomic handlers

One event is one host byte handled by `poll_usb`, one run of the timer
interrupt or one byte received from the PLC. The outputs of `monitor` are the
bytes passed to `serial_write`.
-/

namespace DomeHeartbeat

open Reactive

/-- A host byte, a timer tick or a PLC byte. -/
inductive Event where
  | host (value : UInt8)
  | tick
  | plc (byte : UInt8)
deriving DecidableEq, Repr

/-- The firmware with atomic handlers, starting from reset. -/
def monitor (config : Config) : Machine Device Event UInt8 where
  initial := .reset
  step device
    | .host value => device.pollUsbByte value
    | .tick => (device.isrTimer1Compa config).1
    | .plc byte => device.isrUsart1Rx byte
  emit device
    | .tick => (device.isrTimer1Compa config).2
    | _ => []

section Steps

variable (config : Config) (device : Device)

@[simp] theorem monitor_initial : (monitor config).initial = .reset := rfl

@[simp] theorem monitor_step_host (value : UInt8) :
    (monitor config).step device (.host value) = device.pollUsbByte value := rfl

@[simp] theorem monitor_step_tick :
    (monitor config).step device .tick = (device.isrTimer1Compa config).1 := rfl

@[simp] theorem monitor_step_plc (byte : UInt8) :
    (monitor config).step device (.plc byte) = device.isrUsart1Rx byte := rfl

@[simp] theorem monitor_emit_host (value : UInt8) :
    (monitor config).emit device (.host value) = [] := rfl

@[simp] theorem monitor_emit_tick :
    (monitor config).emit device .tick = (device.isrTimer1Compa config).2 := by
  simp only [monitor]

@[simp] theorem monitor_emit_plc (byte : UInt8) :
    (monitor config).emit device (.plc byte) = [] := rfl

end Steps

/-- The guard of a run in which no tick triggers. -/
def NoTrigger (device : Device) (event : Event) : Prop :=
  event = .tick → device.triggers = false

instance NoTrigger.decidable (device : Device) (event : Event) :
    Decidable (NoTrigger device event) :=
  inferInstanceAs (Decidable (event = .tick → device.triggers = false))

/-- The number of timer ticks in a history. -/
def ticks (history : List Event) : Nat := history.count .tick

theorem ticks_replicate (count : Nat) : ticks (List.replicate count .tick) = count :=
  List.count_replicate_self

theorem exists_prefix_ticks {history : List Event} {count : Nat} (enough : count ≤ ticks history) :
    ∃ earlier later, history = earlier ++ later ∧ ticks earlier = count := by
  induction history generalizing count with
  | nil => exact ⟨[], [], rfl, (Nat.le_zero.mp enough).symm⟩
  | cons event history ih =>
      by_cases tick : event = .tick
      · subst tick
        cases count with
        | zero => exact ⟨[], .tick :: history, rfl, rfl⟩
        | succ count =>
            obtain ⟨earlier, later, rfl, counted⟩ := @ih count (by simpa [ticks] using enough)
            exact ⟨.tick :: earlier, later, rfl, by simpa [ticks] using counted⟩
      · obtain ⟨earlier, later, rfl, counted⟩ := @ih count (by simpa [ticks, tick] using enough)
        exact ⟨event :: earlier, later, rfl, by simpa [ticks, tick] using counted⟩

end DomeHeartbeat
