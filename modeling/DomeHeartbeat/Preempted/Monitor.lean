import DomeHeartbeat.Reactive.Preemption
import DomeHeartbeat.Firmware.TimerIsr
import DomeHeartbeat.Firmware.PollUsbStatements

/-!
# The monitor under preemption

`poll_usb` takes one statement at a time and the timer and receive interrupts
run as a whole between any two of them. The outputs of `preempted` are the bytes
passed to `usb_write`. `byte_undisturbed` and `status_undisturbed` say that the
statements add up to the atomic handlers when no interrupt comes between them.
-/

namespace DomeHeartbeat

open Reactive

/-- A run of the timer interrupt, or of the receive interrupt with its byte. -/
inductive Irq where
  | timer
  | plc (byte : UInt8)
deriving DecidableEq, Repr

/-- `poll_usb` in an endless loop, preempted by the two interrupts. -/
def preempted (config : Config) : Preemptive Pc Device UsbAnswer Irq UInt8 where
  start := ⟨.outside, .reset⟩
  statement pc device answer := device.pollUsbStatement pc answer
  emit pc _ _ := Device.pollUsbWritten pc
  handler
    | .timer, device => (device.isrTimer1Compa config).1
    | .plc byte, device => device.isrUsart1Rx byte

/-- Every interleaving of the statements with the interrupts. -/
abbrev interleaved (config : Config) :
    Machine (Point Pc Device) (Interleaved UsbAnswer Irq) UInt8 := (preempted config).machine

section Steps

variable (config : Config) (pc : Pc) (device : Device)

@[simp] theorem preempted_start : (preempted config).start = ⟨.outside, .reset⟩ := rfl

@[simp] theorem preempted_statement (answer : UsbAnswer) :
    (preempted config).statement pc device answer = device.pollUsbStatement pc answer := rfl

@[simp] theorem preempted_emit (answer : UsbAnswer) :
    (preempted config).emit pc device answer = Device.pollUsbWritten pc := rfl

@[simp] theorem preempted_handler_timer :
    (preempted config).handler .timer device = (device.isrTimer1Compa config).1 := rfl

@[simp] theorem preempted_handler_plc (byte : UInt8) :
    (preempted config).handler (.plc byte) device = device.isrUsart1Rx byte := rfl

end Steps

/-- The point a run from reset ends in. -/
def pointAfter (config : Config) (acts : List (Interleaved UsbAnswer Irq)) : Point Pc Device :=
  (interleaved config).run (interleaved config).initial acts

theorem pointAfter_append (config : Config) (first second : List (Interleaved UsbAnswer Irq)) :
    pointAfter config (first ++ second) =
      (interleaved config).run (pointAfter config first) second :=
  (interleaved config).run_append _ first second

/-- Statements without an interrupt between them. -/
def undisturbed (answer : UsbAnswer) (count : Nat) : List (Interleaved UsbAnswer Irq) :=
  List.replicate count (.foreground answer)

@[simp] theorem undisturbed_zero (answer : UsbAnswer) : undisturbed answer 0 = [] := rfl

@[simp] theorem undisturbed_succ (answer : UsbAnswer) (count : Nat) :
    undisturbed answer (count + 1) = .foreground answer :: undisturbed answer count := rfl

/-- The statements for one host byte compute `pollUsbByte`. -/
theorem byte_undisturbed (config : Config) (device : Device) (value : UInt8) (answer : UsbAnswer) :
    ∃ count, (interleaved config).run ⟨Pc.received value, device⟩ (undisturbed answer count) =
      ⟨.usbCanRead, device.pollUsbByte value⟩ := by
  rcases Device.pollUsbByte_cases value with ignored | rfl | ⟨positive, accepted⟩
  · by_cases siren : value = 0xFF
    · subst siren
      exact ⟨1, rfl⟩
    · refine ⟨0, ?_⟩
      simp [Pc.received, siren, ignored, device.pollUsbByte_ignored value ignored]
  · exact ⟨8, rfl⟩
  · have notSiren : value ≠ 0xFF := Counter.ne_of_bound accepted (by decide)
    have inRange : ¬ 240 < value := UInt8.not_lt.mpr accepted
    have pc : Pc.received value = .testTriggered value := by
      simp [Pc.received, notSiren, inRange, positive]
    rw [pc, device.pollUsbByte_timeout value positive accepted]
    cases triggered : device.triggered with
    | true => exact ⟨1, by simp [Device.pollUsbStatement, triggered]⟩
    | false => exact ⟨5, by simp [Device.pollUsbStatement, triggered, positive]⟩

/-- The statements after the loop compute `pollUsbStatus`. -/
theorem status_undisturbed (config : Config) (device : Device) (answer : UsbAnswer) :
    ∃ count, (interleaved config).run ⟨.testSendStatus, device⟩ (undisturbed answer count) =
        ⟨.outside, device.pollUsbStatus.1⟩ ∧
      (interleaved config).outputs ⟨.testSendStatus, device⟩ (undisturbed answer count) =
        device.pollUsbStatus.2 := by
  cases send : device.sendStatusByte with
  | false =>
      refine ⟨1, ?_⟩
      simp [Device.pollUsbStatement, Device.pollUsbStatus, Device.pollUsbWritten, send]
  | true =>
      cases active : device.active with
      | true =>
          refine ⟨4, ?_⟩
          simp [Device.pollUsbStatement, Device.pollUsbStatus, Device.pollUsbWritten,
            Device.status, send, active]
      | false =>
          cases triggered : device.triggered with
          | true =>
              refine ⟨5, ?_⟩
              simp [Device.pollUsbStatement, Device.pollUsbStatus, Device.pollUsbWritten,
                Device.status, send, active, triggered]
          | false =>
              refine ⟨6, ?_⟩
              simp [Device.pollUsbStatement, Device.pollUsbStatus, Device.pollUsbWritten,
                Device.status, send, active, triggered]

/-- No timeout above 240 is on its way into the counter. -/
def InRange (pc : Pc) (device : Device) : Prop :=
  device.heartbeat ≤ 240 ∧
    ∀ value, pc = .testTriggered value ∨ pc = .storeHeartbeat value → value ≤ 240

theorem inRange_received {device : Device} (value : UInt8) (holds : device.heartbeat ≤ 240) :
    InRange (Pc.received value) device := by
  refine ⟨holds, ?_⟩
  intro other reached
  unfold Pc.received at reached
  split_ifs at reached <;> simp_all

theorem inRange_of_reachable {config : Config} {point : Point Pc Device}
    (reachable : (interleaved config).Reachable point) : InRange point.pc point.shared := by
  refine Preemptive.reachable_outline InRange ⟨UInt8.zero_le, by simp⟩ ?_ ?_ reachable
  · intro pc device answer holds
    obtain ⟨range, pending⟩ := holds
    cases pc with
    | usbRead =>
        cases received : answer.read with
        | none =>
            rw [preempted_statement, Device.pollUsbStatement_usbRead_none answer received]
            exact ⟨range, by simp⟩
        | some value =>
            rw [preempted_statement, Device.pollUsbStatement_usbRead_some answer received]
            exact inRange_received value range
    | storeHeartbeat value =>
        simpa [Device.pollUsbStatement, InRange] using pending value (.inr rfl)
    | testTriggered value =>
        have accepted := pending value (.inl rfl)
        cases triggered : device.triggered <;>
          simp [Device.pollUsbStatement, InRange, triggered, range, accepted]
    | usbCanRead | testSendStatus | readActive | readTriggered =>
        rw [preempted_statement]
        unfold Device.pollUsbStatement
        dsimp only
        split_ifs <;> exact ⟨range, by simp⟩
    | _ => simpa [Device.pollUsbStatement, InRange] using range
  · intro pc device irq holds
    obtain ⟨range, pending⟩ := holds
    cases irq with
    | timer => exact ⟨by simpa using Device.countedDown_le range, pending⟩
    | plc byte => exact ⟨range, pending⟩

theorem inRange_pointAfter (config : Config) (acts : List (Interleaved UsbAnswer Irq)) :
    InRange (pointAfter config acts).pc (pointAfter config acts).shared :=
  inRange_of_reachable ⟨acts, rfl⟩

end DomeHeartbeat
