import DomeHeartbeat.Preempted.Blocked
import DomeHeartbeat.Reactive.Account

/-!
# The rate of status reports

Timer interrupts ask for the status reports and so limit their rate, whatever
answers the USB stack gives and wherever the interrupts fall: a report uses up a
request that no other report uses (`reports_rate_limited`).
-/

namespace DomeHeartbeat

open Reactive

/-- One while a request waits for its report. -/
def reportsDue (point : Point Pc Device) : Nat :=
  match point.pc with
  | .readActive | .readTriggered | .readHeartbeat | .usbWrite _ => 1
  | .clearSendStatus => 0
  | _ => if point.shared.sendStatusByte then 1 else 0

section Steps

variable {config : Config}

theorem reportsDue_le (point : Point Pc Device) : reportsDue point ≤ 1 := by
  obtain ⟨pc, device⟩ := point
  have flag : (if device.sendStatusByte then 1 else 0) ≤ 1 := by
    split_ifs
    · exact Nat.le_refl 1
    · exact Nat.zero_le 1
  cases pc with
  | readActive | readTriggered | readHeartbeat | usbWrite byte => exact Nat.le_refl 1
  | clearSendStatus => exact Nat.zero_le 1
  | _ => exact flag

/-- Handling a byte leaves the requests alone. -/
theorem reportsDue_received (value : UInt8) (device : Device) :
    reportsDue ⟨Pc.received value, device⟩ = if device.sendStatusByte then 1 else 0 := by
  by_cases siren : value = 0xFF
  · rw [siren]
    rfl
  by_cases ignored : 240 < value
  · rw [Pc.received_reserved ignored siren]
    rfl
  by_cases zero : value = 0
  · rw [zero]
    rfl
  · rw [Pc.received_timeout zero (UInt8.not_lt.mp ignored)]
    rfl

/-- A statement writes no report without a request. -/
theorem reportsDue_statement (pc : Pc) (device : Device) (answer : UsbAnswer) :
    (Device.pollUsbWritten pc).length +
        reportsDue ⟨(device.pollUsbStatement pc answer).1,
          (device.pollUsbStatement pc answer).2⟩ ≤ reportsDue ⟨pc, device⟩ := by
  cases pc with
  | usbRead =>
      cases read : answer.read with
      | none =>
          rw [Device.pollUsbStatement_usbRead_none answer read]
          exact Nat.le_of_eq (Nat.zero_add _)
      | some value =>
          rw [Device.pollUsbStatement_usbRead_some answer read, reportsDue_received]
          exact Nat.le_of_eq (Nat.zero_add _)
  | testSendStatus =>
      have due : reportsDue ⟨.testSendStatus, device⟩ = if device.sendStatusByte then 1 else 0 :=
        rfl
      cases requested : device.sendStatusByte with
      | false =>
          rw [Device.pollUsbStatement_testSendStatus_served answer requested]
          exact Nat.le_of_eq (Nat.zero_add _)
      | true =>
          rw [Device.pollUsbStatement_testSendStatus_requested answer requested, due, requested]
          exact Nat.le_refl _
  | usbWrite byte => exact Nat.le_refl _
  | usbCanRead | readActive | readTriggered | testTriggered value =>
      simp only [Device.pollUsbStatement]
      split_ifs <;> exact Nat.le_of_eq (Nat.zero_add _)
  | _ => exact Nat.le_of_eq (Nat.zero_add _)

theorem reportsDue_step (point : Point Pc Device) (act : Interleaved UsbAnswer Irq) :
    ((interleaved config).emit point act).length +
        reportsDue ((interleaved config).step point act) ≤
      reportsDue point + timers [act] := by
  obtain ⟨pc, device⟩ := point
  cases act with
  | foreground answer => exact reportsDue_statement pc device answer
  | interrupt irq =>
      cases irq with
      | timer =>
          have due := reportsDue_le
            ((interleaved config).step ⟨pc, device⟩ (.interrupt .timer))
          exact Nat.le_trans (Nat.le_of_eq (Nat.zero_add _))
            (Nat.le_trans due (Nat.le_add_left _ _))
      | plc byte => exact Nat.le_of_eq (Nat.zero_add _)

end Steps

/-- Timer interrupts pay for the reports. -/
def reportAccount (config : Config) : Account (interleaved config) fun _ _ => True where
  within _ := True
  balance := reportsDue
  spent point act := ((interleaved config).emit point act).length
  income _ act := timers [act]
  preserved _ _ _ _ := trivial
  step point act _ _ := reportsDue_step point act

theorem sumAlong_timers (config : Config) (point : Point Pc Device)
    (acts : List (Interleaved UsbAnswer Irq)) :
    (interleaved config).sumAlong (fun _ act => timers [act]) point acts = timers acts := by
  induction acts generalizing point with
  | nil => rfl
  | cons act acts ih => rw [Machine.sumAlong_cons, ih, ← timers_append, List.singleton_append]

/-- Over any part of any run `poll_usb` passes at most one byte more to `usb_write`
than there are timer interrupts in it, and from reset at most as many. -/
theorem reports_rate_limited (config : Config) (point : Point Pc Device)
    (acts : List (Interleaved UsbAnswer Irq)) :
    ((interleaved config).outputs point acts).length ≤ timers acts + 1 ∧
      ((interleaved config).outputs (interleaved config).initial acts).length ≤ timers acts := by
  have limited : ∀ point, ((interleaved config).outputs point acts).length ≤
      reportsDue point + timers acts := by
    intro point
    rw [← Machine.collect_emit, ← Machine.sumAlong_length, ← sumAlong_timers config point]
    exact Nat.le_of_add_right_le
      ((reportAccount config).run trivial (Machine.along_true point acts))
  constructor
  · calc ((interleaved config).outputs point acts).length
      _ ≤ reportsDue point + timers acts := limited point
      _ ≤ 1 + timers acts := Nat.add_le_add_right (reportsDue_le point) _
      _ = timers acts + 1 := Nat.add_comm _ _
  · exact (limited (interleaved config).initial).trans (Nat.le_of_eq (Nat.zero_add _))

end DomeHeartbeat
