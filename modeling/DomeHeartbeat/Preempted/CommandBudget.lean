import DomeHeartbeat.Preempted.Blocked
import DomeHeartbeat.Reactive.Account

/-!
# Commands are paid for by timeouts

However the interrupts fall, the device passes on no more commands than one
plan for each timeout it has read: a timeout on its way into the counter, or
running in it, is worth one plan, and a trigger trades the running timeout for
the steps it loads (`commandAccount`).
-/

namespace DomeHeartbeat

open Reactive

/-- A host byte that can start a countdown. -/
def startsCountdown (value : UInt8) : Bool := value != 0 && value ≤ 240

/-- One while a timeout is on its way into the counter. -/
def Pc.timeoutsBegun : Pc → Nat
  | testTriggered value | storeHeartbeat value => if value = 0 then 0 else 1
  | _ => 0

/-- One while the counter runs. -/
def Device.timeoutsRunning (device : Device) : Nat := if device.heartbeat = 0 then 0 else 1

/-- The commands a point may still pass on without reading a further timeout. -/
def budget (config : Config) (point : Point Pc Device) : Nat :=
  Stages.total (stages config point.shared) +
    Stages.total (fullPlan config) * (point.shared.timeoutsRunning + point.pc.timeoutsBegun)

section Steps

variable {config : Config} {device : Device}

theorem stages_statement (config : Config) (pc : Pc) (device : Device) (answer : UsbAnswer) :
    stages config (device.pollUsbStatement pc answer).2 = stages config device := by
  cases pc <;> rfl

theorem timeoutsBegun_received (value : UInt8) :
    (Pc.received value).timeoutsBegun = [value].countP startsCountdown := by
  rcases Device.pollUsbByte_cases value with ignored | rfl | ⟨positive, accepted⟩
  · have over_ : startsCountdown value = false := by
      simpa [startsCountdown] using fun _ => ignored
    by_cases siren : value = 0xFF
    · subst siren
      rfl
    · rw [Pc.received_reserved ignored siren]
      simp [Pc.timeoutsBegun, over_]
  · rfl
  · rw [Pc.received_timeout positive accepted]
    simp [Pc.timeoutsBegun, startsCountdown, positive, accepted]

/-- A statement at most moves a timeout on, besides the one it reads. -/
theorem timeouts_statement (pc : Pc) (device : Device) (answer : UsbAnswer) :
    (device.pollUsbStatement pc answer).2.timeoutsRunning +
        (device.pollUsbStatement pc answer).1.timeoutsBegun ≤
      device.timeoutsRunning + pc.timeoutsBegun +
        (readByte ⟨pc, device⟩ (.foreground answer)).toList.countP startsCountdown := by
  cases pc with
  | usbRead =>
      cases read : answer.read with
      | none => simp [Device.pollUsbStatement, readByte, read, Pc.timeoutsBegun]
      | some value =>
          rw [Device.pollUsbStatement_usbRead_some answer read, timeoutsBegun_received]
          simp [readByte, read, Pc.timeoutsBegun]
  | testTriggered value =>
      cases triggered : device.triggered with
      | true =>
          rw [Device.pollUsbStatement_testTriggered_latched answer value triggered]
          exact Nat.le_add_right_of_le (Nat.le_add_right _ _)
      | false =>
          rw [Device.pollUsbStatement_testTriggered_armed answer value triggered]
          exact Nat.le_add_right _ _
  | storeHeartbeat value =>
      have moved : (device.pollUsbStatement (.storeHeartbeat value) answer).2.timeoutsRunning =
          (Pc.storeHeartbeat value).timeoutsBegun := rfl
      rw [moved]
      exact Nat.le_add_right_of_le (Nat.le_add_left _ _)
  | usbCanRead | testSendStatus | readActive | readTriggered =>
      simp only [Device.pollUsbStatement]
      split_ifs <;> exact Nat.le_refl _
  | _ => exact Nat.le_refl _

/-- A trigger trades the running timeout for the plan it loads; any other tick
pays for what it sends out of the plan it finds. -/
theorem budget_tick (bounded : config.maxShutterCloseSteps ≤ 255)
    (unguarded : Unguarded config device) (begun : Nat) :
    (device.isrTimer1Compa config).2.length +
        (Stages.total (stages config (device.isrTimer1Compa config).1) +
          Stages.total (fullPlan config) *
            ((device.isrTimer1Compa config).1.timeoutsRunning + begun)) ≤
      Stages.total (stages config device) +
        Stages.total (fullPlan config) * (device.timeoutsRunning + begun) := by
  have sent := Stages.total_send (stages config (device.beforeSend config))
  rw [send_beforeSend] at sent
  dsimp only at sent
  cases triggers : device.triggers with
  | true =>
      have one := device.triggers_iff.mp triggers
      have running : device.timeoutsRunning = 1 := by simp [Device.timeoutsRunning, one]
      have spent : (device.isrTimer1Compa config).1.timeoutsRunning = 0 := by
        simp [Device.timeoutsRunning, one, Device.countedDown]
      rw [stages_trigger triggers bounded unguarded] at sent
      rw [running, spent, Nat.mul_add, Nat.mul_add, Nat.mul_zero, Nat.mul_one]
      omega
  | false =>
      have running : (device.isrTimer1Compa config).1.timeoutsRunning = device.timeoutsRunning := by
        have same := heartbeat_quiet_tick triggers
        simp only [Device.timeoutsRunning, Device.isrTimer1Compa_heartbeat]
        by_cases zero : device.heartbeat = 0
        · simp [zero, Device.countedDown]
        · have left : Device.countedDown device.heartbeat ≠ 0 :=
            bne_iff_ne.mp (same.trans (bne_iff_ne.mpr zero))
          simp [zero, left]
      have cut := Stages.total_cancel_le (confirmed device.unread) (stages config device)
      rw [stages_beforeSend triggers] at sent
      rw [running]
      omega

/-- What one step passes on comes out of the budget and the timeout it reads. -/
theorem budget_step (bounded : config.maxShutterCloseSteps ≤ 255) (point : Point Pc Device)
    (unguarded : Unguarded config point.shared) (act : Interleaved UsbAnswer Irq) :
    ((commanded config).emit point act).length +
        budget config ((interleaved config).step point act) ≤
      budget config point +
        Stages.total (fullPlan config) * (readByte point act).toList.countP startsCountdown := by
  obtain ⟨pc, device⟩ := point
  cases act with
  | foreground answer =>
      have moved := Nat.mul_le_mul_left (Stages.total (fullPlan config))
        (timeouts_statement pc device answer)
      rw [Nat.mul_add _ (_ + _)] at moved
      change 0 + (Stages.total (stages config (device.pollUsbStatement pc answer).2) +
        Stages.total (fullPlan config) *
          ((device.pollUsbStatement pc answer).2.timeoutsRunning +
            (device.pollUsbStatement pc answer).1.timeoutsBegun)) ≤
        Stages.total (stages config device) + Stages.total (fullPlan config) *
          (device.timeoutsRunning + pc.timeoutsBegun) + _
      rw [stages_statement]
      omega
  | interrupt irq =>
      cases irq with
      | timer =>
          rw [commanded_emit_timer]
          exact budget_tick bounded unguarded pc.timeoutsBegun
      | plc byte => exact Nat.le_of_eq (Nat.zero_add _)

end Steps

/-- Timeouts pay for the commands. -/
def commandAccount (config : Config) (bounded : config.maxShutterCloseSteps ≤ 255) :
    Account (commanded config) fun _ _ => True where
  within point := Unguarded config point.shared
  balance := budget config
  spent point act := ((commanded config).emit point act).length
  income point act :=
    Stages.total (fullPlan config) * (readByte point act).toList.countP startsCountdown
  preserved _ act unguarded _ := unguarded_step_point unguarded act
  step point act unguarded _ := budget_step bounded point unguarded act

/-- However `poll_usb` is preempted, the device never passes on more commands
than one plan for each timeout from 1 to 240 it has read from the host. -/
theorem commands_within_timeouts (config : Config) (bounded : config.maxShutterCloseSteps ≤ 255)
    (acts : List (Interleaved UsbAnswer Irq)) :
    ((commanded config).outputs (commanded config).initial acts).length ≤
      (relayResets config + 2 * config.maxShutterCloseSteps) *
        (bytesRead config (interleaved config).initial acts).countP startsCountdown := by
  have spent : ((commanded config).outputs (commanded config).initial acts).length +
      budget config ((commanded config).run (commanded config).initial acts) ≤
    budget config (interleaved config).initial +
      Stages.total (fullPlan config) *
        (bytesRead config (interleaved config).initial acts).countP startsCountdown := by
    rw [← Machine.collect_emit, ← Machine.sumAlong_length, bytesRead, ← commanded_labels,
      ← Machine.collect_label, ← Machine.sumAlong_countP, ← Machine.sumAlong_mul]
    exact (commandAccount config bounded).run (fun _ => rfl) (Machine.along_true _ acts)
  have nothing : budget config (interleaved config).initial = 0 := by
    cases order : config.closeBFirst <;>
      simp [budget, stages, shutterStages, Stages.total, Device.reset, Device.timeoutsRunning,
        Pc.timeoutsBegun, order]
  rw [nothing, Nat.zero_add, total_fullPlan] at spent
  exact Nat.le_of_add_right_le spent

/-- A timeout of 1 is read and runs out, and a further tick follows. -/
def oneTimeout : List (Interleaved UsbAnswer Irq) :=
  undisturbed ⟨true, some 1⟩ 8 ++ [Interleaved.interrupt .timer, Interleaved.interrupt .timer]

theorem commands_within_oneTimeout :
    ((commanded makefileConfig).outputs (commanded makefileConfig).initial oneTimeout).length ≤
      128 := by
  have within := commands_within_timeouts makefileConfig (by decide) oneTimeout
  have one : (bytesRead makefileConfig (interleaved makefileConfig).initial oneTimeout).countP
      startsCountdown = 1 := by decide +kernel
  rwa [one] at within

end DomeHeartbeat
