import DomeHeartbeat.Preempted.Disable

/-!
# The second zero byte

A zero byte whose countdown runs out under its hands leaves a close in progress,
but it leaves no countdown: `stopped_by_zero`. Until a timeout is accepted the
counter then stays zero, so that a second zero byte cannot fail the same way,
wherever the interrupts fall (`second_zero_disables`).
-/

namespace DomeHeartbeat

open Reactive

/-- No statement of the run reads a timeout from 1 to 240. -/
def ReadsNoTimeout (point : Point Pc Device) (act : Interleaved UsbAnswer Irq) : Prop :=
  ∀ answer value, act = .foreground answer → point.pc = .usbRead → answer.read = some value →
    value = 0 ∨ 240 < value

/-- The counter is zero, or the rest of the zero byte's handling makes it so. -/
def Stopping : Pc → Device → Prop
  | .clearTriggered, _ => True
  | .clearActive, device | .disableRelay, device => device.triggered = true → device.heartbeat = 0
  | .testTriggered value, device =>
      value = 0 ∧ (device.triggered = true → device.heartbeat = 0)
  | .storeHeartbeat value, _ => value = 0
  | .startSiren, _ => False
  | _, device => device.heartbeat = 0

/-- The counter is zero and nothing else is on its way into it. -/
def Stopped (pc : Pc) (device : Device) : Prop :=
  device.heartbeat = 0 ∧
    ∀ value, pc = .testTriggered value ∨ pc = .storeHeartbeat value → value = 0

section Steps

variable {config : Config} {pc : Pc} {device : Device}

theorem stopping_statement (stopping : Stopping pc device) (handling : pc.handling = true)
    (answer : UsbAnswer) :
    Stopping (device.pollUsbStatement pc answer).1 (device.pollUsbStatement pc answer).2 := by
  cases pc with
  | clearTriggered => exact fun latched => Bool.noConfusion latched
  | clearActive => exact stopping
  | disableRelay => exact ⟨rfl, stopping⟩
  | testTriggered value =>
      obtain ⟨zero, expired⟩ := stopping
      cases triggered : device.triggered with
      | true =>
          rw [Device.pollUsbStatement_testTriggered_latched answer value triggered]
          exact expired triggered
      | false =>
          rw [Device.pollUsbStatement_testTriggered_armed answer value triggered]
          exact zero
  | storeHeartbeat value => exact stopping
  | testHeartbeat | setLedEnabled _ | clearLedTriggered => exact stopping
  | startSiren => exact stopping.elim
  | _ => cases handling

/-- A tick that finds the latch set or sets it leaves the counter at zero. -/
theorem expired_tick (expired : device.triggered = true → device.heartbeat = 0)
    (latched : (device.isrTimer1Compa config).1.triggered = true) :
    (device.isrTimer1Compa config).1.heartbeat = 0 := by
  rw [Device.isrTimer1Compa_triggered, Bool.or_eq_true] at latched
  rw [Device.isrTimer1Compa_heartbeat]
  rcases latched with triggered | triggers
  · simp [expired triggered, Device.countedDown]
  · simp [device.triggers_iff.mp triggers, Device.countedDown]

theorem heartbeat_tick_zero (zero : device.heartbeat = 0) :
    (device.isrTimer1Compa config).1.heartbeat = 0 := by
  simp [zero, Device.countedDown]

theorem stopping_handler (stopping : Stopping pc device) (irq : Irq) :
    Stopping pc ((preempted config).handler irq device) := by
  cases irq with
  | plc byte => cases pc <;> exact stopping
  | timer =>
      cases pc with
      | clearTriggered => trivial
      | clearActive | disableRelay => exact expired_tick stopping
      | testTriggered value => exact ⟨stopping.1, expired_tick stopping.2⟩
      | storeHeartbeat value => exact stopping
      | startSiren => exact stopping
      | _ => exact heartbeat_tick_zero stopping

theorem stopped_received {value : UInt8} (other : value = 0 ∨ 240 < value)
    (zero : device.heartbeat = 0) : Stopped (Pc.received value) device := by
  refine ⟨zero, ?_⟩
  rcases other with rfl | ignored
  · rintro value (same | same) <;> cases same
  · by_cases siren : value = 0xFF
    · subst siren
      rintro value (same | same) <;> cases same
    · rw [Pc.received_reserved ignored siren]
      rintro value (same | same) <;> cases same

theorem stopped_statement (stopped : Stopped pc device) {answer : UsbAnswer}
    (noTimeout : ReadsNoTimeout ⟨pc, device⟩ (.foreground answer)) :
    Stopped (device.pollUsbStatement pc answer).1 (device.pollUsbStatement pc answer).2 := by
  obtain ⟨zero, pending⟩ := stopped
  cases pc with
  | usbRead =>
      cases read : answer.read with
      | none =>
          rw [Device.pollUsbStatement_usbRead_none answer read]
          exact ⟨zero, by simp⟩
      | some value =>
          rw [Device.pollUsbStatement_usbRead_some answer read]
          exact stopped_received (noTimeout answer value rfl rfl read) zero
  | disableRelay => exact ⟨zero, by simp [Device.pollUsbStatement]⟩
  | testTriggered value =>
      have none := pending value (.inl rfl)
      cases triggered : device.triggered <;>
        simp [Device.pollUsbStatement, Stopped, triggered, zero, none]
  | storeHeartbeat value =>
      simpa [Device.pollUsbStatement, Stopped] using pending value (.inr rfl)
  | usbCanRead | testSendStatus | readActive | readTriggered =>
      unfold Device.pollUsbStatement
      dsimp only
      split_ifs <;> exact ⟨zero, by simp⟩
  | _ => simpa [Device.pollUsbStatement, Stopped] using zero

theorem stopped_handler (stopped : Stopped pc device) (irq : Irq) :
    Stopped pc ((preempted config).handler irq device) := by
  obtain ⟨zero, pending⟩ := stopped
  cases irq with
  | timer => exact ⟨heartbeat_tick_zero zero, pending⟩
  | plc byte => exact ⟨zero, pending⟩

end Steps

/-- However the handling of a zero byte is preempted, it ends with the counter at zero. -/
theorem stopped_by_zero {config : Config} {point : Point Pc Device}
    (read : point.pc = .clearTriggered) {acts : List (Interleaved UsbAnswer Irq)}
    (completes : Completes config point acts) :
    Stopped ((interleaved config).run point acts).pc
      ((interleaved config).run point acts).shared := by
  have begins : Stopping point.pc point.shared := by
    rw [read]
    trivial
  have ends := Preemptive.outline Stopping
    (fun _ _ answer stopping handling => stopping_statement stopping handling answer)
    (fun _ _ irq stopping _ => stopping_handler stopping irq) begins completes.1
  have idle := completes.2
  generalize (interleaved config).run point acts = last at ends idle
  obtain ⟨pc, device⟩ := last
  cases pc <;> first | exact ⟨ends, by simp⟩ | cases idle

/-- A zero byte that is read while the counter is zero takes effect. -/
theorem disabled_of_stopped {config : Config} {point : Point Pc Device}
    (read : point.pc = .clearTriggered) (zero : point.shared.heartbeat = 0)
    {acts : List (Interleaved UsbAnswer Irq)} (completes : Completes config point acts) :
    Disabled ((interleaved config).run point acts).shared := by
  have begins : Underway 0 0 0 point.pc point.shared := by
    rw [read]
    exact ⟨rfl, Counter.toNat_eq_zero.mpr zero⟩
  have ends := underway_run (by decide) begins completes.1
  have idle := completes.2
  generalize (interleaved config).run point acts = last at ends idle
  obtain ⟨⟨latched, cleared⟩, stopped⟩ : Cleared 0 _ _ last.shared ∧
      (last.shared.triggered = false → last.shared.heartbeat = 0) := by
    obtain ⟨pc, device⟩ := last
    cases pc <;> first | exact ends | cases idle
  -- A counter that starts at zero never runs out.
  have quiet : last.shared.triggered = false :=
    Bool.eq_false_iff.mpr fun on => absurd (latched.mp on).1 (Nat.not_lt_zero _)
  exact ⟨quiet, (cleared quiet).1, stopped quiet, (cleared quiet).2⟩

/-- From the end of a zero byte on, until a timeout is read, no timer interrupt
triggers, and the next zero byte takes effect wherever the interrupts fall. -/
theorem second_zero_disables (config : Config) (point : Point Pc Device)
    (first between : List (Interleaved UsbAnswer Irq)) (read : point.pc = .clearTriggered)
    (completes : Completes config point first)
    (noTimeout : (interleaved config).Along ReadsNoTimeout
      ((interleaved config).run point first) between) :
    ((interleaved config).run point (first ++ between)).shared.triggers = false ∧
      (((interleaved config).run point (first ++ between)).pc = .clearTriggered → ∀ second,
        Completes config ((interleaved config).run point (first ++ between)) second →
          Disabled ((interleaved config).run point (first ++ between ++ second)).shared) := by
  have stopped := Preemptive.outline Stopped
    (fun _ _ answer stopped noTimeout => stopped_statement stopped noTimeout)
    (fun _ _ irq stopped _ => stopped_handler stopped irq) (stopped_by_zero read completes)
    noTimeout
  rw [← Machine.run_append] at stopped
  refine ⟨?_, fun again second done => ?_⟩
  · rw [Device.triggers, stopped.1]
    rfl
  · rw [Machine.run_append]
    exact disabled_of_stopped again stopped.1 done

theorem readsNoTimeout_zeros (config : Config) (point : Point Pc Device) (count : Nat) :
    (interleaved config).Along ReadsNoTimeout point (undisturbed ⟨true, some 0⟩ count) := by
  refine Machine.along_of_mem (fun act member point answer value same _ read => .inl ?_) point
  cases (List.eq_of_mem_replicate member).symm.trans same
  cases read
  rfl

/-- The countdown runs out in the middle of the zero byte that `zeroRead` is at. -/
def zeroLost : List (Interleaved UsbAnswer Irq) :=
  .foreground ⟨true, none⟩ :: .interrupt .timer :: undisturbed ⟨true, none⟩ 3

theorem second_zero_disables_zeroLost :
    Disabled ((interleaved makefileConfig).run zeroRead
      (zeroLost ++ undisturbed ⟨true, some 0⟩ 2 ++ undisturbed ⟨true, none⟩ 8)).shared :=
  (second_zero_disables makefileConfig zeroRead zeroLost (undisturbed ⟨true, some 0⟩ 2)
    (by decide +kernel) (by decide +kernel) (readsNoTimeout_zeros _ _ 2)).2 (by decide +kernel)
    (undisturbed ⟨true, none⟩ 8) (by decide +kernel)

end DomeHeartbeat
