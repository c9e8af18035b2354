import DomeHeartbeat.Firmware.Device

/-!
# Host bytes and status reports

`pollUsbByte` is one round of the `while (usb_can_read())` loop of `poll_usb`,
uninterrupted, and `pollUsbStatus` the status report that follows the loop.
-/

namespace DomeHeartbeat

open Reactive

namespace Device

/-- One byte from the host, as `poll_usb` handles it. -/
def pollUsbByte (device : Device) (value : UInt8) : Device :=
  let device := if value = 0xFF then { device with enableSirenSteps := 10 } else device
  if value > 240 then device
  else
    let device :=
      if value = 0 then { device with triggered := false, active := false, relay := false }
      else device
    if !device.triggered then
      let device := { device with heartbeat := value }
      if device.heartbeat != 0 then
        { device with heartbeatLedEnabled := true, heartbeatLedTriggered := false }
      else { device with heartbeatLedEnabled := false, heartbeatLedTriggered := false }
    else device

/-- The argument of `usb_write` in the status report. -/
def status (device : Device) : UInt8 :=
  if device.active then 254 else if device.triggered then 255 else device.heartbeat

/-- The status report: the device afterwards and the byte passed to `usb_write`. -/
def pollUsbStatus (device : Device) : Device × List UInt8 :=
  if device.sendStatusByte then ({ device with sendStatusByte := false }, [device.status])
  else (device, [])

section Fields

variable (device : Device) (value : UInt8)

/-- A byte above 240 can only ask for the siren. -/
theorem pollUsbByte_ignored (ignored : 240 < value) :
    device.pollUsbByte value =
      { device with enableSirenSteps := if value = 0xFF then 10 else device.enableSirenSteps } := by
  by_cases siren : value = 0xFF
  · subst siren
    rfl
  · simp [pollUsbByte, siren, ignored]

/-- A zero byte clears the latch, stops the countdown and drops the relay. -/
theorem pollUsbByte_zero :
    device.pollUsbByte 0 = { device with
      triggered := false
      active := false
      relay := false
      heartbeat := 0
      heartbeatLedEnabled := false
      heartbeatLedTriggered := false } := rfl

/-- A timeout is accepted unless the latch is set. -/
theorem pollUsbByte_timeout (positive : value ≠ 0) (accepted : value ≤ 240) :
    device.pollUsbByte value =
      if device.triggered then device
      else { device with
        heartbeat := value
        heartbeatLedEnabled := true
        heartbeatLedTriggered := false } := by
  have notSiren : value ≠ 0xFF := Counter.ne_of_bound accepted (by decide)
  have inRange : ¬ 240 < value := UInt8.not_lt.mpr accepted
  cases triggered : device.triggered <;> simp [pollUsbByte, notSiren, inRange, positive, triggered]

theorem pollUsbByte_cases :
    240 < value ∨ value = 0 ∨ value ≠ 0 ∧ value ≤ 240 := by
  by_cases ignored : 240 < value
  · exact .inl ignored
  · by_cases zero : value = 0
    · exact .inr (.inl zero)
    · exact .inr (.inr ⟨zero, UInt8.not_lt.mp ignored⟩)

/-- The latch, the close flag and the relay are cleared by a zero byte and by no
other. -/
theorem pollUsbByte_cleared :
    (device.pollUsbByte value).triggered = (device.triggered && value != 0) ∧
      (device.pollUsbByte value).active = (device.active && value != 0) ∧
      (device.pollUsbByte value).relay = (device.relay && value != 0) := by
  rcases pollUsbByte_cases value with ignored | rfl | ⟨positive, accepted⟩
  · have positive : value ≠ 0 := (Counter.ne_of_bound UInt8.zero_le ignored).symm
    simp [pollUsbByte_ignored device value ignored, positive]
  · simp [pollUsbByte_zero]
  · rw [pollUsbByte_timeout device value positive accepted]
    split <;> simp [positive]

@[simp] theorem pollUsbByte_triggered :
    (device.pollUsbByte value).triggered = (device.triggered && value != 0) :=
  (pollUsbByte_cleared device value).1

@[simp] theorem pollUsbByte_active :
    (device.pollUsbByte value).active = (device.active && value != 0) :=
  (pollUsbByte_cleared device value).2.1

@[simp] theorem pollUsbByte_relay :
    (device.pollUsbByte value).relay = (device.relay && value != 0) :=
  (pollUsbByte_cleared device value).2.2

/-- A host byte starts the siren, or leaves it alone. -/
theorem pollUsbByte_siren :
    (device.pollUsbByte value).enableSirenSteps =
        (if value = 0xFF then 10 else device.enableSirenSteps) ∧
      (device.pollUsbByte value).siren = device.siren := by
  rcases pollUsbByte_cases value with ignored | rfl | ⟨positive, accepted⟩
  · rw [pollUsbByte_ignored device value ignored]
    exact ⟨rfl, rfl⟩
  · exact ⟨rfl, rfl⟩
  · have notSiren : value ≠ 0xFF := Counter.ne_of_bound accepted (by decide)
    rw [pollUsbByte_timeout device value positive accepted, if_neg notSiren]
    split <;> exact ⟨rfl, rfl⟩

/-- No host byte touches the step counters or the receive buffer. -/
theorem pollUsbByte_frame :
    (device.pollUsbByte value).shutterACloseSteps = device.shutterACloseSteps ∧
      (device.pollUsbByte value).shutterBCloseSteps = device.shutterBCloseSteps ∧
      (device.pollUsbByte value).relayResetSteps = device.relayResetSteps ∧
      (device.pollUsbByte value).input = device.input := by
  rcases pollUsbByte_cases value with ignored | rfl | ⟨positive, accepted⟩
  · rw [pollUsbByte_ignored device value ignored]
    exact ⟨rfl, rfl, rfl, rfl⟩
  · exact ⟨rfl, rfl, rfl, rfl⟩
  · rw [pollUsbByte_timeout device value positive accepted]
    split <;> exact ⟨rfl, rfl, rfl, rfl⟩

@[simp] theorem pollUsbByte_shutterACloseSteps :
    (device.pollUsbByte value).shutterACloseSteps = device.shutterACloseSteps :=
  (pollUsbByte_frame device value).1

@[simp] theorem pollUsbByte_shutterBCloseSteps :
    (device.pollUsbByte value).shutterBCloseSteps = device.shutterBCloseSteps :=
  (pollUsbByte_frame device value).2.1

@[simp] theorem pollUsbByte_relayResetSteps :
    (device.pollUsbByte value).relayResetSteps = device.relayResetSteps :=
  (pollUsbByte_frame device value).2.2.1

@[simp] theorem pollUsbByte_input : (device.pollUsbByte value).input = device.input :=
  (pollUsbByte_frame device value).2.2.2

end Fields

end Device

end DomeHeartbeat
