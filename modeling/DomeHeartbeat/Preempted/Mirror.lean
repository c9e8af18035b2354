import DomeHeartbeat.Preempted.Serialization

/-!
# The two builds of CLOSE_B_FIRST

The switch decides only which shutter is closed first: a build with it is the
build without it after the shutters have changed names, in every interleaving
(`mirrored_build`).
-/

namespace DomeHeartbeat

open Reactive

/-- The report about the other shutter. -/
def mirrorReport (byte : UInt8) : UInt8 :=
  if byte = ascii 'X' then ascii 'Y' else if byte = ascii 'Y' then ascii 'X' else byte

/-- The command for the other shutter. -/
def mirrorCommand (byte : UInt8) : UInt8 :=
  if byte = ascii 'A' then ascii 'B' else if byte = ascii 'B' then ascii 'A' else byte

/-- The other build. -/
def Config.mirror (config : Config) : Config := { config with closeBFirst := !config.closeBFirst }

/-- The device with its shutters exchanged, and the reports it has received. -/
def Device.mirror (device : Device) : Device :=
  { device with
    shutterACloseSteps := device.shutterBCloseSteps
    shutterBCloseSteps := device.shutterACloseSteps
    input := { device.input with slots := mirrorReport ∘ device.input.slots } }

def Irq.mirror : Irq → Irq
  | timer => timer
  | plc byte => plc (mirrorReport byte)

/-- The same step with the report about the other shutter. -/
def mirrorAct : Interleaved UsbAnswer Irq → Interleaved UsbAnswer Irq
  | .foreground answer => .foreground answer
  | .interrupt irq => .interrupt irq.mirror

def mirrorPoint (point : Point Pc Device) : Point Pc Device := ⟨point.pc, point.shared.mirror⟩

theorem closesA_mirrorReport (byte : UInt8) : closesA (mirrorReport byte) = closesB byte := by
  by_cases x : byte = ascii 'X'
  · subst x
    rfl
  by_cases y : byte = ascii 'Y'
  · subst y
    rfl
  · have same : (byte == ascii 'X') = (byte == ascii 'Y') := by simp [x, y]
    rw [mirrorReport, if_neg x, if_neg y, closesA, closesB, same]

theorem closesB_mirrorReport (byte : UInt8) : closesB (mirrorReport byte) = closesA byte := by
  by_cases x : byte = ascii 'X'
  · subst x
    rfl
  by_cases y : byte = ascii 'Y'
  · subst y
    rfl
  · have same : (byte == ascii 'X') = (byte == ascii 'Y') := by simp [x, y]
    rw [mirrorReport, if_neg x, if_neg y, closesA, closesB, same]

namespace Device

variable (config : Config) (device : Device)

theorem unread_mirror : device.mirror.unread = device.unread.map mirrorReport := by
  simp [unread, mirror, Ring.contents, Ring.count]

theorem mirror_isrUsart1Rx (byte : UInt8) :
    device.mirror.isrUsart1Rx (mirrorReport byte) = (device.isrUsart1Rx byte).mirror := by
  simp [isrUsart1Rx, mirror, Ring.put, Function.comp_update]

theorem mirror_pollUsbStatement (pc : Pc) (answer : UsbAnswer) :
    device.mirror.pollUsbStatement pc answer =
      ((device.pollUsbStatement pc answer).1, (device.pollUsbStatement pc answer).2.mirror) := by
  cases pc <;> rfl

theorem mirror_beforeSend :
    device.mirror.beforeSend config.mirror = (device.beforeSend config).mirror := by
  have readA : device.mirror.unread.any closesA = device.unread.any closesB := by
    rw [unread_mirror, List.any_map]
    exact congrArg _ (funext closesA_mirrorReport)
  have readB : device.mirror.unread.any closesB = device.unread.any closesA := by
    rw [unread_mirror, List.any_map]
    exact congrArg _ (funext closesB_mirrorReport)
  rw [beforeSend_eq, beforeSend_eq, readA, readB]
  rfl

/-- The other build sends the command for the other shutter. -/
theorem mirror_sendStep :
    device.mirror.sendStep config.mirror =
      ((device.sendStep config).1.mirror, (device.sendStep config).2.map mirrorCommand) := by
  have stepsA : device.mirror.shutterACloseSteps = device.shutterBCloseSteps := rfl
  have stepsB : device.mirror.shutterBCloseSteps = device.shutterACloseSteps := rfl
  have resets : device.mirror.relayResetSteps = device.relayResetSteps := rfl
  have other : config.mirror.closeBFirst = !config.closeBFirst := rfl
  have commandA : mirrorCommand (ascii 'A') = ascii 'B' := rfl
  have commandB : mirrorCommand (ascii 'B') = ascii 'A' := rfl
  by_cases relay : 0 < device.relayResetSteps
  · simp only [sendStep, resets, gt_iff_lt, if_pos relay]
    rfl
  · by_cases shutterA : 0 < device.shutterACloseSteps
    · by_cases shutterB : 0 < device.shutterBCloseSteps <;> cases order : config.closeBFirst <;>
        · simp [sendStep, stepsA, stepsB, resets, other, order, relay, shutterA, shutterB,
            commandA, commandB]
          rfl
    · by_cases shutterB : 0 < device.shutterBCloseSteps
      · cases order : config.closeBFirst <;>
          · simp [sendStep, stepsA, stepsB, resets, other, order, relay, shutterA, shutterB,
              commandB]
            rfl
      · simp [sendStep, stepsA, stepsB, resets, relay, shutterA, shutterB]

theorem mirror_releaseRelay : device.mirror.releaseRelay = device.releaseRelay.mirror := by
  have closed : device.mirror.closed = device.closed := Bool.and_comm _ _
  rw [releaseRelay_eq, releaseRelay_eq, closed]
  rfl

theorem mirror_stepSiren : device.mirror.stepSiren = device.stepSiren.mirror := by
  rw [stepSiren_eq, stepSiren_eq]
  rfl

theorem mirror_isrTimer1Compa :
    device.mirror.isrTimer1Compa config.mirror =
      ((device.isrTimer1Compa config).1.mirror,
        (device.isrTimer1Compa config).2.map mirrorCommand) := by
  have sent := mirror_sendStep config (device.beforeSend config)
  rw [← mirror_beforeSend] at sent
  apply Prod.ext
  · rw [isrTimer1Compa_device, isrTimer1Compa_device, afterSend, afterSend, sent,
      mirror_releaseRelay, mirror_stepSiren]
    rfl
  · rw [isrTimer1Compa_sent, isrTimer1Compa_sent, sent]

end Device

section Builds

variable (config : Config)

theorem mirror_step (point : Point Pc Device) (act : Interleaved UsbAnswer Irq) :
    (interleaved config.mirror).step (mirrorPoint point) (mirrorAct act) =
      mirrorPoint ((interleaved config).step point act) := by
  cases act with
  | foreground answer =>
      have mirrored := Device.mirror_pollUsbStatement point.shared point.pc answer
      exact congrArg (fun next => Point.mk next.1 next.2) mirrored
  | interrupt irq =>
      cases irq with
      | timer =>
          have mirrored := Device.mirror_isrTimer1Compa config point.shared
          exact congrArg (fun next => Point.mk point.pc next.1) mirrored
      | plc byte =>
          exact congrArg (Point.mk point.pc) (Device.mirror_isrUsart1Rx point.shared byte)

/-- One build and the other, with the reports to the host as outputs. -/
def mirroring : Renaming (interleaved config) (interleaved config.mirror) where
  state := mirrorPoint
  act := mirrorAct
  out := id
  step := mirror_step config
  emits _ act := by
    rw [List.map_id]
    cases act <;> rfl

/-- One build and the other, with the commands as outputs. -/
def mirroringCommands : Renaming (commanded config) (commanded config.mirror) where
  state := mirrorPoint
  act := mirrorAct
  out := mirrorCommand
  step := mirror_step config
  emits point act := by
    cases act with
    | foreground answer => rfl
    | interrupt irq =>
        cases irq with
        | timer =>
            have mirrored := Device.mirror_isrTimer1Compa config point.shared
            rw [commanded_emit_timer]
            exact (commanded_emit_timer _ _).trans (congrArg Prod.snd mirrored)
        | plc byte => rfl

theorem mirror_initial :
    mirrorPoint (interleaved config).initial = (interleaved config.mirror).initial := by
  have zero : mirrorReport 0 = 0 := rfl
  simp [mirrorPoint, Device.mirror, Device.reset, Ring.reset, Function.comp_def, zero]

end Builds

/-- In every interleaving the build with the other value of `CLOSE_B_FIRST` does
the same with the shutters exchanged: given the reports of the PLC about the
other shutter, it sends the commands for the other shutter at the same time, has
their step counters exchanged and reports the same status to the host. -/
theorem mirrored_build (config : Config) (acts : List (Interleaved UsbAnswer Irq)) :
    pointAfter config.mirror (acts.map mirrorAct) = mirrorPoint (pointAfter config acts) ∧
      (commanded config.mirror).outputs (commanded config.mirror).initial (acts.map mirrorAct) =
        ((commanded config).outputs (commanded config).initial acts).map mirrorCommand ∧
      (interleaved config.mirror).outputs (interleaved config.mirror).initial
          (acts.map mirrorAct) =
        (interleaved config).outputs (interleaved config).initial acts := by
  have same := mirror_initial config
  refine ⟨?_, ?_, ?_⟩
  · rw [pointAfter, ← same]
    exact (mirroring config).run _ acts
  · change (commanded config.mirror).outputs (interleaved config.mirror).initial _ = _
    rw [← same]
    exact (mirroringCommands config).outputs _ acts
  · rw [← same]
    exact ((mirroring config).outputs _ acts).trans (List.map_id _)

end DomeHeartbeat
