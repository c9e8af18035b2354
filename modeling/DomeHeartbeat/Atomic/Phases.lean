import DomeHeartbeat.Atomic.Commands
import DomeHeartbeat.Atomic.Siren

/-!
# Phases of the device

`Device.phase` is what the host is told by the status byte: disabled, armed with
so many ticks left, triggered and closing, or triggered and idle. The invariant
`Device.Coherent` ties the globals, the counters and the pins to the phase, and
`phase_unambiguous` reads the phase back off the status byte.
-/

namespace DomeHeartbeat

open Reactive

/-- The phases of the README's status description. -/
inductive Phase where
  | disabled
  | armed (left : Nat)
  | closing
  | idle
deriving DecidableEq, Repr

namespace Phase

/-- The meaning the README gives to a status byte. -/
def ofStatus (status : UInt8) : Phase :=
  if status = 0 then disabled
  else if status = 254 then closing
  else if status = 255 then idle
  else armed status.toNat

/-- The levels of PD4 and PD7 in each phase. -/
def leds : Phase → Bool × Bool
  | disabled => (false, false)
  | armed _ => (true, false)
  | closing | idle => (false, true)

end Phase

namespace Device

/-- The phase of a device. -/
def phase (device : Device) : Phase :=
  if device.triggered then if device.active then .closing else .idle
  else if device.heartbeat = 0 then .disabled
  else .armed device.heartbeat.toNat

/-- What holds between any two handlers. -/
structure Coherent (config : Config) (device : Device) : Prop where
  valid : device.CountdownValid
  latched : device.active = true → device.triggered = true
  closing : device.active = true → device.closed = false
  shutterA : device.shutterACloseSteps.toNat ≤ config.maxShutterCloseSteps
  shutterB : device.shutterBCloseSteps.toNat ≤ config.maxShutterCloseSteps
  relayReset : device.relayResetSteps.toNat ≤ relayResets config
  sirenSteps : device.enableSirenSteps ≤ 10
  sound : device.pulse.Sound
  ledEnabled : device.heartbeatLedEnabled = (!device.triggered && device.heartbeat != 0)
  ledTriggered : device.heartbeatLedTriggered = device.triggered

/-- Every counter a tick decrements was positive: it takes away one for each
command sent, and never more than there is. -/
structure CountsDown (config : Config) (device : Device) : Prop where
  heartbeat : (device.isrTimer1Compa config).1.heartbeat.toNat = device.heartbeat.toNat - 1
  sirenSteps : (device.isrTimer1Compa config).1.enableSirenSteps.toNat =
    (device.beforeSend config).enableSirenSteps.toNat - 1
  relayReset : (device.isrTimer1Compa config).1.relayResetSteps.toNat +
      (device.isrTimer1Compa config).2.count (ascii 'R') =
    (device.beforeSend config).relayResetSteps.toNat
  shutterA : (device.isrTimer1Compa config).1.shutterACloseSteps.toNat +
      (device.isrTimer1Compa config).2.count (ascii 'A') =
    (device.beforeSend config).shutterACloseSteps.toNat
  shutterB : (device.isrTimer1Compa config).1.shutterBCloseSteps.toNat +
      (device.isrTimer1Compa config).2.count (ascii 'B') =
    (device.beforeSend config).shutterBCloseSteps.toNat

/-- The plan keeps one count for each letter. -/
theorem remaining_stages (config : Config) (device : Device) :
    Stages.remaining (ascii 'R') (stages config device) = device.relayResetSteps.toNat ∧
      Stages.remaining (ascii 'A') (stages config device) = device.shutterACloseSteps.toNat ∧
      Stages.remaining (ascii 'B') (stages config device) = device.shutterBCloseSteps.toNat := by
  cases order : config.closeBFirst <;>
    simp [Stages.remaining, Stages.total, stages, shutterStages, order, ascii, Char.toUInt8]

theorem CountsDown.of_valid (config : Config) {device : Device} (valid : device.CountdownValid) :
    device.CountsDown config := by
  have sent := fun letter => Stages.remaining_send letter (stages config (device.beforeSend config))
  rw [send_beforeSend] at sent
  obtain ⟨relayReset, shutterA, shutterB⟩ := remaining_stages config (device.beforeSend config)
  obtain ⟨relayResetLeft, shutterALeft, shutterBLeft⟩ :=
    remaining_stages config (device.isrTimer1Compa config).1
  refine ⟨?_, ?_, ?_, ?_, ?_⟩
  · rw [isrTimer1Compa_heartbeat]
    exact countedDown_toNat valid.accepted
  · rw [isrTimer1Compa_enableSirenSteps]
    generalize (device.beforeSend config).enableSirenSteps = steps
    rcases steps_cases steps with rfl | ⟨left, positive, before, after⟩
    · rfl
    · rw [if_neg (UInt8.ne_of_lt positive).symm, after, before, Nat.add_sub_cancel]
  · rw [← relayReset, ← relayResetLeft, Nat.add_comm]
    exact sent (ascii 'R')
  · rw [← shutterA, ← shutterALeft, Nat.add_comm]
    exact sent (ascii 'A')
  · rw [← shutterB, ← shutterBLeft, Nat.add_comm]
    exact sent (ascii 'B')

namespace Coherent

variable {config : Config} {device : Device}

theorem reset (config : Config) : Device.reset.Coherent config where
  valid := .reset
  latched := nofun
  closing := nofun
  shutterA := Nat.zero_le _
  shutterB := Nat.zero_le _
  relayReset := Nat.zero_le _
  sirenSteps := by decide
  sound := nofun
  ledEnabled := rfl
  ledTriggered := rfl

theorem loaded_le (config : Config) :
    (UInt8.ofNat config.maxShutterCloseSteps).toNat ≤ config.maxShutterCloseSteps := by
  rw [UInt8.toNat_ofNat']
  exact Nat.mod_le _ _

/-- The countdown leaves zero at zero and reaches it only from one. -/
theorem countedDown_bne_zero {heartbeat : UInt8} (accepted : heartbeat ≤ 240) :
    (heartbeat != 0 && heartbeat != 1) = (countedDown heartbeat != 0) := by
  have counted := countedDown_toNat accepted
  rw [Bool.eq_iff_iff, Bool.and_eq_true, bne_iff_ne, bne_iff_ne, bne_iff_ne, Ne, Ne, Ne,
    ← Counter.toNat_eq_zero, ← Counter.toNat_eq_one, ← Counter.toNat_eq_zero, counted]
  omega

theorem host (coherent : device.Coherent config) (value : UInt8) :
    (device.pollUsbByte value).Coherent config := by
  have valid := coherent.valid.step config (.host value)
  have siren := device.pollUsbByte_siren value
  refine ⟨valid, ?_, ?_, ?_, ?_, ?_, ?_, ?_, ?_, ?_⟩
  · intro active
    rw [pollUsbByte_active, Bool.and_eq_true] at active
    rw [pollUsbByte_triggered, coherent.latched active.1, active.2]
    rfl
  · intro active
    rw [pollUsbByte_active, Bool.and_eq_true] at active
    simpa [closed] using coherent.closing active.1
  · simpa using coherent.shutterA
  · simpa using coherent.shutterB
  · simpa using coherent.relayReset
  · rw [siren.1]
    split
    · exact UInt8.le_refl 10
    · exact coherent.sirenSteps
  · exact sound_step config coherent.sound (.host value)
  · rcases pollUsbByte_cases value with ignored | rfl | ⟨positive, accepted⟩
    · rw [pollUsbByte_ignored device value ignored]
      exact coherent.ledEnabled
    · rfl
    · rw [pollUsbByte_timeout device value positive accepted]
      cases triggered : device.triggered with
      | true => exact coherent.ledEnabled
      | false => simp [positive]
  · rcases pollUsbByte_cases value with ignored | rfl | ⟨positive, accepted⟩
    · rw [pollUsbByte_ignored device value ignored]
      exact coherent.ledTriggered
    · rfl
    · rw [pollUsbByte_timeout device value positive accepted]
      cases triggered : device.triggered with
      | true => exact coherent.ledTriggered
      | false => simp

theorem tick (coherent : device.Coherent config) :
    (device.isrTimer1Compa config).1.Coherent config := by
  have valid := coherent.valid.step config .tick
  have counts := CountsDown.of_valid config coherent.valid
  refine ⟨valid, ?_, ?_, ?_, ?_, ?_, ?_, ?_, ?_, ?_⟩
  · intro active
    rw [isrTimer1Compa_active, Bool.and_eq_true, Bool.or_eq_true] at active
    rw [isrTimer1Compa_triggered, Bool.or_eq_true]
    exact active.1.imp_left coherent.latched
  · intro active
    rw [isrTimer1Compa_active, Bool.and_eq_true, Bool.not_eq_true'] at active
    rw [closed_isrTimer1Compa]
    exact active.2
  · refine Nat.le_trans (Nat.le.intro counts.shutterA) ?_
    rw [beforeSend_shutterACloseSteps]
    split_ifs
    · exact loaded_le config
    · exact Nat.zero_le _
    · exact coherent.shutterA
  · refine Nat.le_trans (Nat.le.intro counts.shutterB) ?_
    rw [beforeSend_shutterBCloseSteps]
    split_ifs
    · exact loaded_le config
    · exact Nat.zero_le _
    · exact coherent.shutterB
  · refine Nat.le_trans (Nat.le.intro counts.relayReset) ?_
    rw [beforeSend_relayResetSteps]
    split_ifs with loads
    · rw [Bool.and_eq_true] at loads
      simp [relayResets, loads.2]
    · exact coherent.relayReset
  · rw [UInt8.le_iff_toNat_le, counts.sirenSteps, beforeSend_enableSirenSteps]
    refine Nat.le_trans (Nat.sub_le _ _) ?_
    split
    · exact Nat.le_refl _
    · exact UInt8.le_iff_toNat_le.mp coherent.sirenSteps
  · exact sound_step config coherent.sound .tick
  · rw [isrTimer1Compa_heartbeatLedEnabled, isrTimer1Compa_triggered, isrTimer1Compa_heartbeat,
      coherent.ledEnabled, ← countedDown_bne_zero coherent.valid.accepted, triggers]
    cases device.triggered <;> cases one : device.heartbeat == 1 <;> simp [bne, one]
  · rw [isrTimer1Compa_heartbeatLedTriggered, isrTimer1Compa_triggered, coherent.ledTriggered]

end Coherent

theorem Coherent.step {config : Config} {device : Device} (coherent : device.Coherent config)
    (event : Event) : ((monitor config).step device event).Coherent config := by
  cases event with
  | host value => exact coherent.host value
  | tick => exact coherent.tick
  | plc byte => exact ⟨coherent.valid.step config _, coherent.latched, coherent.closing,
      coherent.shutterA, coherent.shutterB, coherent.relayReset, coherent.sirenSteps,
      coherent.sound, coherent.ledEnabled, coherent.ledTriggered⟩

theorem Coherent.of_reachable {config : Config} {device : Device}
    (reachable : (monitor config).Reachable device) : device.Coherent config :=
  reachable.induction (.reset config) fun _ event coherent => coherent.step event

variable {config : Config} {device : Device}

theorem Coherent.leds (coherent : device.Coherent config) :
    (device.heartbeatLedEnabled, device.heartbeatLedTriggered) = device.phase.leds := by
  rw [coherent.ledEnabled, coherent.ledTriggered, phase]
  cases device.triggered <;> cases device.active <;>
    by_cases zero : device.heartbeat = 0 <;> simp [Phase.leds, zero]

/-- The status byte is one the README lists, and it gives the phase away. -/
theorem Coherent.ofStatus (coherent : device.Coherent config) :
    (device.status ≤ 240 ∨ device.status = 254 ∨ device.status = 255) ∧
      Phase.ofStatus device.status = device.phase := by
  have accepted := coherent.valid.accepted
  cases active : device.active with
  | true => simp [status, phase, Phase.ofStatus, active, coherent.latched active]
  | false =>
      cases triggered : device.triggered with
      | true => simp [status, phase, Phase.ofStatus, active, triggered]
      | false =>
          have notClosing : device.heartbeat ≠ 254 := Counter.ne_of_bound accepted (by decide)
          have notIdle : device.heartbeat ≠ 255 := Counter.ne_of_bound accepted (by decide)
          simp [status, phase, Phase.ofStatus, active, triggered, notClosing, notIdle, accepted]

/-- After a tick the siren pin shows whether the siren has steps left. -/
theorem Coherent.siren_tick (coherent : device.Coherent config) :
    (device.isrTimer1Compa config).1.siren = true ↔
      (device.isrTimer1Compa config).1.enableSirenSteps ≠ 0 := by
  have left : (device.isrTimer1Compa config).1.enableSirenSteps ≠ 0 ↔
      (device.isrTimer1Compa config).1.pulse.left ≠ 0 := by
    exact Counter.toNat_eq_zero.not.symm
  rw [left]
  constructor
  · exact coherent.tick.sound
  · intro sounding
    have on : (device.isrTimer1Compa config).1.pulse.on = true := by
      rw [pulse_tick, Pulse.left_tick] at sounding
      rw [pulse_tick]
      exact Pulse.on_tick (by omega)
    exact on

/-- An armed device triggers with the last of the ticks it has left, unless an
accepted host byte comes first. -/
theorem Coherent.armed (coherent : device.Coherent config) {left : Nat}
    (armed : device.phase = .armed left) {rest : List Event} (unrefreshed : Unrefreshed rest) :
    ((monitor config).run device rest).triggered = true ↔ left ≤ ticks rest := by
  rw [phase] at armed
  split_ifs at armed with triggered active running
  cases armed
  rw [← latch_eq_latched, armed_run coherent.valid (Bool.eq_false_iff.mpr triggered) running
    unrefreshed]
  split_ifs with used
  · exact iff_of_true rfl used
  · exact iff_of_false nofun used

end Device

/-- Every reachable device is coherent, no decrement of a tick wraps, the LEDs
show the phase, and the status byte determines it, together with the ticks that
are left of an armed device. -/
theorem phase_unambiguous (config : Config) (device : Device)
    (reachable : (monitor config).Reachable device) :
    device.Coherent config ∧ device.CountsDown config ∧
      ((device.isrTimer1Compa config).1.siren = true ↔
        (device.isrTimer1Compa config).1.enableSirenSteps ≠ 0) ∧
      (device.heartbeatLedEnabled, device.heartbeatLedTriggered) = device.phase.leds ∧
      (device.status ≤ 240 ∨ device.status = 254 ∨ device.status = 255) ∧
      Phase.ofStatus device.status = device.phase ∧
      ∀ left, device.phase = .armed left → ∀ rest, Unrefreshed rest →
        (((monitor config).run device rest).triggered = true ↔ left ≤ ticks rest) := by
  have coherent := Device.Coherent.of_reachable reachable
  obtain ⟨listed, phase⟩ := coherent.ofStatus
  exact ⟨coherent, .of_valid config coherent.valid, coherent.siren_tick, coherent.leds, listed,
    phase, fun left armed rest unrefreshed => coherent.armed armed unrefreshed⟩

theorem phase_unambiguous_while_closing :
    Phase.ofStatus ((monitor makefileConfig).run .reset [.host 1, .tick]).status = .closing :=
  (phase_unambiguous makefileConfig _ ⟨[.host 1, .tick], rfl⟩).2.2.2.2.2.1.trans
    (by decide +kernel)

end DomeHeartbeat
