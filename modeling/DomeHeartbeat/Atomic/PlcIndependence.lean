import DomeHeartbeat.Reactive.Unwinding
import DomeHeartbeat.Atomic.Commands

/-!
# What the PLC and past cycles cannot influence

The countdown, the latch and the siren depend on host bytes and ticks alone, so
PLC bytes neither cause nor delay a trigger. A tick that triggers in turn
overwrites whatever an earlier cycle or a stale PLC byte left behind.
-/

namespace DomeHeartbeat

open Reactive

/-- The part of the device that is out of the PLC's reach. -/
structure HostSide where
  heartbeat : UInt8
  triggered : Bool
  enableSirenSteps : UInt8
  siren : Bool
  heartbeatLedEnabled : Bool
  heartbeatLedTriggered : Bool
deriving DecidableEq, Repr

def Device.hostSide (device : Device) : HostSide where
  heartbeat := device.heartbeat
  triggered := device.triggered
  enableSirenSteps := device.enableSirenSteps
  siren := device.siren
  heartbeatLedEnabled := device.heartbeatLedEnabled
  heartbeatLedTriggered := device.heartbeatLedTriggered

theorem triggers_of_hostSide {device other : Device} (same : device.hostSide = other.hostSide) :
    device.triggers = other.triggers := by
  have heartbeat : device.heartbeat = other.heartbeat := congrArg HostSide.heartbeat same
  rw [Device.triggers, Device.triggers, heartbeat]

theorem hostSide_tick {config : Config} {device other : Device}
    (same : device.hostSide = other.hostSide) :
    (device.isrTimer1Compa config).1.hostSide = (other.isrTimer1Compa config).1.hostSide := by
  have triggers := triggers_of_hostSide same
  simp only [Device.hostSide, HostSide.mk.injEq] at same
  obtain ⟨heartbeat, triggered, steps, siren, enabled, latched⟩ := same
  simp only [Device.hostSide, Device.isrTimer1Compa_heartbeat, Device.isrTimer1Compa_triggered,
    Device.isrTimer1Compa_enableSirenSteps, Device.isrTimer1Compa_siren,
    Device.isrTimer1Compa_heartbeatLedEnabled, Device.isrTimer1Compa_heartbeatLedTriggered,
    Device.beforeSend_enableSirenSteps, heartbeat, triggered, steps, siren, enabled, latched,
    triggers]

theorem hostSide_host {device other : Device} (same : device.hostSide = other.hostSide)
    (value : UInt8) : (device.pollUsbByte value).hostSide = (other.pollUsbByte value).hostSide := by
  simp only [Device.hostSide, HostSide.mk.injEq] at same
  obtain ⟨heartbeat, triggered, steps, siren, enabled, latched⟩ := same
  rcases Device.pollUsbByte_cases value with ignored | rfl | ⟨positive, accepted⟩
  · simp [Device.pollUsbByte_ignored _ value ignored, Device.hostSide, heartbeat, triggered, steps,
      siren, enabled, latched]
  · simp [Device.pollUsbByte_zero, Device.hostSide, steps, siren]
  · rw [Device.pollUsbByte_timeout _ value positive accepted,
      Device.pollUsbByte_timeout _ value positive accepted, triggered]
    split <;> simp [Device.hostSide, heartbeat, triggered, steps, siren, enabled, latched]

/-- A host byte or a tick. -/
def notPlc : Event → Bool
  | .plc _ => false
  | _ => true

/-- PLC bytes are invisible from the host side. -/
def plcIndependence (config : Config) : Unwinding (monitor config) HostSide where
  ignored _ event := !notPlc event
  view := Device.hostSide
  stutters device event ignored := by
    cases event with
    | host value => cases ignored
    | tick => cases ignored
    | plc byte => rfl
  consistent device other event same kept := by
    cases event with
    | host value => exact hostSide_host same value
    | tick => exact hostSide_tick same
    | plc byte => cases kept

/-- Histories with the same host bytes and ticks end with the same host side. -/
theorem hostSide_run (config : Config) {first second : List Event}
    (same : first.filter notPlc = second.filter notPlc) :
    ((monitor config).run .reset first).hostSide =
      ((monitor config).run .reset second).hostSide := by
  refine (plcIndependence config).noninterference rfl ?_
  exact ((monitor config).purge_eq_filter notPlc _ first).trans
    (same.trans ((monitor config).purge_eq_filter notPlc _ second).symm)

/-- Whatever two devices have left over, a trigger loads the same steps into both. -/
theorem sameSteps_trigger {config : Config} {device other : Device}
    (unguarded : Unguarded config device) (otherUnguarded : Unguarded config other)
    (triggers : device.triggers = true) (otherTriggers : other.triggers = true) :
    (device.beforeSend config).SameSteps (other.beforeSend config) := by
  constructor
  · rw [Device.beforeSend_relayResetSteps, Device.beforeSend_relayResetSteps, triggers,
      otherTriggers]
    cases bumper : config.hasBumperGuard with
    | true => rfl
    | false => simp [unguarded bumper, otherUnguarded bumper]
  · simp [Device.beforeSend_shutterACloseSteps, triggers, otherTriggers]
  · simp [Device.beforeSend_shutterBCloseSteps, triggers, otherTriggers]

/-- What a tick that triggers leaves behind and sends. -/
theorem trigger_agrees {config : Config} {device other : Device}
    (unguarded : Unguarded config device) (otherUnguarded : Unguarded config other)
    (triggers : device.triggers = true) (otherTriggers : other.triggers = true) :
    (device.isrTimer1Compa config).1.SameSteps (other.isrTimer1Compa config).1 ∧
      (device.isrTimer1Compa config).1.active = (other.isrTimer1Compa config).1.active ∧
      (device.isrTimer1Compa config).1.relay = (other.isrTimer1Compa config).1.relay ∧
      (device.isrTimer1Compa config).2 = (other.isrTimer1Compa config).2 := by
  obtain ⟨sent, relayReset, shutterA, shutterB⟩ :=
    (sameSteps_trigger unguarded otherUnguarded triggers otherTriggers).sendStep config
  rw [← Device.isrTimer1Compa_sent, ← Device.isrTimer1Compa_sent] at sent
  rw [← Device.afterSend, ← Device.afterSend] at relayReset shutterA shutterB
  have closed : (device.afterSend config).closed = (other.afterSend config).closed := by
    rw [Device.closed, Device.closed, shutterA, shutterB]
  refine ⟨⟨?_, ?_, ?_⟩, ?_, ?_, sent⟩
  · simpa using relayReset
  · simpa using shutterA
  · simpa using shutterB
  · simp [triggers, otherTriggers, closed]
  · simp [triggers, otherTriggers, closed]

/-- Two runs with the same host bytes and ticks have the same host side after
each of them, so the same ticks trigger. Two devices that are about to trigger
agree after the tick on all the close cycle depends on, nothing is left unread
in either, and the same byte is sent. -/
theorem plc_cannot_interfere (config : Config) :
    (∀ first second : List Event, first.filter notPlc = second.filter notPlc →
      ((monitor config).run .reset first).hostSide =
          ((monitor config).run .reset second).hostSide ∧
        ((monitor config).run .reset first).triggers =
          ((monitor config).run .reset second).triggers) ∧
    ∀ device other, (monitor config).Reachable device → (monitor config).Reachable other →
      device.triggers = true → other.triggers = true →
      let after := (device.isrTimer1Compa config).1
      let otherAfter := (other.isrTimer1Compa config).1
      after.heartbeat = otherAfter.heartbeat ∧ after.triggered = otherAfter.triggered ∧
        after.active = otherAfter.active ∧ after.relay = otherAfter.relay ∧
        after.shutterACloseSteps = otherAfter.shutterACloseSteps ∧
        after.shutterBCloseSteps = otherAfter.shutterBCloseSteps ∧
        after.relayResetSteps = otherAfter.relayResetSteps ∧
        after.serialCanRead = false ∧ otherAfter.serialCanRead = false ∧
        (device.isrTimer1Compa config).2 = (other.isrTimer1Compa config).2 := by
  constructor
  · intro first second same
    have agree := hostSide_run config same
    exact ⟨agree, triggers_of_hostSide agree⟩
  · intro device other reachable otherReachable triggers otherTriggers
    obtain ⟨⟨relayReset, shutterA, shutterB⟩, active, relay, sent⟩ :=
      trigger_agrees (unguarded_of_reachable reachable) (unguarded_of_reachable otherReachable)
        triggers otherTriggers
    refine ⟨?_, ?_, active, relay, shutterA, shutterB, relayReset, ?_, ?_, sent⟩
    · simp [(device.triggers_iff).mp triggers, (other.triggers_iff).mp otherTriggers]
    · simp [triggers, otherTriggers]
    · simp [Device.serialCanRead, Ring.drained]
    · simp [Device.serialCanRead, Ring.drained]

theorem plc_cannot_interfere_stale_report :
    (((monitor makefileConfig).run .reset [.host 1, .plc 88]).isrTimer1Compa makefileConfig).2 =
      (((monitor makefileConfig).run .reset [.host 1]).isrTimer1Compa makefileConfig).2 :=
  ((plc_cannot_interfere makefileConfig).2 _ _ ⟨[.host 1, .plc 88], rfl⟩ ⟨[.host 1], rfl⟩
    (by decide) (by decide)).2.2.2.2.2.2.2.2.2

end DomeHeartbeat
