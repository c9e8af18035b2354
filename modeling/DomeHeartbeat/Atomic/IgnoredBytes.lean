import DomeHeartbeat.Reactive.Unwinding
import DomeHeartbeat.Atomic.Monitor

/-!
# Host bytes that are ignored

A byte above 240 can do no more than start the siren, and a timeout that arrives
while the device is triggered does nothing. Seen through `Device.unsirened`,
which forgets the siren, deleting such bytes from a history changes nothing.
-/

namespace DomeHeartbeat

open Reactive

namespace Device

/-- The device but for its siren. -/
def unsirened (device : Device) : Device := { device with enableSirenSteps := 0, siren := false }

theorem status_unsirened (device : Device) : device.unsirened.status = device.status := rfl

theorem sameSteps_unsirened (config : Config) (device : Device) :
    SameSteps (device.unsirened.beforeSend config) (device.beforeSend config) := by
  constructor
  · rw [beforeSend_relayResetSteps, beforeSend_relayResetSteps]
    rfl
  · rw [beforeSend_shutterACloseSteps, beforeSend_shutterACloseSteps]
    rfl
  · rw [beforeSend_shutterBCloseSteps, beforeSend_shutterBCloseSteps]
    rfl

/-- The siren does not matter to a run of the timer interrupt. -/
theorem isrTimer1Compa_unsirened (config : Config) (device : Device) :
    (device.isrTimer1Compa config).1.unsirened =
        (device.unsirened.isrTimer1Compa config).1.unsirened ∧
      (device.isrTimer1Compa config).2 = (device.unsirened.isrTimer1Compa config).2 := by
  obtain ⟨sent, relayReset, shutterA, shutterB⟩ :=
    (sameSteps_unsirened config device).sendStep config
  rw [← isrTimer1Compa_sent, ← isrTimer1Compa_sent] at sent
  rw [← afterSend, ← afterSend] at relayReset shutterA shutterB
  have closed : (device.unsirened.afterSend config).closed = (device.afterSend config).closed := by
    rw [Device.closed, Device.closed, shutterA, shutterB]
  refine ⟨?_, sent.symm⟩
  rw [isrTimer1Compa_eq, isrTimer1Compa_eq, relayReset, shutterA, shutterB, closed]
  rfl

/-- Nor does it matter to a host byte. -/
theorem pollUsbByte_unsirened (device : Device) (value : UInt8) :
    (device.pollUsbByte value).unsirened = (device.unsirened.pollUsbByte value).unsirened := by
  rcases pollUsbByte_cases value with ignored | rfl | ⟨positive, accepted⟩
  · rw [pollUsbByte_ignored _ value ignored, pollUsbByte_ignored _ value ignored]
    rfl
  · rfl
  · rw [pollUsbByte_timeout _ value positive accepted,
      pollUsbByte_timeout _ value positive accepted]
    cases triggered : device.triggered <;> simp [unsirened, triggered]

end Device

/-- A byte above 240, or a timeout that a triggered device is given. -/
def ignoredEvent (device : Device) : Event → Bool
  | .host value => decide (240 < value) || device.triggered && value != 0
  | _ => false

theorem unsirened_ignored {device : Device} {value : UInt8}
    (ignored : ignoredEvent device (.host value) = true) :
    (device.pollUsbByte value).unsirened = device.unsirened := by
  simp only [ignoredEvent, Bool.or_eq_true, decide_eq_true_eq, Bool.and_eq_true, bne_iff_ne]
    at ignored
  rcases Device.pollUsbByte_cases value with above | rfl | ⟨positive, accepted⟩
  · rw [Device.pollUsbByte_ignored _ value above]
    rfl
  · rcases ignored with above | ⟨_, nonzero⟩
    · cases above
    · exact absurd rfl nonzero
  · have triggered : device.triggered = true := by
      rcases ignored with above | ⟨triggered, _⟩
      · exact absurd accepted (UInt8.not_le.mpr above)
      · exact triggered
    rw [Device.pollUsbByte_timeout _ value positive accepted, if_pos triggered]

theorem unsirened_step (config : Config) (device : Device) (event : Event) :
    ((monitor config).step device event).unsirened =
      ((monitor config).step device.unsirened event).unsirened := by
  cases event with
  | host value => exact device.pollUsbByte_unsirened value
  | tick => exact (device.isrTimer1Compa_unsirened config).1
  | plc byte => rfl

/-- Ignored host bytes only touch the siren, which nothing else looks at. -/
def ignoredBytes (config : Config) : Unwinding (monitor config) Device where
  ignored := ignoredEvent
  view := Device.unsirened
  stutters device event ignored := by
    cases event with
    | host value => exact unsirened_ignored ignored
    | tick => cases ignored
    | plc byte => cases ignored
  consistent device other event same _ := by
    rw [unsirened_step, same, ← unsirened_step]

theorem silent_ignored {config : Config} (device : Device) (event : Event)
    (ignored : ignoredEvent device event = true) : (monitor config).emit device event = [] := by
  cases event with
  | host value => rfl
  | tick => cases ignored
  | plc byte => rfl

theorem emit_of_unsirened {config : Config} {device other : Device}
    (same : device.unsirened = other.unsirened) (event : Event) :
    (monitor config).emit device event = (monitor config).emit other event := by
  cases event with
  | host value => rfl
  | tick =>
      rw [monitor_emit_tick, monitor_emit_tick, (device.isrTimer1Compa_unsirened config).2, same,
        (other.isrTimer1Compa_unsirened config).2]
  | plc byte => rfl

/-- Deleting the ignored host bytes of a history changes neither what is sent nor
the device, its siren apart, at any point of the history. -/
theorem ignored_bytes_ignored (config : Config) (history later : List Event) :
    (monitor config).purge ignoredEvent .reset (history ++ later) =
        (monitor config).purge ignoredEvent .reset history ++
          (monitor config).purge ignoredEvent ((monitor config).run .reset history) later ∧
      ((monitor config).run .reset history).unsirened =
        ((monitor config).run .reset
          ((monitor config).purge ignoredEvent .reset history)).unsirened ∧
      (monitor config).outputs .reset history =
        (monitor config).outputs .reset
          ((monitor config).purge ignoredEvent .reset history) ∧
      ((monitor config).run .reset history).status =
        ((monitor config).run .reset
          ((monitor config).purge ignoredEvent .reset history)).status := by
  have same : ((monitor config).run .reset history).unsirened = _ :=
    (ignoredBytes config).view_purge rfl history
  refine ⟨(monitor config).purge_append _ _ _ _, same, ?_, ?_⟩
  · exact (ignoredBytes config).outputs_purge silent_ignored
      (fun _ _ event same => emit_of_unsirened same event) rfl history
  · rw [← Device.status_unsirened, same]
    rfl

end DomeHeartbeat
