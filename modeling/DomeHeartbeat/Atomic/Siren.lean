import DomeHeartbeat.Reactive.Pulse
import DomeHeartbeat.Atomic.DeadMan

/-!
# The siren

`sirenSimulation` views the siren as a `Pulse` of ten ticks. The tick that
services a request already counts, so the siren is on for nine whole tick
intervals after any request (`siren_sounds`).
-/

namespace DomeHeartbeat

open Reactive

namespace Device

/-- The siren counter and the siren pin. -/
def pulse (device : Device) : Pulse := ⟨device.enableSirenSteps.toNat, device.siren⟩

/-- A host byte 0xFF, or a tick that finds ten ticks left. -/
def requestsSiren (device : Device) : Event → Bool
  | .host value => value == 0xFF
  | .tick => device.heartbeat == 10
  | .plc _ => false

/-- What an event is to the siren. -/
def sirenAct (device : Device) : Event → Option Pulse.Act
  | .host value => if value = 0xFF then some .restart else none
  | .tick => some (.tick (device.heartbeat == 10))
  | .plc _ => none

theorem pulse_tick (config : Config) (device : Device) :
    (device.isrTimer1Compa config).1.pulse =
      (Pulse.machine 10).step device.pulse (.tick (device.heartbeat == 10)) := by
  have loaded : (device.beforeSend config).enableSirenSteps.toNat =
      device.pulse.loaded 10 (device.heartbeat == 10) := by
    rw [beforeSend_enableSirenSteps]
    by_cases ten : device.heartbeat = 10 <;> simp [ten, pulse, Pulse.loaded]
  rw [pulse, isrTimer1Compa_enableSirenSteps, isrTimer1Compa_siren]
  generalize (device.beforeSend config).enableSirenSteps = steps at loaded
  rw [Pulse.machine]
  dsimp only
  rw [← loaded]
  by_cases zero : steps = 0
  · simp [zero, pulse]
  · have positive : steps.toNat ≠ 0 := mt Counter.toNat_eq_zero.mp zero
    have last : (steps != 1) = (steps.toNat != 1) := by
      rw [Bool.eq_iff_iff, bne_iff_ne, bne_iff_ne, Ne, Ne, Counter.toNat_eq_one]
    rw [if_neg zero, if_neg zero, if_neg positive, Counter.toNat_pred zero, last]

theorem pulse_host (device : Device) (value : UInt8) :
    (device.pollUsbByte value).pulse =
      if value = 0xFF then ⟨10, device.siren⟩ else device.pulse := by
  rw [pulse, (device.pollUsbByte_siren value).1, (device.pollUsbByte_siren value).2]
  split <;> rfl

end Device

/-- The siren is a pulse of ten ticks. -/
def sirenSimulation (config : Config) : Simulation (monitor config) (Pulse.machine 10) where
  invariant _ := True
  guard _ _ := True
  view := Device.pulse
  label := Device.sirenAct
  preserved _ _ _ _ := trivial
  step device event _ _ := by
    cases event with
    | host value =>
        rw [monitor_step_host, device.pulse_host, Device.sirenAct]
        split <;> rfl
    | tick => exact device.pulse_tick config
    | plc byte => rfl

theorem pulse_run (config : Config) (device : Device) (history : List Event) :
    ((monitor config).run device history).pulse =
      (Pulse.machine 10).run device.pulse ((sirenSimulation config).trace device history) :=
  (sirenSimulation config).view_run trivial (Machine.along_true device history)

theorem sound_step (config : Config) {device : Device} (sound : device.pulse.Sound)
    (event : Event) : ((monitor config).step device event).pulse.Sound := by
  have view := (sirenSimulation config).step device event trivial trivial
  change ((monitor config).step device event).pulse = _ at view
  rw [view]
  cases (sirenSimulation config).label device event with
  | none => exact sound
  | some act => exact sound.step (by omega) act

/-- No event of a run requests the siren. -/
def Unrequested (device : Device) (event : Event) : Prop := device.requestsSiren event = false

instance Unrequested.decidable (device : Device) (event : Event) :
    Decidable (Unrequested device event) :=
  inferInstanceAs (Decidable (_ = false))

theorem trace_of_unrequested {config : Config} {device : Device} {history : List Event}
    (alone : (monitor config).Along Unrequested device history) :
    (sirenSimulation config).trace device history =
      List.replicate (ticks history) (.tick false) := by
  induction history generalizing device with
  | nil => rfl
  | cons event history ih =>
      obtain ⟨quiet, later⟩ := alone
      rw [Simulation.trace, ih later]
      cases event with
      | host value =>
          have other : value ≠ 0xFF := by simpa [Unrequested, Device.requestsSiren] using quiet
          simp [sirenSimulation, Device.sirenAct, other, ticks]
      | tick =>
          have other : (device.heartbeat == 10) = false := quiet
          simp [sirenSimulation, Device.sirenAct, other, ticks, List.replicate_succ]
      | plc byte => simp [sirenSimulation, Device.sirenAct, ticks]

/-- The siren sounds for a number of whole tick intervals: it is on after each of
so many ticks and off after the next one. -/
def SoundsFor (intervals : Nat) (config : Config) (device : Device) (history : List Event) :
    Prop :=
  ∀ earlier later, history = earlier ++ later → 1 ≤ ticks earlier →
    ticks earlier ≤ intervals + 1 →
    (((monitor config).run device earlier).siren = true ↔ ticks earlier ≤ intervals)

theorem sirenAct_of_requests {device : Device} {request : Event}
    (requests : device.requestsSiren request = true) :
    ∃ act, device.sirenAct request = some act ∧ act ≠ .tick false ∧
      ∀ rest, Pulse.ticksSince act (ticks rest) = ticks (request :: rest) := by
  cases request with
  | host value =>
      have siren : value = 0xFF := by simpa [Device.requestsSiren] using requests
      exact ⟨.restart, by simp [Device.sirenAct, siren], by simp,
        fun rest => by simp [Pulse.ticksSince, ticks]⟩
  | tick =>
      have ten : (device.heartbeat == 10) = true := requests
      exact ⟨.tick true, by simp only [Device.sirenAct, ten], by simp,
        fun rest => by simp [Pulse.ticksSince, ticks]⟩
  | plc byte => cases requests

/-- After a request that no other follows the siren is on until the tenth tick. -/
theorem siren_window {config : Config} {device : Device} {request : Event}
    (requests : device.requestsSiren request = true) {rest : List Event}
    (alone : (monitor config).Along Unrequested ((monitor config).step device request) rest)
    (begun : 1 ≤ ticks (request :: rest)) :
    ((monitor config).run device (request :: rest)).siren = true ↔
      ticks (request :: rest) ≤ 9 := by
  obtain ⟨act, label, other, counted⟩ := sirenAct_of_requests requests
  have view := pulse_run config device (request :: rest)
  have labelled : (sirenSimulation config).label device request = some act := label
  rw [Simulation.trace, labelled, trace_of_unrequested alone] at view
  have on : ((monitor config).run device (request :: rest)).siren =
      ((monitor config).run device (request :: rest)).pulse.on := rfl
  rw [← counted] at begun ⊢
  rw [on, view]
  exact (Pulse.on_window (by omega) device.pulse other (ticks rest) begun).trans Nat.lt_succ_iff

/-- Every request that no other follows sounds the siren for nine whole tick
intervals, and so never for the ten that make five seconds. -/
theorem siren_sounds (config : Config) (device : Device) (request : Event) (rest : List Event)
    (requests : device.requestsSiren request = true)
    (alone : (monitor config).Along Unrequested ((monitor config).step device request) rest) :
    (∀ earlier later, request :: rest = earlier ++ later → 1 ≤ ticks earlier →
      (((monitor config).run device earlier).siren = true ↔ ticks earlier ≤ 9)) ∧
      (10 ≤ ticks (request :: rest) → ¬ SoundsFor 10 config device (request :: rest)) := by
  have window : ∀ earlier later, request :: rest = earlier ++ later → 1 ≤ ticks earlier →
      (((monitor config).run device earlier).siren = true ↔ ticks earlier ≤ 9) := by
    intro earlier later split begun
    cases earlier with
    | nil => cases begun
    | cons first earlier =>
        injection split with same split
        subst same split
        exact siren_window requests ((Machine.along_append _ _ _ _ _).mp alone).1 begun
  refine ⟨window, fun enough sounds => ?_⟩
  obtain ⟨earlier, later, split, ten⟩ := exists_prefix_ticks enough
  have low := (window earlier later split (by omega)).mp
    ((sounds earlier later split (by omega) (by omega)).mpr (by omega))
  omega

theorem siren_sounds_on_request :
    ¬ SoundsFor 10 makefileConfig .reset (.host 0xFF :: List.replicate 10 .tick) :=
  (siren_sounds makefileConfig .reset (.host 0xFF) (List.replicate 10 .tick) rfl
    (by decide +kernel)).2 (by decide)

/-- Nine intervals after the tick that services a request the siren is off. -/
theorem siren_cut_short :
    ¬ ∀ device request rest, (monitor makefileConfig).Reachable device →
      device.requestsSiren request = true →
      (monitor makefileConfig).Along Unrequested
        ((monitor makefileConfig).step device request) rest →
      SoundsFor 10 makefileConfig device (request :: rest) := by
  intro law
  have sounds := law .reset (.host 0xFF) (List.replicate 10 .tick) ⟨[], rfl⟩ rfl
    (by decide +kernel)
  have on := sounds (.host 0xFF :: List.replicate 10 .tick) [] (List.append_nil _).symm
    (by decide) (by decide)
  exact absurd (on.mpr (by decide)) (by decide +kernel)

end DomeHeartbeat
