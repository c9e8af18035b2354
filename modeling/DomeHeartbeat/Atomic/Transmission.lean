import DomeHeartbeat.Firmware.Transmitter
import DomeHeartbeat.Atomic.Monitor

/-!
# The monitor on its serial line

`line` adds the transmitter and its interrupt to the monitor. A tick that finds
the transmit buffer full has no successor, and a run that reaches a state is the
monitor's run of the same events (`device_of_reaches`) whose bytes are loaded in
the order they were passed on (`loaded_append_queued`).
-/

namespace DomeHeartbeat

open Reactive

/-- The device together with its transmitter. -/
structure Firmware where
  device : Device
  transmitter : Transmitter

/-- An event of the monitor or a run of the transmit interrupt. -/
inductive LineAct where
  | event (event : Event)
  | udre
deriving DecidableEq, Repr

/-- A byte loaded into UDR1 and whether the relay connects the line at that time. -/
structure Load where
  byte : UInt8
  relay : Bool
deriving DecidableEq, Repr

namespace Firmware

def reset : Firmware := ⟨.reset, .reset⟩

/-- One step, or nothing when `serial_write` waits inside the timer interrupt. -/
def step (config : Config) (firmware : Firmware) : LineAct → Option Firmware
  | .event event => do
      let transmitter ←
        ((monitor config).emit firmware.device event).foldlM Transmitter.serialWrite
          firmware.transmitter
      return ⟨(monitor config).step firmware.device event, transmitter⟩
  | .udre => some { firmware with transmitter := firmware.transmitter.isrUsart1Udre.1 }

end Firmware

/-- The firmware with its serial line; `none` is a device that hangs. -/
def line (config : Config) : Machine (Option Firmware) LineAct Load where
  initial := some .reset
  step state act := state.bind fun firmware => firmware.step config act
  emit
    | some firmware, .udre =>
        firmware.transmitter.isrUsart1Udre.2.map fun byte => ⟨byte, firmware.device.relay⟩
    | _, _ => []

/-- The monitor's events among the actions of a run. -/
def events (acts : List LineAct) : List Event :=
  acts.filterMap fun
    | .event event => some event
    | .udre => none

@[simp] theorem events_nil : events [] = [] := rfl

@[simp] theorem events_event (event : Event) (acts : List LineAct) :
    events (.event event :: acts) = event :: events acts := rfl

@[simp] theorem events_udre (acts : List LineAct) : events (.udre :: acts) = events acts := rfl

@[simp] theorem events_append (first second : List LineAct) :
    events (first ++ second) = events first ++ events second := List.filterMap_append

theorem mem_events {acts : List LineAct} {event : Event} :
    event ∈ events acts ↔ .event event ∈ acts := by
  rw [events, List.mem_filterMap]
  constructor
  · rintro ⟨act, member, same⟩
    cases act with
    | event found =>
        cases same
        exact member
    | udre => cases same
  · intro member
    exact ⟨.event event, member, rfl⟩

/-- A run from one firmware state to another in which `serial_write` always returned. -/
def Reaches (config : Config) (firmware : Firmware) (acts : List LineAct) (last : Firmware) :
    Prop :=
  (line config).run (some firmware) acts = some last

section Steps

variable {config : Config} {firmware last : Firmware} {act : LineAct} {acts : List LineAct}

theorem run_hung (config : Config) (acts : List LineAct) : (line config).run none acts = none := by
  induction acts with
  | nil => rfl
  | cons act acts ih => exact ih

theorem outputs_hung (config : Config) (acts : List LineAct) :
    (line config).outputs none acts = [] := by
  induction acts with
  | nil => rfl
  | cons act acts ih => exact ih

theorem reaches_cons : Reaches config firmware (act :: acts) last ↔
    ∃ next, firmware.step config act = some next ∧ Reaches config next acts last := by
  have unfolded : Reaches config firmware (act :: acts) last ↔
      (line config).run (firmware.step config act) acts = some last := Iff.rfl
  rw [unfolded]
  cases stepped : firmware.step config act with
  | none => simp [run_hung]
  | some next =>
      constructor
      · intro reached
        exact ⟨next, rfl, reached⟩
      · rintro ⟨_, same, reached⟩
        cases same
        exact reached

/-- A run whose end passes a test did not hang. -/
theorem exists_reaches {test : Firmware → Bool}
    (passes : ((line config).run (some firmware) acts).any test = true) :
    ∃ last, Reaches config firmware acts last ∧ test last = true :=
  (Option.any_eq_true _ _).mp passes

/-- What a step does to the device and to the transmit queue. -/
theorem step_cases {next : Firmware} (stepped : firmware.step config act = some next) :
    (∃ event, act = .event event ∧
        next.device = (monitor config).step firmware.device event ∧
        next.transmitter.queued =
          firmware.transmitter.queued ++ (monitor config).emit firmware.device event) ∨
      act = .udre ∧ next.device = firmware.device ∧
        next.transmitter = firmware.transmitter.isrUsart1Udre.1 := by
  cases act with
  | event event =>
      have written : ∀ bytes (before after : Transmitter),
          bytes.foldlM Transmitter.serialWrite before = some after →
          after.queued = before.queued ++ bytes := by
        intro bytes
        induction bytes with
        | nil =>
            intro before after same
            cases same
            exact (List.append_nil _).symm
        | cons byte bytes ih =>
            intro before after same
            rw [List.foldlM_cons, Option.bind_eq_bind, Option.bind_eq_some_iff] at same
            obtain ⟨middle, returns, rest⟩ := same
            rw [ih middle after rest, Transmitter.queued_serialWrite returns, List.append_assoc]
            rfl
      simp only [Firmware.step, Option.bind_eq_bind, Option.bind_eq_some_iff] at stepped
      obtain ⟨transmitter, returns, same⟩ := stepped
      cases same
      exact .inl ⟨event, rfl, rfl, written _ _ _ returns⟩
  | udre =>
      cases stepped
      exact .inr ⟨rfl, rfl, rfl⟩

/-- The device of a run that does not hang is the monitor's. -/
theorem device_of_reaches (reached : Reaches config firmware acts last) :
    last.device = (monitor config).run firmware.device (events acts) := by
  induction acts generalizing firmware with
  | nil =>
      cases reached
      rfl
  | cons act acts ih =>
      obtain ⟨next, stepped, rest⟩ := reaches_cons.mp reached
      rcases step_cases stepped with ⟨event, rfl, device, _⟩ | ⟨rfl, device, _⟩
      · rw [ih rest, device, events_event, Machine.run_cons]
      · rw [ih rest, device, events_udre]

theorem outputs_event (event : Event) :
    (line config).outputs (some firmware) (.event event :: acts) =
      (line config).outputs (firmware.step config (.event event)) acts := rfl

theorem outputs_udre :
    (line config).outputs (some firmware) (.udre :: acts) =
      (firmware.transmitter.isrUsart1Udre.2.map fun byte => ⟨byte, firmware.device.relay⟩) ++
        (line config).outputs (firmware.step config .udre) acts := rfl

/-- Bytes are loaded in the order they were queued and passed on, none is lost
and none is loaded twice. -/
theorem loaded_append_queued (reached : Reaches config firmware acts last) :
    ((line config).outputs (some firmware) acts).map Load.byte ++ last.transmitter.queued =
      firmware.transmitter.queued ++ (monitor config).outputs firmware.device (events acts) := by
  induction acts generalizing firmware with
  | nil =>
      cases reached
      simp
  | cons act acts ih =>
      obtain ⟨next, stepped, rest⟩ := reaches_cons.mp reached
      have later := ih rest
      rcases step_cases stepped with ⟨event, rfl, device, queued⟩ | ⟨rfl, device, transmitter⟩
      · rw [outputs_event, stepped, later, queued, device, events_event, Machine.outputs_cons,
          List.append_assoc]
      · rw [outputs_udre, stepped, List.map_append, List.append_assoc, later, device, events_udre,
          transmitter, ← List.append_assoc, List.map_map]
        congr 1
        simpa [Function.comp_def] using firmware.transmitter.queued_isrUsart1Udre

end Steps

/-- The device of a reachable firmware state is one the monitor reaches. -/
theorem reachable_device {config : Config} {firmware : Firmware}
    (reachable : (line config).Reachable (some firmware)) :
    (monitor config).Reachable firmware.device := by
  obtain ⟨acts, reached⟩ := reachable
  exact ⟨events acts, (device_of_reaches reached).symm⟩

end DomeHeartbeat
