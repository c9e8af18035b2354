import DomeHeartbeat.Reactive.Watchdog
import DomeHeartbeat.Atomic.Monitor

/-!
# The dead-man trigger

`latch` views the monitor as a `Watchdog`: the heartbeat counter is the count
left and `triggered` the latch. The simulation carries the two facts the view
needs, that an accepted timeout is never the reserved value 0xFF and that the
counter of a triggered device is zero.
-/

namespace DomeHeartbeat

open Reactive

/-- The counter holds an accepted timeout, and none while the latch is set. -/
structure Device.CountdownValid (device : Device) : Prop where
  accepted : device.heartbeat ≤ 240
  stopped : device.triggered = true → device.heartbeat = 0

theorem Device.CountdownValid.triggers_false {device : Device} (valid : device.CountdownValid)
    (triggered : device.triggered = true) : device.triggers = false := by
  simp [Device.triggers, valid.stopped triggered]

theorem Device.CountdownValid.reset : Device.reset.CountdownValid :=
  ⟨by decide, fun _ => rfl⟩

theorem Device.CountdownValid.step {device : Device} (valid : device.CountdownValid)
    (config : Config) (event : Event) : ((monitor config).step device event).CountdownValid := by
  cases event with
  | host value =>
      rcases Device.pollUsbByte_cases value with ignored | rfl | ⟨positive, accepted⟩
      · rw [monitor_step_host, device.pollUsbByte_ignored value ignored]
        exact ⟨valid.accepted, valid.stopped⟩
      · exact ⟨UInt8.zero_le, fun _ => rfl⟩
      · rw [monitor_step_host, device.pollUsbByte_timeout value positive accepted]
        cases triggered : device.triggered with
        | true => simpa [triggered] using valid
        | false => exact ⟨accepted, fun latched => by simp at latched⟩
  | tick =>
      refine ⟨by simpa using Device.countedDown_le valid.accepted, fun latched => ?_⟩
      rw [monitor_step_tick, Device.isrTimer1Compa_heartbeat]
      simp only [monitor_step_tick, Device.isrTimer1Compa_triggered, Bool.or_eq_true] at latched
      rcases latched with triggered | triggers
      · simp [valid.stopped triggered, Device.countedDown]
      · simp [(device.triggers_iff).mp triggers, Device.countedDown]
  | plc byte => exact ⟨valid.accepted, valid.stopped⟩

theorem Device.CountdownValid.run {device : Device} (valid : device.CountdownValid)
    (config : Config) (history : List Event) :
    ((monitor config).run device history).CountdownValid :=
  Machine.run_induction (fun _ event valid _ => valid.step config event) valid
    (Machine.along_true device history)

theorem Device.CountdownValid.of_reachable {config : Config} {device : Device}
    (reachable : (monitor config).Reachable device) : device.CountdownValid := by
  obtain ⟨history, rfl⟩ := reachable
  exact Device.CountdownValid.reset.run config history

/-- The countdown and the latch as a watchdog state. -/
def latch (device : Device) : Watchdog :=
  if device.triggered then .latched else .waiting device.heartbeat.toNat

/-- What an event is to the watchdog; host bytes above 240 and PLC bytes are nothing. -/
def watchdogAct : Event → Option Watchdog.Act
  | .host value => if value ≤ 240 then some (.set value.toNat) else none
  | .tick => some .tick
  | .plc _ => none

theorem latch_host {device : Device} (value : UInt8) :
    latch (device.pollUsbByte value) =
      (watchdogAct (.host value)).elim (latch device) (Watchdog.step (latch device)) := by
  rcases Device.pollUsbByte_cases value with ignored | rfl | ⟨positive, accepted⟩
  · have outside : ¬ value ≤ 240 := UInt8.not_le.mpr ignored
    simp [device.pollUsbByte_ignored value ignored, latch, watchdogAct, outside]
  · cases triggered : device.triggered <;>
      simp [device.pollUsbByte_zero, latch, watchdogAct, Watchdog.step, triggered]
  · obtain ⟨left, timeout⟩ : ∃ left, value.toNat = left + 1 :=
      Nat.exists_eq_succ_of_ne_zero (mt Counter.toNat_eq_zero.mp positive)
    cases triggered : device.triggered <;>
      simp [device.pollUsbByte_timeout value positive accepted, latch, watchdogAct, Watchdog.step,
        triggered, accepted, timeout]

theorem latch_tick {device : Device} (valid : device.CountdownValid) (config : Config) :
    latch (device.isrTimer1Compa config).1 = Watchdog.step (latch device) .tick := by
  cases triggered : device.triggered with
  | true => simp [latch, triggered, Watchdog.step]
  | false =>
      have left := Device.countedDown_toNat valid.accepted
      by_cases one : device.heartbeat = 1
      · simp [latch, triggered, Watchdog.step, device.triggers_iff.mpr one, one]
      · have notOne : device.heartbeat.toNat ≠ 1 := mt Counter.toNat_eq_one.mp one
        have quiet : device.triggers = false := by simp [Device.triggers, one]
        simp only [latch, triggered, Device.isrTimer1Compa_triggered, quiet, Bool.or_self,
          Device.isrTimer1Compa_heartbeat, left]
        generalize device.heartbeat.toNat = count at notOne
        rcases count with _ | _ | count
        · rfl
        · exact absurd rfl notOne
        · rfl

/-- The monitor's countdown is a latching watchdog. -/
def latchSimulation (config : Config) : Simulation (monitor config) Watchdog.machine where
  invariant := Device.CountdownValid
  guard _ _ := True
  view := latch
  label _ := watchdogAct
  preserved _ event valid _ := valid.step config event
  step device event valid _ := by
    cases event with
    | host value => exact latch_host value
    | tick => exact latch_tick valid config
    | plc byte => rfl

/-- No host byte of the history restarts or stops the countdown. -/
def Unrefreshed (history : List Event) : Prop :=
  ∀ value, .host value ∈ history → 240 < value

theorem unrefreshed_ticks (count : Nat) : Unrefreshed (List.replicate count .tick) := by
  intro value member
  cases List.eq_of_mem_replicate member

/-- The history in the watchdog's terms. -/
def watchdogActs (history : List Event) : List Watchdog.Act := history.filterMap watchdogAct

theorem trace_latchSimulation (config : Config) (device : Device) (history : List Event) :
    (latchSimulation config).trace device history = watchdogActs history := by
  induction history generalizing device with
  | nil => rfl
  | cons event history ih =>
      rw [Simulation.trace, ih]
      cases act : watchdogAct event <;>
        simp [watchdogActs, latchSimulation, act]

theorem watchdogActs_of_unrefreshed {history : List Event} (unrefreshed : Unrefreshed history) :
    watchdogActs history = List.replicate (ticks history) .tick := by
  induction history with
  | nil => rfl
  | cons event history ih =>
      have rest := ih (fun value member => unrefreshed value (List.mem_cons_of_mem _ member))
      cases event with
      | host value =>
          have ignored := unrefreshed value List.mem_cons_self
          have outside : ¬ value ≤ 240 := UInt8.not_le.mpr ignored
          simpa [watchdogActs, watchdogAct, outside, ticks] using rest
      | tick => simpa [watchdogActs, watchdogAct, ticks, List.replicate_succ] using rest
      | plc byte => simpa [watchdogActs, watchdogAct, ticks, List.filterMap_cons] using rest

theorem unrefreshed_of_watchdogActs {history : List Event} {count : Nat}
    (acts : watchdogActs history = List.replicate count .tick) :
    Unrefreshed history ∧ ticks history = count := by
  have unrefreshed : Unrefreshed history := by
    intro value member
    by_contra inside
    have accepted : value ≤ 240 := UInt8.not_lt.mp inside
    have seen : Watchdog.Act.set value.toNat ∈ watchdogActs history :=
      List.mem_filterMap.mpr ⟨.host value, member, by simp [watchdogAct, accepted]⟩
    rw [acts] at seen
    exact absurd (List.eq_of_mem_replicate seen) (by simp)
  refine ⟨unrefreshed, ?_⟩
  have lengths := congrArg List.length (watchdogActs_of_unrefreshed unrefreshed)
  rw [acts, List.length_replicate, List.length_replicate] at lengths
  exact lengths.symm

theorem set_zero_mem_iff {history : List Event} :
    .set 0 ∈ watchdogActs history ↔ .host 0 ∈ history := by
  rw [watchdogActs, List.mem_filterMap]
  constructor
  · rintro ⟨event, member, act⟩
    cases event with
    | host value =>
        by_cases accepted : value ≤ 240
        · have zero : value = 0 := by simpa [watchdogAct, accepted, ← UInt8.toNat_inj] using act
          exact zero ▸ member
        · simp [watchdogAct, accepted] at act
    | tick => simp [watchdogAct] at act
    | plc byte => simp [watchdogAct] at act
  · intro member
    exact ⟨.host 0, member, rfl⟩

/-- A host timeout ran out: as many ticks as it grants followed it, no accepted
host byte came before the last of them, and no zero byte came after. -/
def TimeoutExpired (history : List Event) : Prop :=
  ∃ before timeout between after,
    history = before ++ .host timeout :: (between ++ .tick :: after) ∧
      1 ≤ timeout ∧ timeout ≤ 240 ∧ ticks between + 1 = timeout.toNat ∧
      Unrefreshed between ∧ .host 0 ∉ after

theorem watchdogActs_timeout (before rest : List Event) {timeout : UInt8}
    (accepted : timeout ≤ 240) :
    watchdogActs (before ++ .host timeout :: rest) =
      watchdogActs before ++ .set timeout.toNat :: watchdogActs rest := by
  simp [watchdogActs, watchdogAct, accepted]

/-- An entry of the watchdog's history comes from an accepted host byte. -/
theorem exists_host_of_set {history : List Event} {before after : List Watchdog.Act}
    {timeout : Nat} (acts : watchdogActs history = before ++ .set timeout :: after) :
    ∃ earlier value later, history = earlier ++ .host value :: later ∧ value ≤ 240 ∧
      value.toNat = timeout ∧ watchdogActs later = after := by
  obtain ⟨first, second, rfl, -, tail⟩ := List.filterMap_eq_append_iff.mp acts
  obtain ⟨skipped, event, later, rfl, -, entry, rest⟩ := List.filterMap_eq_cons_iff.mp tail
  cases event with
  | host value =>
      by_cases accepted : value ≤ 240
      · have same : value.toNat = timeout := by simpa [watchdogAct, accepted] using entry
        exact ⟨first ++ skipped, value, later, by simp, accepted, same, rest⟩
      · simp [watchdogAct, accepted] at entry
  | tick => simp [watchdogAct] at entry
  | plc byte => simp [watchdogAct] at entry

/-- The watchdog's history has expired exactly when a host timeout ran out. -/
theorem expired_iff_timeoutExpired (history : List Event) :
    Watchdog.Expired (watchdogActs history) ↔ TimeoutExpired history := by
  constructor
  · rintro ⟨before, timeout, after, positive, acts, uncleared⟩
    obtain ⟨earlier, value, later, rfl, accepted, rfl, rest⟩ := exists_host_of_set acts
    obtain ⟨count, last⟩ := Nat.exists_eq_add_one.mpr positive
    rw [last, List.replicate_succ', List.append_assoc] at rest
    obtain ⟨between, tail, rfl, counted, tailActs⟩ := List.filterMap_eq_append_iff.mp rest
    obtain ⟨skipped, event, remaining, rfl, silent, entry, afterActs⟩ :=
      List.filterMap_eq_cons_iff.mp tailActs
    have isTick : event = .tick := by
      cases event with
      | host other => by_cases inside : other ≤ 240 <;> simp [watchdogAct, inside] at entry
      | tick => rfl
      | plc byte => simp [watchdogAct] at entry
    subst isTick
    have quiet : watchdogActs (between ++ skipped) = List.replicate count .tick := by
      have none : skipped.filterMap watchdogAct = [] := List.filterMap_eq_nil_iff.mpr silent
      rw [watchdogActs, List.filterMap_append, counted, none, List.append_nil]
    obtain ⟨unrefreshed, counts⟩ := unrefreshed_of_watchdogActs quiet
    refine ⟨earlier, value, between ++ skipped, remaining, by simp, ?_, accepted, by omega,
      unrefreshed, fun disabled => uncleared ?_⟩
    · exact UInt8.le_iff_toNat_le.mpr positive
    · have seen := set_zero_mem_iff.mpr disabled
      rwa [watchdogActs, afterActs] at seen
  · rintro ⟨before, timeout, between, after, rfl, positive, accepted, counted, unrefreshed, kept⟩
    refine ⟨watchdogActs before, timeout.toNat, watchdogActs after, by omega, ?_,
      fun disabled => kept (set_zero_mem_iff.mp disabled)⟩
    have tail : watchdogActs (.tick :: after) = .tick :: watchdogActs after := rfl
    rw [watchdogActs_timeout _ _ accepted, ← counted, List.replicate_succ', List.append_assoc,
      ← watchdogActs_of_unrefreshed unrefreshed, List.singleton_append, ← tail]
    simp [watchdogActs]

theorem latch_run {config : Config} {device : Device} (valid : device.CountdownValid)
    (history : List Event) :
    latch ((monitor config).run device history) =
      Watchdog.machine.run (latch device) (watchdogActs history) := by
  have view := (latchSimulation config).view_run valid (Machine.along_true device history)
  rwa [trace_latchSimulation] at view

/-- An armed device that gets no accepted host byte triggers once its count is used up. -/
theorem armed_run {config : Config} {device : Device} (valid : device.CountdownValid)
    (untriggered : device.triggered = false) (armed : device.heartbeat ≠ 0)
    {history : List Event} (unrefreshed : Unrefreshed history) :
    latch ((monitor config).run device history) =
      if device.heartbeat.toNat ≤ ticks history then .latched
      else .waiting (device.heartbeat.toNat - ticks history) := by
  have positive : device.heartbeat.toNat ≠ 0 := mt Counter.toNat_eq_zero.mp armed
  have waiting : latch device = .waiting device.heartbeat.toNat := by simp [latch, untriggered]
  rw [latch_run valid, waiting, watchdogActs_of_unrefreshed unrefreshed,
    Watchdog.run_replicate (Nat.pos_of_ne_zero positive)]

theorem latch_eq_latched {device : Device} : latch device = .latched ↔ device.triggered = true := by
  cases triggered : device.triggered <;> simp [latch, triggered]

theorem latch_eq_waiting {device : Device} {left : Nat} :
    latch device = .waiting left ↔ device.triggered = false ∧ device.heartbeat.toNat = left := by
  cases triggered : device.triggered <;> simp [latch, triggered]

/-- The device is triggered exactly when a host timeout ran out, and until then
the counter is the last timeout less the ticks since. -/
theorem triggered_exact (config : Config) (history : List Event) :
    (((monitor config).run .reset history).triggered = true ↔ TimeoutExpired history) ∧
      (((monitor config).run .reset history).triggered = false →
        (Unrefreshed history → ((monitor config).run .reset history).heartbeat = 0) ∧
        ∀ before value after, history = before ++ .host value :: after → value ≤ 240 →
          Unrefreshed after →
            (value = 0 → ((monitor config).run .reset history).heartbeat = 0) ∧
            (value ≠ 0 → ((monitor config).run .reset history).heartbeat.toNat + ticks after =
              value.toNat)) := by
  have view : latch ((monitor config).run .reset history) =
      Watchdog.machine.run (.waiting 0) (watchdogActs history) := latch_run .reset history
  generalize (monitor config).run .reset history = device at view
  constructor
  · rw [← expired_iff_timeoutExpired, ← Watchdog.latched_iff_expired, ← view, latch_eq_latched]
  · intro untriggered
    have waiting : latch device = .waiting device.heartbeat.toNat := by simp [latch, untriggered]
    rw [waiting] at view
    constructor
    · intro unrefreshed
      rw [watchdogActs_of_unrefreshed unrefreshed] at view
      have left := Watchdog.run_ticks view.symm
      exact Counter.toNat_eq_zero.mp (left.trans (Nat.zero_sub _))
    · rintro before value after rfl accepted unrefreshed
      rw [watchdogActs_timeout _ _ accepted, watchdogActs_of_unrefreshed unrefreshed] at view
      obtain ⟨left, inTime⟩ := Watchdog.waiting_left view.symm
      constructor
      · rintro rfl
        exact Counter.toNat_eq_zero.mp (left.trans (Nat.zero_sub _))
      · intro positive
        have early := inTime (mt Counter.toNat_eq_zero.mp positive)
        omega

end DomeHeartbeat
