import DomeHeartbeat.Atomic.CloseCycle
import DomeHeartbeat.Atomic.StrayCommands
import DomeHeartbeat.Atomic.Transmission

/-!
# Which commands reach the dome

The tick that ends a close cycle queues its command and drops the relay before
the transmit interrupt can run, so whatever is queued at that point is loaded
with the line already back at the PC. `commands_delivered` makes this exact: all
commands of a cycle are loaded in time if and only if the transmit buffer is
empty and nothing is left to send when the last tick of the cycle starts.
-/

namespace DomeHeartbeat

open Reactive

/-- The commands a cycle passes on are the loads that follow those already
queued when it starts, and the relay is on for each of them. -/
def Delivered (config : Config) (firmware : Firmware) (cycle after : List LineAct) : Prop :=
  let commands := (monitor config).outputs firmware.device (events cycle)
  (((line config).outputs (some firmware) (cycle ++ after)).drop
      firmware.transmitter.queued.length).take commands.length =
    commands.map fun byte => ⟨byte, true⟩

section Relay

variable {config : Config} {firmware last : Firmware} {acts : List LineAct}

/-- With the relay off and no trigger to come, every load finds it off. -/
theorem loads_off (quiet : (monitor config).Along NoTrigger firmware.device (events acts))
    (inactive : firmware.device.active = false) (released : firmware.device.relay = false) :
    ∀ load ∈ (line config).outputs (some firmware) acts, load.relay = false := by
  induction acts generalizing firmware with
  | nil => simp
  | cons act acts ih =>
      intro load member
      cases stepped : firmware.step config act with
      | none =>
          cases act with
          | event event =>
              rw [outputs_event, stepped, outputs_hung] at member
              cases member
          | udre => cases stepped
      | some next =>
          rcases step_cases stepped with ⟨event, rfl, device, _⟩ | ⟨rfl, device, _⟩
          · rw [outputs_event, stepped] at member
            obtain ⟨now, later⟩ := quiet
            have kept : ((monitor config).run firmware.device [event]).active = false ∧
                ((monitor config).run firmware.device [event]).relay = false :=
              inactive_run ⟨now, trivial⟩ inactive released
            refine ih ?_ ?_ ?_ load member
            · rw [device]
              exact later
            · rw [device]
              exact kept.1
            · rw [device]
              exact kept.2
          · rw [outputs_udre, stepped, List.mem_append, List.mem_map] at member
            rcases member with ⟨byte, _, rfl⟩ | member
            · exact released
            · exact ih (device ▸ quiet) (device ▸ inactive) (device ▸ released) load member

/-- Until a cycle ends, every load finds the relay on. -/
theorem loads_on (quiet : (monitor config).Along NoTrigger firmware.device (events acts))
    (agree : firmware.device.relay = firmware.device.active)
    (enabled : .event (.host 0) ∉ acts) (reached : Reaches config firmware acts last)
    (closing : last.device.active = true) :
    ∀ load ∈ (line config).outputs (some firmware) acts, load.relay = true := by
  induction acts generalizing firmware with
  | nil => simp
  | cons act acts ih =>
      intro load member
      have rest : .event (.host 0) ∉ acts := fun later => enabled (List.mem_cons_of_mem _ later)
      have active : firmware.device.active = true := by
        by_contra off
        rw [Bool.not_eq_true] at off
        have still := inactive_run quiet off (agree.trans off)
        rw [← device_of_reaches reached, closing] at still
        cases still.1
      obtain ⟨next, stepped, onward⟩ := reaches_cons.mp reached
      rcases step_cases stepped with ⟨event, rfl, device, _⟩ | ⟨rfl, device, _⟩
      · rw [outputs_event, stepped] at member
        obtain ⟨now, later⟩ := quiet
        have agrees : next.device.relay = next.device.active := by
          rw [device]
          cases event with
          | host value =>
              have nonzero : value ≠ 0 := fun zero => enabled (zero ▸ List.mem_cons_self)
              simp [agree]
          | tick => simp [agree, active]
          | plc byte => exact agree
        exact ih (device ▸ later) agrees rest onward load member
      · rw [outputs_udre, stepped, List.mem_append, List.mem_map] at member
        rcases member with ⟨byte, _, rfl⟩ | member
        · exact agree.trans active
        · exact ih (device ▸ quiet) (device ▸ agree) rest onward load member

end Relay

/-- Of the loads that follow those queued first, exactly the early ones are in
time, so all commands are in time exactly when none is left for later. -/
theorem in_time_iff {queued commands last waiting : List UInt8} {early late : List Load}
    (on : early = (early.map Load.byte).map fun byte => ⟨byte, true⟩)
    (off : ∀ load ∈ late, load.relay = false)
    (balance : early.map Load.byte ++ waiting = queued ++ commands) (sends : commands ≠ []) :
    ((early ++ late).drop queued.length).take (commands ++ last).length =
        (commands ++ last).map (fun byte => ⟨byte, true⟩) ↔
      waiting = [] ∧ last = [] := by
  constructor
  · intro inTime
    by_contra more
    have lengths := congrArg List.length balance
    simp only [List.length_append, List.length_map] at lengths
    have positive : 0 < commands.length := List.length_pos_iff.mpr sends
    have beyond : early.length ≤ queued.length + (commands.length + last.length - 1) := by
      by_cases none : waiting = []
      · have some : 0 < last.length := List.length_pos_iff.mpr fun empty => more ⟨none, empty⟩
        omega
      · have some : 0 < waiting.length := List.length_pos_iff.mpr none
        omega
    -- The last command is among the late loads.
    have final := congrArg (fun loads => loads[commands.length + last.length - 1]?) inTime
    simp only [List.length_append] at final
    rw [List.getElem?_take_of_lt (by omega), List.getElem?_drop,
      List.getElem?_append_right beyond, List.getElem?_map] at final
    have inside : commands.length + last.length - 1 < (commands ++ last).length := by
      rw [List.length_append]
      omega
    rw [List.getElem?_eq_getElem inside, Option.map_some] at final
    have relay := off _ (List.mem_of_getElem? final)
    cases relay
  · rintro ⟨rfl, rfl⟩
    rw [List.append_nil] at balance ⊢
    rw [on, balance, List.map_append, List.append_assoc, List.drop_left' (List.length_map _),
      List.take_left' (List.length_map _)]

section Cycle

variable {config : Config} {firmware last : Firmware} {during after : List LineAct}

/-- After a trigger and without a zero byte the device stays triggered, so no
tick before the end of the cycle triggers again. -/
theorem quiet_during (valid : firmware.device.CountdownValid)
    (triggers : firmware.device.triggers = true) (enabled : .event (.host 0) ∉ during) :
    (monitor config).Along NoTrigger ((monitor config).step firmware.device .tick)
        (events during) ∧
      ((monitor config).run firmware.device (.tick :: events during)).triggers = false := by
  have zero : .host 0 ∉ events during := fun member => enabled (mem_events.mp member)
  obtain ⟨triggered, quiet⟩ := triggered_run (valid.step config .tick) (by simp [triggers]) zero
  exact ⟨quiet, (valid.run config _).triggers_false triggered⟩

/-- The loads up to the last tick of a cycle all reach the dome. -/
theorem loads_during (valid : firmware.device.CountdownValid)
    (triggers : firmware.device.triggers = true) (enabled : .event (.host 0) ∉ during)
    (reached : Reaches config firmware (.event .tick :: during) last)
    (closing : last.device.active = true) :
    (line config).outputs (some firmware) (.event .tick :: during) =
      (((line config).outputs (some firmware) (.event .tick :: during)).map Load.byte).map
        fun byte => ⟨byte, true⟩ := by
  have quiet : (monitor config).Along NoTrigger ((monitor config).step firmware.device .tick)
      (events during) := (quiet_during valid triggers enabled).1
  obtain ⟨next, stepped, onward⟩ := reaches_cons.mp reached
  have device : next.device = (monitor config).step firmware.device .tick := by
    rcases step_cases stepped with ⟨event, same, device, _⟩ | ⟨other, _⟩
    · cases same
      exact device
    · cases other
  rw [outputs_event, stepped]
  have on := loads_on (device ▸ quiet) (by simp [device, triggers]) enabled onward closing
  rw [List.map_map]
  refine (List.map_id'' (fun load => rfl) _).symm.trans (List.map_congr_left ?_)
  intro load member
  exact congrArg (Load.mk load.byte) (on load member)

/-- A trigger tick passes a command on. -/
theorem trigger_sends (positive : 1 ≤ config.maxShutterCloseSteps)
    (bounded : config.maxShutterCloseSteps ≤ 255) {device : Device}
    (unguarded : Unguarded config device) (triggers : device.triggers = true) :
    (device.isrTimer1Compa config).2 ≠ [] := by
  have sent := send_fullPlan bounded unguarded triggers
  rw [Stages.cancel_none] at sent
  intro silent
  have nothing := (Stages.send_eq_nil_iff _).mp ((congrArg Prod.fst sent).trans silent)
  rw [total_fullPlan] at nothing
  omega

end Cycle

/-- Every command of a cycle is loaded with the relay on if and only if the last
tick of the cycle finds the transmit buffer empty and nothing left to send: no
relay reset, and both shutters without steps or reported closed. -/
theorem commands_delivered (config : Config) (positive : 1 ≤ config.maxShutterCloseSteps)
    (bounded : config.maxShutterCloseSteps ≤ 255) (firmware last : Firmware)
    (during after : List LineAct) (reachable : (line config).Reachable (some firmware))
    (triggers : firmware.device.triggers = true) (enabled : .event (.host 0) ∉ during)
    (reached : Reaches config firmware (.event .tick :: during) last)
    (closing : last.device.active = true)
    (released : (last.device.isrTimer1Compa config).1.active = false)
    (quiet : (monitor config).Along NoTrigger (last.device.isrTimer1Compa config).1
      (events after)) :
    Delivered config firmware (.event .tick :: during ++ [.event .tick]) after ↔
      last.transmitter.queued = [] ∧ last.device.relayResetSteps = 0 ∧ last.device.Confirmed := by
  have valid := Device.CountdownValid.of_reachable (reachable_device reachable)
  have unguarded := unguarded_of_reachable (reachable_device reachable)
  have lastDevice := device_of_reaches reached
  have idle : last.device.triggers = false := by
    rw [lastDevice]
    exact (quiet_during valid triggers enabled).2
  -- What the cycle passes on, and what has been loaded of it before its last tick.
  have commands : (monitor config).outputs firmware.device
      (events (.event .tick :: during ++ [LineAct.event .tick])) =
        (monitor config).outputs firmware.device (events (.event .tick :: during)) ++
          (last.device.isrTimer1Compa config).2 := by
    rw [events_append, Machine.outputs_append, ← lastDevice]
    simp
  have balance := loaded_append_queued reached
  have onTime := loads_during valid triggers enabled reached closing
  have loads : (line config).outputs (some firmware)
      (.event .tick :: during ++ [LineAct.event .tick] ++ after) =
        (line config).outputs (some firmware) (.event .tick :: during) ++
          (line config).outputs (last.step config (.event .tick)) after := by
    rw [List.append_assoc, Machine.outputs_append]
    congr 1
    rw [show (line config).run (some firmware) (.event .tick :: during) = some last from reached]
    rfl
  have late : ∀ load ∈ (line config).outputs (last.step config (.event .tick)) after,
      load.relay = false := by
    cases stepped : last.step config (.event .tick) with
    | none => simp [outputs_hung]
    | some next =>
        have device : next.device = (last.device.isrTimer1Compa config).1 := by
          rcases step_cases stepped with ⟨event, same, device, _⟩ | ⟨other, _⟩
          · cases same
            exact device
          · cases other
        have closed : (last.device.afterSend config).closed = true := by
          simpa [closing] using released
        refine loads_off (device ▸ quiet) (device ▸ released) ?_
        simp [device, closing, closed]
  have sends : (monitor config).outputs firmware.device (events (.event .tick :: during)) ≠ [] := by
    rw [events_event, Machine.outputs_cons, monitor_emit_tick]
    intro silent
    exact trigger_sends positive bounded unguarded triggers (List.append_eq_nil_iff.mp silent).1
  rw [Delivered, loads, commands, in_time_iff onTime late balance sends,
    Device.isrTimer1Compa_sent, Device.sent_eq_nil_iff, Device.Exhausted,
    Device.closed_beforeSend idle, Device.beforeSend_relayResetSteps, idle]
  rfl

/-- Between consecutive ticks the transmit interrupt runs at least once whenever
bytes are queued; `owed` says that it has yet to run since the last tick. -/
def Serviced (config : Config) : Bool → Option Firmware → List LineAct → Bool
  | _, _, [] => true
  | _, state, .udre :: acts => Serviced config false ((line config).step state .udre) acts
  | owed, state, .event event :: acts =>
      let next := (line config).step state (.event event)
      if event = .tick then
        !owed && Serviced config (next.any fun firmware => !firmware.transmitter.output.isEmpty)
          next acts
      else Serviced config owed next acts

/-- The firmware after the host has asked for a close at the next tick. -/
def armedFirmware : Firmware := ⟨Device.reset.pollUsbByte 1, .reset⟩

theorem commands_delivered_after_resets :
    Delivered makefileConfig armedFirmware
      (.event .tick :: ((List.replicate 3 [.udre, .event .tick]).flatten ++
        [.udre, .event (.plc (ascii '0'))]) ++ [.event .tick]) [] := by
  obtain ⟨last, reached, holds⟩ := @exists_reaches makefileConfig armedFirmware
    (.event .tick :: ((List.replicate 3 [LineAct.udre, .event .tick]).flatten ++
      [LineAct.udre, .event (.plc (ascii '0'))]))
    (fun last => last.device.active && !(last.device.isrTimer1Compa makefileConfig).1.active &&
      decide (last.transmitter.queued = [] ∧ last.device.relayResetSteps = 0 ∧
        last.device.Confirmed)) (by decide +kernel)
  simp only [Bool.and_eq_true, Bool.not_eq_true', decide_eq_true_eq] at holds
  obtain ⟨⟨closing, released⟩, exhausted⟩ := holds
  exact (commands_delivered makefileConfig (by decide) (by decide) armedFirmware last _ []
    ⟨[.event (.host 1)], rfl⟩ (by decide) (by decide) reached closing released trivial).mpr
    exhausted

/-- The last relay reset of a close that the PLC reports complete early is
loaded after the relay has been dropped. -/
theorem command_undelivered :
    ¬ ∀ firmware last during after, (line makefileConfig).Reachable (some firmware) →
      firmware.device.triggers = true → .event (.host 0) ∉ during →
      Serviced makefileConfig false (some firmware)
        (.event .tick :: during ++ [.event .tick] ++ after) = true →
      Reaches makefileConfig firmware (.event .tick :: during) last →
      last.device.active = true →
      (last.device.isrTimer1Compa makefileConfig).1.active = false →
      (monitor makefileConfig).Along NoTrigger (last.device.isrTimer1Compa makefileConfig).1
        (events after) →
      Delivered makefileConfig firmware (.event .tick :: during ++ [.event .tick]) after := by
  intro law
  obtain ⟨last, reached, holds⟩ := @exists_reaches makefileConfig armedFirmware
    [.event .tick, .udre, .event (.plc (ascii '0'))]
    (fun last => last.device.active && !(last.device.isrTimer1Compa makefileConfig).1.active)
    (by decide +kernel)
  rw [Bool.and_eq_true, Bool.not_eq_true'] at holds
  have delivered := law armedFirmware last [.udre, .event (.plc (ascii '0'))] [.udre]
    ⟨[.event (.host 1)], rfl⟩ (by decide) (by decide) (by decide +kernel) reached holds.1 holds.2
    trivial
  exact absurd delivered (by unfold Delivered; decide +kernel)

end DomeHeartbeat
