import DomeHeartbeat.Atomic.Commands

/-!
# Commands outside a close

Neither a zero byte nor the release of the relay clears the step counters, so
the sender goes on with whatever a close left behind. `Finishing` admits exactly
the steps that end a close with nothing left: along such steps an inactive
device has no steps, and any other step can be continued to a command that is
sent while the device is inactive.
-/

namespace DomeHeartbeat

open Reactive

namespace Device

/-- No step counter has anything left to send. -/
def Exhausted (device : Device) : Prop :=
  device.relayResetSteps = 0 ∧ device.closed = true

theorem sendStep_of_exhausted {config : Config} {device : Device} (exhausted : device.Exhausted) :
    device.sendStep config = (device, []) := by
  obtain ⟨relay, closed⟩ := exhausted
  rw [Device.closed, Bool.and_eq_true, beq_iff_eq, beq_iff_eq] at closed
  simp [sendStep, relay, closed]

/-- The sender is silent exactly when nothing is left. -/
theorem sent_eq_nil_iff (config : Config) (device : Device) :
    (device.sendStep config).2 = [] ↔ device.Exhausted := by
  constructor
  · intro silent
    have nothing := (Stages.send_eq_nil_iff (stages config device)).mp
      ((congrArg Prod.fst (send_stages config device)).trans silent)
    rw [stages, Stages.total, List.map_cons, List.sum_cons, Nat.add_eq_zero_iff] at nothing
    exact ⟨Counter.toNat_eq_zero.mp nothing.1, (closed_iff_stages config device).mpr nothing.2⟩
  · intro exhausted
    rw [sendStep_of_exhausted exhausted]

end Device

/-- Steps after which a device that is no longer closing has nothing left. A zero
byte must find no close to stop, and a tick that finds both shutters closed at
most the relay reset step it sends itself. -/
def Finishing (config : Config) (device : Device) : Event → Prop
  | .host value => value = 0 → device.active = false
  | .tick =>
      if device.triggers then
        config.maxShutterCloseSteps % 256 = 0 → config.hasBumperGuard = false
      else device.active = true → device.Confirmed → device.relayResetSteps ≤ 1
  | .plc _ => True

/-- A tick passes a command on only while the device is active. -/
def SendsWhileActive (config : Config) (device : Device) : Prop :=
  (device.isrTimer1Compa config).2 ≠ [] → (device.beforeSend config).active = true

/-- What holds between the steps of a run that finishes its closes. -/
structure Device.Settled (config : Config) (device : Device) : Prop where
  valid : device.CountdownValid
  unguarded : Unguarded config device
  latched : device.active = true → device.triggered = true
  closing : device.active = true → device.closed = false
  exhausted : device.active = false → device.Exhausted

theorem Device.Settled.reset (config : Config) : Device.reset.Settled config :=
  ⟨.reset, fun _ => rfl, nofun, nofun, fun _ => ⟨rfl, rfl⟩⟩

/-- An exhausted device that does not trigger reaches the sender exhausted. -/
theorem Device.Exhausted.beforeSend {config : Config} {device : Device}
    (exhausted : device.Exhausted) (quiet : device.triggers = false) :
    (device.beforeSend config).Exhausted := by
  obtain ⟨relay, closed⟩ := exhausted
  rw [Device.closed, Bool.and_eq_true, beq_iff_eq, beq_iff_eq] at closed
  refine ⟨?_, (closed_beforeSend quiet).mpr ⟨.inl closed.1, .inl closed.2⟩⟩
  rw [beforeSend_relayResetSteps, quiet]
  exact relay

/-- A closing device that the tick leaves closed has no relay resets left either. -/
theorem exhausted_of_finishing {config : Config} {device : Device}
    (unguarded : Unguarded config device) (finishing : Finishing config device .tick)
    (closing : (device.active || device.triggers) = true)
    (closed : (device.afterSend config).closed = true) : (device.afterSend config).Exhausted := by
  refine ⟨?_, closed⟩
  by_cases none : (device.beforeSend config).relayResetSteps = 0
  · rw [Device.afterSend]
    exact Device.sendStep_relayReset_of_zero none
  · rw [Device.afterSend, Device.sendStep_of_relayReset none] at closed ⊢
    have reached : (device.beforeSend config).closed = true := closed
    cases triggers : device.triggers with
    | true =>
        have bumper : config.hasBumperGuard = false := by
          simp only [Finishing, triggers, if_true] at finishing
          exact finishing ((Device.closed_beforeSend_trigger triggers).mp reached)
        refine absurd ?_ none
        simp [Device.beforeSend_relayResetSteps, bumper, unguarded bumper]
    | false =>
        simp only [Finishing, triggers, Bool.false_eq_true, if_false] at finishing
        have few := finishing (by simpa [triggers] using closing)
          ((Device.closed_beforeSend triggers).mp reached)
        simp only [Device.beforeSend_relayResetSteps, triggers, Bool.false_and,
          Bool.false_eq_true, if_false] at none ⊢
        exact Counter.pred_eq_zero.mpr ((Counter.le_one_iff.mp few).resolve_left none)

theorem Device.Settled.tick {config : Config} {device : Device} (settled : device.Settled config)
    (finishing : Finishing config device .tick) :
    (device.isrTimer1Compa config).1.Settled config := by
  refine ⟨settled.valid.step config .tick, ?_, ?_, ?_, ?_⟩
  · exact unguarded_step settled.unguarded .tick
  · intro active
    simp only [isrTimer1Compa_active, Bool.and_eq_true, Bool.or_eq_true] at active
    rcases active.1 with before | triggers
    · simp [settled.latched before]
    · simp [triggers]
  · intro active
    simp only [isrTimer1Compa_active, Bool.and_eq_true, Bool.not_eq_true'] at active
    rw [closed_isrTimer1Compa]
    exact active.2
  · intro inactive
    have same : (device.isrTimer1Compa config).1.Exhausted ↔
        (device.afterSend config).Exhausted := by
      simp [Exhausted]
    rw [same]
    cases closing : device.active || device.triggers with
    | true =>
        rw [isrTimer1Compa_active, closing, Bool.true_and, Bool.not_eq_false'] at inactive
        exact exhausted_of_finishing settled.unguarded finishing closing inactive
    | false =>
        rw [Bool.or_eq_false_iff] at closing
        have reached : (device.beforeSend config).Exhausted :=
          Exhausted.beforeSend (settled.exhausted closing.1) closing.2
        rw [afterSend, sendStep_of_exhausted reached]
        exact reached

theorem Device.Settled.step {config : Config} {device : Device} (settled : device.Settled config)
    {event : Event} (finishing : Finishing config device event) :
    ((monitor config).step device event).Settled config := by
  cases event with
  | host value =>
      have counters : ((monitor config).step device (.host value)).Exhausted ↔
          device.Exhausted := by
        simp [Exhausted, closed]
      refine ⟨settled.valid.step config _, unguarded_step settled.unguarded _, ?_, ?_, ?_⟩
      · intro active
        simp only [monitor_step_host, pollUsbByte_active, Bool.and_eq_true] at active
        simp [settled.latched active.1, active.2]
      · intro active
        simp only [monitor_step_host, pollUsbByte_active, Bool.and_eq_true] at active
        simpa [closed] using settled.closing active.1
      · intro inactive
        refine counters.mpr (settled.exhausted ?_)
        by_cases zero : value = 0
        · exact finishing zero
        · simpa [zero] using inactive
  | tick => exact settled.tick finishing
  | plc byte => exact ⟨settled.valid.step config _, settled.unguarded, settled.latched,
      settled.closing, settled.exhausted⟩

/-- A settled device sends nothing unless it is closing. -/
theorem Device.Settled.sendsWhileActive {config : Config} {device : Device}
    (settled : device.Settled config) : SendsWhileActive config device := by
  intro sent
  rw [isrTimer1Compa_sent] at sent
  rw [beforeSend_active]
  by_contra idle
  rw [Bool.not_eq_true, Bool.or_eq_false_iff] at idle
  have reached : (device.beforeSend config).Exhausted :=
    Exhausted.beforeSend (settled.exhausted idle.1) idle.2
  exact sent ((sent_eq_nil_iff config _).mpr reached)

/-- What is left in an inactive device is sent by the next tick. -/
theorem not_sendsWhileActive {config : Config} {device : Device} (inactive : device.active = false)
    (stopped : device.heartbeat = 0) (empty : device.unread = []) (left : ¬ device.Exhausted) :
    ¬ SendsWhileActive config device := by
  have quiet : device.triggers = false := by simp [Device.triggers, stopped]
  intro active
  have silent : (device.isrTimer1Compa config).2 = [] := by
    by_contra sent
    have on := active sent
    rw [Device.beforeSend_active, inactive, quiet] at on
    cases on
  rw [Device.isrTimer1Compa_sent, Device.sent_eq_nil_iff] at silent
  obtain ⟨relay, closed⟩ := silent
  rw [Device.beforeSend_relayResetSteps, quiet] at relay
  rw [Device.closed_beforeSend quiet, Device.Confirmed, empty] at closed
  refine left ⟨relay, ?_⟩
  simpa [Device.closed] using closed

/-- Enough bytes that report nothing wrap the receive buffer to empty. -/
theorem exists_wrap (config : Config) (device : Device) :
    ∃ acts input pulse led, (monitor config).run device acts =
        { device with input := input, rxLedPulse := pulse, rxLed := led } ∧
      input.contents = [] := by
  have stored : ∀ count, ∃ input : Ring UInt8 256, ∃ pulse led,
      (monitor config).run device (List.replicate count (.plc 0)) =
          { device with input := input, rxLedPulse := pulse, rxLed := led } ∧
        input.contents = Ring.latest 256 (device.unread ++ List.replicate count 0) := by
    intro count
    induction count with
    | zero =>
        refine ⟨device.input, _, _, rfl, ?_⟩
        rw [List.replicate_zero, List.append_nil, Ring.latest_of_length_lt]
        · rfl
        · rw [Device.unread, Ring.length_contents]
          exact device.input.count_lt
    | succ count ih =>
        obtain ⟨input, pulse, led, state, holds⟩ := ih
        refine ⟨input.put 0, txRxLedPulseMs, true, ?_, ?_⟩
        · rw [List.replicate_succ', Machine.run_append, state]
          rfl
        · rw [List.replicate_succ', ← List.append_assoc]
          exact input.contents_put_latest holds 0
  obtain ⟨input, pulse, led, state, holds⟩ := stored (256 - device.unread.length)
  refine ⟨_, input, pulse, led, state, ?_⟩
  have short : device.unread.length < 256 := by
    rw [Device.unread, Ring.length_contents]
    exact device.input.count_lt
  have whole : (device.unread ++ List.replicate (256 - device.unread.length) 0).length = 256 := by
    rw [List.length_append, List.length_replicate]
    omega
  rw [← List.length_eq_zero_iff, holds, Ring.length_latest, whole]

/-- A zero byte that stops a close leaves steps that can be sent. -/
theorem Device.Settled.stray_host {config : Config} {device : Device}
    (settled : device.Settled config) (active : device.active = true) :
    ∃ later, ¬ SendsWhileActive config
      ((monitor config).run device (.host 0 :: later)) := by
  obtain ⟨later, input, pulse, led, state, empty⟩ := exists_wrap config (device.pollUsbByte 0)
  refine ⟨later, ?_⟩
  rw [Machine.run_cons, monitor_step_host, state]
  refine not_sendsWhileActive (by simp) rfl empty fun exhausted => ?_
  have closed : device.closed = true := by simpa [Exhausted, Device.closed] using exhausted.2
  rw [settled.closing active] at closed
  cases closed

/-- A tick that finds the shutters closed before the relay resets are done hands
the line back with relay resets left. -/
theorem stray_tick {config : Config} {device : Device} (valid : device.CountdownValid)
    (latched : device.active = true → device.triggered = true)
    (closing : (device.active || device.triggers) = true)
    (closed : (device.beforeSend config).closed = true)
    (left : 2 ≤ (device.beforeSend config).relayResetSteps) :
    ¬ SendsWhileActive config (device.isrTimer1Compa config).1 := by
  have after : device.afterSend config = { device.beforeSend config with
      relayResetSteps := (device.beforeSend config).relayResetSteps - 1 } := by
    rw [Device.afterSend, Device.sendStep_of_relayReset (Counter.two_le_iff.mp left).1]
  have closedAfter : (device.afterSend config).closed = true := by
    rw [after]
    exact closed
  refine not_sendsWhileActive ?_ ?_ (Device.unread_isrTimer1Compa config device) fun exhausted => ?_
  · rw [Device.isrTimer1Compa_active, closing, closedAfter]
    rfl
  · rw [Device.isrTimer1Compa_heartbeat]
    rcases (Bool.or_eq_true _ _).mp closing with active | triggers
    · simp [valid.stopped (latched active), Device.countedDown]
    · simp [device.triggers_iff.mp triggers, Device.countedDown]
  · have none := exhausted.1
    rw [Device.isrTimer1Compa_relayResetSteps, after] at none
    exact (Counter.two_le_iff.mp left).2 (Counter.pred_eq_zero.mp none)

/-- Every other step can be continued to a command sent while inactive. -/
theorem Device.Settled.stray {config : Config} {device : Device} (settled : device.Settled config)
    {event : Event} (unfinished : ¬ Finishing config device event) :
    ∃ later, ¬ SendsWhileActive config ((monitor config).run device (event :: later)) := by
  cases event with
  | host value =>
      obtain ⟨rfl, active⟩ : value = 0 ∧ ¬ device.active = false := by
        simpa only [Finishing, Classical.not_imp] using unfinished
      exact settled.stray_host (Bool.not_eq_false _ ▸ active)
  | tick =>
      refine ⟨[], ?_⟩
      cases triggers : device.triggers with
      | true =>
          rw [Finishing, if_pos triggers, Classical.not_imp, Bool.not_eq_false] at unfinished
          obtain ⟨empty, bumper⟩ := unfinished
          refine stray_tick settled.valid settled.latched (by simp [triggers])
            ((closed_beforeSend_trigger triggers).mpr empty) ?_
          simp [beforeSend_relayResetSteps, triggers, bumper]
      | false =>
          rw [Finishing, if_neg (by simp [triggers]), Classical.not_imp, Classical.not_imp]
            at unfinished
          obtain ⟨active, confirmed, many⟩ := unfinished
          refine stray_tick settled.valid settled.latched (by simp [active])
            ((closed_beforeSend triggers).mpr confirmed) ?_
          simp only [beforeSend_relayResetSteps, triggers, Bool.false_and, Bool.false_eq_true,
            if_false]
          rw [Counter.le_one_iff, not_or] at many
          exact Counter.two_le_iff.mpr many
  | plc byte => exact absurd trivial unfinished

/-- Along finishing steps every command is sent while the device is active, and
whenever such a run takes another step, a command can follow that is not. -/
theorem sends_while_active (config : Config) (history : List Event)
    (finishing : (monitor config).Along (Finishing config) .reset history) :
    SendsWhileActive config ((monitor config).run .reset history) ∧
      ∀ event, ¬ Finishing config ((monitor config).run .reset history) event →
        ∃ later, ¬ SendsWhileActive config
          ((monitor config).run .reset (history ++ event :: later)) := by
  have settled : ((monitor config).run .reset history).Settled config :=
    Machine.run_induction (fun device event settled finishing => settled.step finishing)
      (Device.Settled.reset config) finishing
  refine ⟨settled.sendsWhileActive, fun event unfinished => ?_⟩
  obtain ⟨later, stray⟩ := settled.stray unfinished
  exact ⟨later, by rwa [Machine.run_append]⟩

theorem sends_while_active_at_first_tick :
    SendsWhileActive makefileConfig ((monitor makefileConfig).run .reset [.host 1, .tick]) :=
  (sends_while_active makefileConfig [.host 1, .tick] ⟨nofun, nofun, trivial⟩).1

/-- After a zero byte has stopped the close, the relay resets go on. -/
theorem command_after_disable :
    ¬ ∀ device, (monitor makefileConfig).Reachable device →
      SendsWhileActive makefileConfig device := by
  intro law
  have active := law ((monitor makefileConfig).run .reset [.host 1, .tick, .host 0]) ⟨_, rfl⟩
  have sent : (((monitor makefileConfig).run .reset [.host 1, .tick, .host 0]).isrTimer1Compa
      makefileConfig).2 = [ascii 'R'] := by decide +kernel
  have inactive : (((monitor makefileConfig).run .reset [.host 1, .tick, .host 0]).beforeSend
      makefileConfig).active = false := by decide +kernel
  rw [SendsWhileActive, sent, inactive] at active
  exact absurd (active (List.cons_ne_nil _ _)) Bool.false_ne_true

end DomeHeartbeat
