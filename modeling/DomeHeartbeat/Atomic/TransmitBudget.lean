import DomeHeartbeat.Atomic.CloseCycle
import DomeHeartbeat.Atomic.Transmission

/-!
# Room in the transmit buffer

Nothing empties the transmit buffer while the timer interrupt runs, so a call of
`serial_write` on a full buffer would never return. The bytes queued and the
steps still to be sent are together never more than one cycle has, provided that
every cycle starts with an empty buffer; `never_waits` draws the conclusion.
-/

namespace DomeHeartbeat

open Reactive

/-- The bytes still queued and the steps still to be sent are those of one cycle. -/
def WithinBudget (config : Config) (firmware : Firmware) : Prop :=
  firmware.transmitter.queued.length + Stages.total (stages config firmware.device) ≤
    Stages.total (fullPlan config)

/-- The transmit buffer is empty when a tick triggers. -/
def DrainedAtTriggers (state : Option Firmware) (act : LineAct) : Prop :=
  ∀ firmware ∈ state, act = .event .tick → firmware.device.triggers = true →
    firmware.transmitter.output.isEmpty = true

instance DrainedAtTriggers.decidable (state : Option Firmware) (act : LineAct) :
    Decidable (DrainedAtTriggers state act) :=
  inferInstanceAs (Decidable (∀ firmware ∈ state, _ → _ → _))

section Budget

variable {config : Config} {firmware : Firmware}

theorem withinBudget_reset (config : Config) : WithinBudget config .reset := by
  have none : Firmware.reset.transmitter.queued = [] := Transmitter.queued_reset
  have nothing : Stages.total (stages config Firmware.reset.device) = 0 := by
    cases order : config.closeBFirst <;>
      simp [stages, shutterStages, Stages.total, Firmware.reset, Device.reset, order]
  rw [WithinBudget, none, nothing]
  exact Nat.zero_le _

/-- What a tick sends comes out of the budget of its cycle. -/
theorem WithinBudget.sent (budget : WithinBudget config firmware)
    (bounded : config.maxShutterCloseSteps ≤ 255) (unguarded : Unguarded config firmware.device)
    (drained : DrainedAtTriggers (some firmware) (.event .tick)) :
    firmware.transmitter.queued.length + (firmware.device.isrTimer1Compa config).2.length +
        Stages.total (stages config (firmware.device.isrTimer1Compa config).1) ≤
      Stages.total (fullPlan config) := by
  have sent := Stages.total_send (stages config (firmware.device.beforeSend config))
  rw [send_beforeSend] at sent
  dsimp only at sent
  cases triggers : firmware.device.triggers with
  | true =>
      have empty : firmware.transmitter.queued = [] :=
        (Ring.isEmpty_iff_contents _).mp (drained firmware rfl rfl triggers)
      rw [stages_trigger triggers bounded unguarded] at sent
      rw [empty, List.length_nil]
      omega
  | false =>
      have cut := Stages.total_cancel_le (confirmed firmware.device.unread)
        (stages config firmware.device)
      rw [stages_beforeSend triggers] at sent
      rw [WithinBudget] at budget
      omega

/-- A tick that has a byte to send finds room for it. -/
theorem WithinBudget.room (budget : WithinBudget config firmware)
    (fits : relayResets config + 2 * config.maxShutterCloseSteps ≤ 255)
    (unguarded : Unguarded config firmware.device)
    (drained : DrainedAtTriggers (some firmware) (.event .tick))
    (sends : (firmware.device.isrTimer1Compa config).2 ≠ []) :
    firmware.transmitter.output.isFull = false := by
  have balance := budget.sent (by omega) unguarded drained
  have some_ := List.length_pos_iff.mpr sends
  rw [total_fullPlan, Transmitter.queued, Ring.length_contents] at balance
  refine Bool.eq_false_iff.mpr (mt (Ring.isFull_iff_count _).mp ?_)
  omega

/-- A step with at most one byte to write returns if there is room for it. -/
theorem step_of_room {event : Event}
    (short : ((monitor config).emit firmware.device event).length ≤ 1)
    (room : (monitor config).emit firmware.device event ≠ [] →
      firmware.transmitter.output.isFull = false) :
    ∃ next, firmware.step config (.event event) = some next := by
  rw [Firmware.step]
  rcases sent : (monitor config).emit firmware.device event with _ | ⟨byte, rest⟩
  · exact ⟨_, rfl⟩
  · rw [sent] at short room
    obtain rfl : rest = [] := List.eq_nil_of_length_eq_zero (by simpa using short)
    rw [List.foldlM_cons, Transmitter.serialWrite_of_room (room (by simp))]
    exact ⟨_, rfl⟩

theorem length_emit_le (config : Config) (device : Device) (event : Event) :
    ((monitor config).emit device event).length ≤ 1 := by
  cases event with
  | tick =>
      rw [monitor_emit_tick]
      exact length_sent_le config device
  | host value => exact Nat.zero_le 1
  | plc byte => exact Nat.zero_le 1

/-- No step of a run that drains before its triggers waits, and it keeps the budget. -/
theorem WithinBudget.step (budget : WithinBudget config firmware)
    (fits : relayResets config + 2 * config.maxShutterCloseSteps ≤ 255)
    (unguarded : Unguarded config firmware.device) {act : LineAct}
    (drained : DrainedAtTriggers (some firmware) act) :
    ∃ next, firmware.step config act = some next ∧ WithinBudget config next := by
  cases act with
  | event event =>
      have returns : ∃ next, firmware.step config (.event event) = some next := by
        refine step_of_room (length_emit_le config _ event) fun sends => ?_
        cases event with
        | tick =>
            rw [monitor_emit_tick] at sends
            exact budget.room fits unguarded drained sends
        | host value => exact absurd rfl sends
        | plc byte => exact absurd rfl sends
      obtain ⟨next, stepped⟩ := returns
      refine ⟨next, stepped, ?_⟩
      rcases step_cases stepped with ⟨_, same, device, queued⟩ | ⟨other, _⟩
      · cases same
        rw [WithinBudget, device, queued, List.length_append]
        cases event with
        | tick =>
            rw [monitor_emit_tick, monitor_step_tick]
            exact budget.sent (by omega) unguarded drained
        | host value =>
            rw [monitor_emit_host, List.length_nil, Nat.add_zero]
            simpa [WithinBudget, stages, shutterStages] using budget
        | plc byte => exact budget
      · cases other
  | udre =>
      refine ⟨_, rfl, ?_⟩
      have fewer : firmware.transmitter.isrUsart1Udre.1.queued.length ≤
          firmware.transmitter.queued.length := by
        rw [firmware.transmitter.isrUsart1Udre_eq.2.1, List.length_tail]
        exact Nat.sub_le _ _
      rw [WithinBudget] at budget ⊢
      exact Nat.le_trans (Nat.add_le_add_right fewer _) budget

theorem WithinBudget.run {acts : List LineAct} (budget : WithinBudget config firmware)
    (fits : relayResets config + 2 * config.maxShutterCloseSteps ≤ 255)
    (unguarded : Unguarded config firmware.device)
    (drained : (line config).Along DrainedAtTriggers (some firmware) acts) :
    ∃ last, Reaches config firmware acts last ∧ WithinBudget config last ∧
      Unguarded config last.device := by
  induction acts generalizing firmware with
  | nil => exact ⟨firmware, rfl, budget, unguarded⟩
  | cons act acts ih =>
      obtain ⟨now, later⟩ := drained
      obtain ⟨next, stepped, kept⟩ := budget.step fits unguarded now
      have still : Unguarded config next.device := by
        rcases step_cases stepped with ⟨event, _, device, _⟩ | ⟨_, device, _⟩
        · rw [device]
          exact unguarded_step unguarded event
        · rw [device]
          exact unguarded
      have onward : (line config).step (some firmware) act = some next := stepped
      rw [onward] at later
      obtain ⟨last, reached, rest⟩ := ih kept still later
      exact ⟨last, reaches_cons.mpr ⟨next, stepped, reached⟩, rest⟩

end Budget

/-- Along every run whose triggers find the transmit buffer empty, however the
transmit interrupt is serviced, no call of `serial_write` finds the buffer full,
so no tick of the run hangs. -/
theorem never_waits (config : Config)
    (fits : relayResets config + 2 * config.maxShutterCloseSteps ≤ 255) (acts : List LineAct)
    (drained : (line config).Along DrainedAtTriggers (some .reset) acts) :
    (∃ last, Reaches config .reset acts last) ∧
      ∀ earlier later, acts = earlier ++ .event .tick :: later →
        ∃ firmware, Reaches config .reset earlier firmware ∧
          (firmware.device.isrTimer1Compa config).2.length ≤ 1 ∧
          ((firmware.device.isrTimer1Compa config).2 ≠ [] →
            firmware.transmitter.output.isFull = false) := by
  have start := withinBudget_reset config
  constructor
  · obtain ⟨last, reached, _⟩ := start.run fits (fun _ => rfl) drained
    exact ⟨last, reached⟩
  · rintro earlier later rfl
    obtain ⟨before, now, _⟩ := (Machine.along_append _ _ _ _ _).mp drained
    obtain ⟨firmware, reached, budget, unguarded⟩ := start.run fits (fun _ => rfl) before
    have state : (line config).run (some .reset) earlier = some firmware := reached
    rw [state] at now
    exact ⟨firmware, reached, length_sent_le config firmware.device,
      budget.room fits unguarded now⟩

theorem never_waits_at_first_trigger :
    ∃ last, Reaches makefileConfig .reset [.event (.host 1), .event .tick, .event .tick] last :=
  (never_waits makefileConfig (by decide) [.event (.host 1), .event .tick, .event .tick]
    (by decide +kernel)).1

end DomeHeartbeat
