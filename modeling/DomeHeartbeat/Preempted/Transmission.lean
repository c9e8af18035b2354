import DomeHeartbeat.Atomic.TransmitBudget
import DomeHeartbeat.Preempted.CommandBudget

/-!
# The serial line under preemption

`preemptedLine` adds the transmitter and its interrupt to the statements and
interrupts of the preempted program. The statements of `poll_usb` touch neither
the step counters nor the transmit buffer, so the account of `WithinBudget`
carries over from the atomic handlers to every interleaving
(`never_waits_preempted`).
-/

namespace DomeHeartbeat

open Reactive

/-- A point of the program together with the transmitter. -/
structure FirmwarePoint where
  point : Point Pc Device
  transmitter : Transmitter

/-- A step of the program or a run of the transmit interrupt. -/
inductive LineStep where
  | program (act : Interleaved UsbAnswer Irq)
  | udre
deriving DecidableEq, Repr

namespace FirmwarePoint

def reset : FirmwarePoint := ⟨⟨.outside, .reset⟩, .reset⟩

/-- The device and the transmitter without the statement. -/
def firmware (state : FirmwarePoint) : Firmware := ⟨state.point.shared, state.transmitter⟩

/-- One step, or nothing when `serial_write` waits inside the timer interrupt. -/
def step (config : Config) (state : FirmwarePoint) : LineStep → Option FirmwarePoint
  | .program act => do
      let transmitter ←
        ((commanded config).emit state.point act).foldlM Transmitter.serialWrite state.transmitter
      return ⟨(interleaved config).step state.point act, transmitter⟩
  | .udre => some { state with transmitter := state.transmitter.isrUsart1Udre.1 }

end FirmwarePoint

/-- Every interleaving of the program with the transmit interrupt; the outputs
are the bytes loaded into UDR1, and `none` is a device that hangs. -/
def preemptedLine (config : Config) : Machine (Option FirmwarePoint) LineStep UInt8 where
  initial := some .reset
  step state act := state.bind fun state => state.step config act
  emit
    | some state, .udre => state.transmitter.isrUsart1Udre.2
    | _, _ => []

/-- The steps of the program among those of a run. -/
def programActs (acts : List LineStep) : List (Interleaved UsbAnswer Irq) :=
  acts.filterMap fun
    | .program act => some act
    | .udre => none

@[simp] theorem programActs_program (act : Interleaved UsbAnswer Irq) (acts : List LineStep) :
    programActs (.program act :: acts) = act :: programActs acts := rfl

@[simp] theorem programActs_udre (acts : List LineStep) :
    programActs (.udre :: acts) = programActs acts := rfl

/-- The transmit buffer is empty when a timer interrupt triggers. -/
def EmptyAtTriggers (state : Option FirmwarePoint) (act : LineStep) : Prop :=
  ∀ point ∈ state, act = .program (.interrupt .timer) → point.point.shared.triggers = true →
    point.transmitter.output.isEmpty = true

instance EmptyAtTriggers.decidable (state : Option FirmwarePoint) (act : LineStep) :
    Decidable (EmptyAtTriggers state act) :=
  inferInstanceAs (Decidable (∀ point ∈ state, _ → _ → _))

section Steps

variable {config : Config} {state : FirmwarePoint}

/-- An interrupt steps the firmware as its event does. -/
theorem step_interrupt (config : Config) (state : FirmwarePoint) (irq : Irq) :
    state.step config (.program (.interrupt irq)) =
      (state.firmware.step config (.event irq.event)).map fun next =>
        ⟨⟨state.point.pc, next.device⟩, next.transmitter⟩ := by
  cases irq with
  | plc byte => rfl
  | timer =>
      simp only [FirmwarePoint.step, Firmware.step, Irq.event, commanded_emit_timer,
        monitor_emit_tick, Option.bind_eq_bind, Option.map_bind]
      rfl

/-- A step of the program that returns leads where the program does and queues
the commands it passes on. -/
theorem step_program {act : Interleaved UsbAnswer Irq} {next : FirmwarePoint}
    (stepped : state.step config (.program act) = some next) :
    next.point = (interleaved config).step state.point act ∧
      next.transmitter.queued =
        state.transmitter.queued ++ (commanded config).emit state.point act := by
  cases act with
  | foreground answer =>
      cases stepped
      exact ⟨rfl, (List.append_nil _).symm⟩
  | interrupt irq =>
      rw [step_interrupt, Option.map_eq_some_iff] at stepped
      obtain ⟨firmware, returns, rfl⟩ := stepped
      rcases step_cases returns with ⟨event, same, device, queued⟩ | ⟨other, _⟩
      · cases same
        cases irq with
        | timer =>
            rw [commanded_emit_timer, ← monitor_emit_tick]
            exact ⟨congrArg (Point.mk state.point.pc) device, queued⟩
        | plc byte => exact ⟨congrArg (Point.mk state.point.pc) device, queued⟩
      · cases other

/-- No step of an interleaving that drains before its triggers waits, and it
keeps the budget. -/
theorem WithinBudget.step_point (budget : WithinBudget config state.firmware)
    (fits : relayResets config + 2 * config.maxShutterCloseSteps ≤ 255)
    (unguarded : Unguarded config state.point.shared) {act : LineStep}
    (empty : EmptyAtTriggers (some state) act) :
    ∃ next, state.step config act = some next ∧ WithinBudget config next.firmware ∧
      Unguarded config next.point.shared := by
  cases act with
  | program act =>
      have guarded := unguarded_step_point unguarded act
      cases act with
      | foreground answer =>
          refine ⟨_, rfl, ?_, guarded⟩
          change state.transmitter.queued.length +
            Stages.total
              (stages config (state.point.shared.pollUsbStatement state.point.pc answer).2) ≤ _
          rw [stages_statement]
          exact budget
      | interrupt irq =>
          have drained : DrainedAtTriggers (some state.firmware) (.event irq.event) := by
            intro firmware same tick triggers
            cases same
            cases irq with
            | timer => exact empty state rfl rfl triggers
            | plc byte => cases tick
          obtain ⟨next, returns, kept⟩ := budget.step fits unguarded drained
          have stepped : state.step config (.program (.interrupt irq)) =
              some ⟨⟨state.point.pc, next.device⟩, next.transmitter⟩ := by
            rw [step_interrupt, returns]
            rfl
          refine ⟨_, stepped, kept, ?_⟩
          rwa [← (step_program stepped).1] at guarded
  | udre =>
      have drained : DrainedAtTriggers (some state.firmware) .udre := fun _ _ tick => nomatch tick
      obtain ⟨next, returns, kept⟩ := budget.step fits unguarded drained
      cases returns
      exact ⟨_, rfl, kept, unguarded⟩

/-- A run that drains before its triggers returns from every call of
`serial_write` and keeps the order of the commands. -/
theorem WithinBudget.run_point {acts : List LineStep} (budget : WithinBudget config state.firmware)
    (fits : relayResets config + 2 * config.maxShutterCloseSteps ≤ 255)
    (unguarded : Unguarded config state.point.shared)
    (empty : (preemptedLine config).Along EmptyAtTriggers (some state) acts) :
    ∃ last, (preemptedLine config).run (some state) acts = some last ∧
      last.point = (interleaved config).run state.point (programActs acts) ∧
      (preemptedLine config).outputs (some state) acts ++ last.transmitter.queued =
        state.transmitter.queued ++
          (commanded config).outputs state.point (programActs acts) := by
  induction acts generalizing state with
  | nil => exact ⟨state, rfl, rfl, (List.append_nil _).symm⟩
  | cons act acts ih =>
      obtain ⟨next, stepped, kept, still⟩ := budget.step_point fits unguarded empty.1
      have onward : (preemptedLine config).step (some state) act = some next := stepped
      have later := empty.2
      rw [onward] at later
      obtain ⟨last, reached, point, balance⟩ := ih kept still later
      refine ⟨last, ?_, ?_, ?_⟩
      · rwa [Machine.run_cons, onward]
      · cases act with
        | program act => rw [point, (step_program stepped).1, programActs_program, Machine.run_cons]
        | udre =>
            cases stepped
            exact point
      · rw [Machine.outputs_cons, onward, List.append_assoc, balance]
        cases act with
        | program act =>
            obtain ⟨moved, queued⟩ := step_program stepped
            rw [moved, queued, programActs_program, Machine.outputs_cons, List.append_assoc]
            rfl
        | udre =>
            cases stepped
            rw [programActs_udre, ← state.transmitter.queued_isrUsart1Udre, List.append_assoc]
            rfl

end Steps

/-- However `poll_usb` is preempted, a run whose triggers find the transmit
buffer empty hangs nowhere; the program is where it would be without the
transmitter, and the bytes loaded into UDR1 and those still queued are the
commands of the program, in order. -/
theorem never_waits_preempted (config : Config)
    (fits : relayResets config + 2 * config.maxShutterCloseSteps ≤ 255) (acts : List LineStep)
    (empty : (preemptedLine config).Along EmptyAtTriggers (preemptedLine config).initial acts) :
    ∃ last, (preemptedLine config).run (preemptedLine config).initial acts = some last ∧
      last.point = pointAfter config (programActs acts) ∧
      (preemptedLine config).outputs (preemptedLine config).initial acts ++
          last.transmitter.queued =
        (commanded config).outputs (commanded config).initial (programActs acts) := by
  have start : WithinBudget config FirmwarePoint.reset.firmware := withinBudget_reset config
  have none : FirmwarePoint.reset.transmitter.queued = [] := Transmitter.queued_reset
  obtain ⟨last, reached, point, balance⟩ := start.run_point fits (fun _ => rfl) empty
  rw [none, List.nil_append] at balance
  exact ⟨last, reached, point, balance⟩

/-- A timeout of 1 runs out; its first command is queued and loaded. -/
def firstCommandLoaded : List LineStep :=
  oneTimeout.map .program ++ [LineStep.udre]

theorem never_waits_firstCommandLoaded :
    ∃ last, (preemptedLine makefileConfig).run (preemptedLine makefileConfig).initial
        firstCommandLoaded = some last ∧
      last.point = pointAfter makefileConfig (programActs firstCommandLoaded) ∧
      (preemptedLine makefileConfig).outputs (preemptedLine makefileConfig).initial
          firstCommandLoaded ++ last.transmitter.queued =
        (commanded makefileConfig).outputs (commanded makefileConfig).initial
          (programActs firstCommandLoaded) :=
  never_waits_preempted makefileConfig (by decide) firstCommandLoaded (by decide +kernel)

end DomeHeartbeat
