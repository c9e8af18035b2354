import DomeHeartbeat.Reactive.Stages
import DomeHeartbeat.Atomic.DeadMan

/-!
# The commands of a close cycle

`stages` views the three step counters as a `Stages` plan: relay resets, then
the shutter closed first, then the other. Until the next trigger every tick is
one tick of the plan, cancelling what the drained bytes report closed.
-/

namespace DomeHeartbeat

open Reactive

/-- The letter of the shutter that is closed first. -/
def firstShutter (config : Config) : UInt8 := if config.closeBFirst then ascii 'B' else ascii 'A'

/-- The letter of the shutter that is closed second. -/
def secondShutter (config : Config) : UInt8 := if config.closeBFirst then ascii 'A' else ascii 'B'

/-- Relay reset steps of one cycle. -/
def relayResets (config : Config) : Nat := if config.hasBumperGuard then 4 else 0

/-- The PLC bytes that report the shutter with this letter closed. -/
def closes (shutter byte : UInt8) : Bool :=
  if shutter = ascii 'A' then closesA byte
  else if shutter = ascii 'B' then closesB byte
  else false

/-- Close steps left for each shutter, in closing order. -/
def shutterStages (config : Config) (device : Device) : List (UInt8 × Nat) :=
  if config.closeBFirst then
    [(ascii 'B', device.shutterBCloseSteps.toNat), (ascii 'A', device.shutterACloseSteps.toNat)]
  else
    [(ascii 'A', device.shutterACloseSteps.toNat), (ascii 'B', device.shutterBCloseSteps.toNat)]

/-- The step counters as a plan. -/
def stages (config : Config) (device : Device) : List (UInt8 × Nat) :=
  (ascii 'R', device.relayResetSteps.toNat) :: shutterStages config device

/-- The labels the drain of a tick cancels. -/
def confirmed (bytes : List UInt8) (label : UInt8) : Bool := bytes.any (closes label)

/-- The plan a trigger loads. -/
def fullPlan (config : Config) : List (UInt8 × Nat) :=
  [(ascii 'R', relayResets config), (firstShutter config, config.maxShutterCloseSteps),
    (secondShutter config, config.maxShutterCloseSteps)]

theorem steps_cases (steps : UInt8) :
    steps = 0 ∨ ∃ left, 0 < steps ∧ steps.toNat = left + 1 ∧ (steps - 1).toNat = left := by
  by_cases zero : steps = 0
  · exact .inl zero
  · have nonzero : steps.toNat ≠ 0 := mt Counter.toNat_eq_zero.mp zero
    exact .inr ⟨steps.toNat - 1, UInt8.pos_iff_ne_zero.mpr zero, by omega, Counter.toNat_pred zero⟩

/-- The step sender sends from the plan. -/
theorem send_stages (config : Config) (device : Device) :
    Stages.send (stages config device) =
      ((device.sendStep config).2, stages config (device.sendStep config).1) := by
  rcases steps_cases device.relayResetSteps with relay | ⟨left, positive, steps, less⟩
  · cases order : config.closeBFirst <;>
      rcases steps_cases device.shutterACloseSteps with
        closedA | ⟨leftA, positiveA, stepsA, lessA⟩ <;>
      rcases steps_cases device.shutterBCloseSteps with
        closedB | ⟨leftB, positiveB, stepsB, lessB⟩ <;>
      simp [stages, shutterStages, Device.sendStep, Stages.send, *]
  · simp [stages, shutterStages, Device.sendStep, Stages.send, *]

theorem closed_iff_stages (config : Config) (device : Device) :
    device.closed = true ↔ Stages.total (shutterStages config device) = 0 := by
  have zero : ∀ steps : UInt8, steps = 0 ↔ steps.toNat = 0 := fun _ => Counter.toNat_eq_zero.symm
  cases order : config.closeBFirst <;>
    simp [Device.closed, shutterStages, Stages.total, order, zero, and_comm]

/-- A tick that does not trigger cancels what the drained bytes report. -/
theorem stages_beforeSend {config : Config} {device : Device} (quiet : device.triggers = false) :
    stages config (device.beforeSend config) =
      Stages.cancel (confirmed device.unread) (stages config device) := by
  have relay : confirmed device.unread (ascii 'R') = false :=
    List.any_eq_false.mpr fun byte _ => Bool.false_ne_true
  have shutterA : confirmed device.unread (ascii 'A') = device.unread.any closesA := rfl
  have shutterB : confirmed device.unread (ascii 'B') = device.unread.any closesB := rfl
  cases order : config.closeBFirst <;>
    simp only [stages, shutterStages, Stages.cancel, order, Device.beforeSend_relayResetSteps,
      Device.beforeSend_shutterACloseSteps, Device.beforeSend_shutterBCloseSteps, quiet, relay,
      shutterA, shutterB, List.map_cons, List.map_nil, Bool.false_and, Bool.false_eq_true, if_false,
      if_true, apply_ite UInt8.toNat, UInt8.toNat_zero]

/-- A trigger loads the full plan, whatever was left of an earlier one. -/
theorem stages_trigger {config : Config} {device : Device} (triggers : device.triggers = true)
    (bounded : config.maxShutterCloseSteps ≤ 255)
    (unguarded : config.hasBumperGuard = false → device.relayResetSteps = 0) :
    stages config (device.beforeSend config) = fullPlan config := by
  have loaded : (UInt8.ofNat config.maxShutterCloseSteps).toNat = config.maxShutterCloseSteps := by
    rw [UInt8.toNat_ofNat']
    omega
  have relay : (device.beforeSend config).relayResetSteps.toNat = relayResets config := by
    cases guarded : config.hasBumperGuard with
    | true => simp [Device.beforeSend_relayResetSteps, triggers, guarded, relayResets]
    | false => simp [Device.beforeSend_relayResetSteps, guarded, relayResets, unguarded guarded]
  cases order : config.closeBFirst <;>
    simp [stages, shutterStages, fullPlan, firstShutter, secondShutter, order, relay, triggers,
      Device.beforeSend_shutterACloseSteps, Device.beforeSend_shutterBCloseSteps, loaded]

/-- Without a bumper guard no relay reset step is ever left. -/
def Unguarded (config : Config) (device : Device) : Prop :=
  config.hasBumperGuard = false → device.relayResetSteps = 0

theorem unguarded_step {config : Config} {device : Device} (holds : Unguarded config device)
    (event : Event) : Unguarded config ((monitor config).step device event) := by
  intro unguarded
  have before := holds unguarded
  cases event with
  | host value => simpa using before
  | tick =>
      have loaded : (device.beforeSend config).relayResetSteps = 0 := by
        simp [Device.beforeSend_relayResetSteps, unguarded, before]
      rw [monitor_step_tick, Device.isrTimer1Compa_relayResetSteps, Device.afterSend]
      exact Device.sendStep_relayReset_of_zero loaded
  | plc byte => exact before

theorem unguarded_of_reachable {config : Config} {device : Device}
    (reachable : (monitor config).Reachable device) : Unguarded config device :=
  reachable.induction (fun _ => rfl) fun _ event holds => unguarded_step holds event

theorem stages_isrTimer1Compa (config : Config) (device : Device) :
    stages config (device.isrTimer1Compa config).1 = stages config (device.afterSend config) := by
  simp [stages, shutterStages]

/-- One tick sends from the plan as it stands when the step sender is reached. -/
theorem send_beforeSend (config : Config) (device : Device) :
    Stages.send (stages config (device.beforeSend config)) =
      ((device.isrTimer1Compa config).2, stages config (device.isrTimer1Compa config).1) := by
  rw [send_stages, stages_isrTimer1Compa, Device.isrTimer1Compa_sent, Device.afterSend]

/-- Until the next trigger the monitor runs the plan in its counters. -/
def planSimulation (config : Config) :
    Simulation (monitor config) (Stages.machine (fullPlan config)) where
  invariant _ := True
  guard := NoTrigger
  view := stages config
  label device event :=
    match event with
    | .tick => some (confirmed device.unread)
    | _ => none
  preserved _ _ _ _ := trivial
  step device event _ quiet := by
    cases event with
    | host value => simp [stages, shutterStages]
    | tick =>
        have sent := send_beforeSend config device
        rw [stages_beforeSend (quiet rfl)] at sent
        exact (congrArg Prod.snd sent).symm
    | plc byte => rfl

theorem planSimulation_emits (config : Config) (device : Device) (event : Event)
    (quiet : NoTrigger device event) :
    (monitor config).emit device event =
      ((planSimulation config).label device event).elim []
        ((Stages.machine (fullPlan config)).emit (stages config device)) := by
  cases event with
  | host value => rfl
  | tick =>
      have sent := send_beforeSend config device
      rw [stages_beforeSend (quiet rfl)] at sent
      rw [monitor_emit_tick]
      exact (congrArg Prod.fst sent).symm
  | plc byte => rfl

/-- A drained byte passes a test at one of the ticks of a run. -/
def DrainedIn (config : Config) (device : Device) (acts : List Event) (test : UInt8 → Bool) :
    Prop :=
  ∃ earlier later, acts = earlier ++ .tick :: later ∧
    ((monitor config).run device earlier).unread.any test = true

theorem drainedIn_of_mem_trace {config : Config} {device : Device} {acts : List Event}
    {cancelled : UInt8 → Bool} (member : cancelled ∈ (planSimulation config).trace device acts)
    {label : UInt8} (cancels : cancelled label = true) :
    DrainedIn config device acts (closes label) := by
  obtain ⟨earlier, event, later, rfl, labelled⟩ := (planSimulation config).mem_trace member
  cases event with
  | host value => cases labelled
  | tick =>
      cases labelled
      exact ⟨earlier, later, rfl, cancels⟩
  | plc byte => cases labelled

/-- The plan's view of a cycle: a tick that cancels nothing loads and starts it,
and the ticks up to the next trigger carry it on. -/
def cycleActs (config : Config) (device : Device) (rest : List Event) :
    List (UInt8 → Bool) :=
  (fun _ => false) :: (planSimulation config).trace ((monitor config).step device .tick) rest

section Cycle

variable {config : Config} {device : Device} {rest : List Event}
  (bounded : config.maxShutterCloseSteps ≤ 255) (unguarded : Unguarded config device)
  (triggers : device.triggers = true)
  (quiet : (monitor config).Along NoTrigger ((monitor config).step device .tick) rest)

include bounded unguarded triggers

theorem send_fullPlan :
    Stages.send (Stages.cancel (fun _ => false) (fullPlan config)) =
      ((device.isrTimer1Compa config).2, stages config (device.isrTimer1Compa config).1) := by
  rw [Stages.cancel_none, ← stages_trigger triggers bounded unguarded, send_beforeSend]

include quiet

theorem cycle_outputs :
    (monitor config).outputs device (.tick :: rest) =
      (Stages.machine (fullPlan config)).outputs (fullPlan config)
        (cycleActs config device rest) := by
  have sent := send_fullPlan bounded unguarded triggers
  have later := (planSimulation config).outputs_run
    (fun device event _ => planSimulation_emits config device event) trivial quiet
  rw [Machine.outputs_cons, later, monitor_emit_tick, cycleActs, Machine.outputs_cons]
  change _ = (Stages.send _).1 ++ (Stages.machine _).outputs (Stages.send _).2 _
  rw [sent]
  rfl

theorem cycle_stages :
    stages config ((monitor config).run device (.tick :: rest)) =
      (Stages.machine (fullPlan config)).run (fullPlan config)
        (cycleActs config device rest) := by
  have sent := send_fullPlan bounded unguarded triggers
  have later := (planSimulation config).view_run trivial quiet
  rw [Machine.run_cons, cycleActs, Machine.run_cons]
  change _ = (Stages.machine _).run (Stages.send _).2 _
  rw [sent]
  exact later

end Cycle

end DomeHeartbeat
