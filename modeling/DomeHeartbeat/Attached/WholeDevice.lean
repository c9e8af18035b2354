import DomeHeartbeat.Attached.HostBytes
import DomeHeartbeat.Preempted.Transmission

/-!
# From the packets of the host to the serial line

`wholeDevice` puts the USB port, the program with its interrupts and the
transmitter together. As long as each trigger finds the transmit buffer empty no
`serial_write` waits, and the bytes loaded into UDR1 are the commands of the
atomic monitor for the bytes of the packets and the interrupts
(`packets_to_line`).
-/

namespace DomeHeartbeat

open Reactive

/-- The program with its port, and the transmitter. -/
structure BoardPoint where
  program : AttachedPoint
  transmitter : Transmitter

/-- An action of the program or the host, or a run of the transmit interrupt. -/
inductive BoardAct where
  | program (act : AttachedAct)
  | udre
deriving DecidableEq, Repr

namespace BoardPoint

def reset : BoardPoint := ⟨.reset, .reset⟩

/-- The program and the transmitter without the port. -/
def line (state : BoardPoint) : FirmwarePoint := ⟨state.program.point, state.transmitter⟩

/-- The bytes an action passes to `serial_write`. -/
def commands (config : Config) (state : BoardPoint) (act : AttachedAct) : List UInt8 :=
  (state.program.programAct act).elim [] ((commanded config).emit state.program.point)

/-- One action, or nothing when `serial_write` waits inside the timer interrupt. -/
def step (config : Config) (state : BoardPoint) : BoardAct → Option BoardPoint
  | .program act => do
      let transmitter ←
        (state.commands config act).foldlM Transmitter.serialWrite state.transmitter
      return ⟨(attached config).step state.program act, transmitter⟩
  | .udre => some { state with transmitter := state.transmitter.isrUsart1Udre.1 }

end BoardPoint

/-- Every interleaving of the program with all interrupts and the host; the outputs
are the bytes loaded into UDR1, and `none` is a device that hangs. -/
def wholeDevice (config : Config) : Machine (Option BoardPoint) BoardAct UInt8 where
  initial := some .reset
  step state act := state.bind fun state => state.step config act
  emit
    | some state, .udre => state.transmitter.isrUsart1Udre.2
    | _, _ => []

/-- The actions of the program and the host among those of a run. -/
def attachedActs (acts : List BoardAct) : List AttachedAct :=
  acts.filterMap fun
    | .program act => some act
    | .udre => none

@[simp] theorem attachedActs_program (act : AttachedAct) (acts : List BoardAct) :
    attachedActs (.program act :: acts) = act :: attachedActs acts := rfl

@[simp] theorem attachedActs_udre (acts : List BoardAct) :
    attachedActs (.udre :: acts) = attachedActs acts := rfl

/-- The transmit buffer is empty when a timer interrupt triggers. -/
def DrainsBeforeTriggers (state : Option BoardPoint) (act : BoardAct) : Prop :=
  ∀ point ∈ state, act = .program (.interrupt .timer) →
    point.program.point.shared.triggers = true → point.transmitter.output.isEmpty = true

instance DrainsBeforeTriggers.decidable (state : Option BoardPoint) (act : BoardAct) :
    Decidable (DrainsBeforeTriggers state act) :=
  inferInstanceAs (Decidable (∀ point ∈ state, _ → _ → _))

/-- What every drained run keeps: the buffer has room for all that is to come. -/
structure HasRoom (config : Config) (state : BoardPoint) : Prop where
  budget : WithinBudget config state.line.firmware
  unguarded : Unguarded config state.program.point.shared

section Steps

variable {config : Config} {state : BoardPoint}

/-- An action steps the line as the step of the program it finishes does. -/
theorem step_board (config : Config) (state : BoardPoint) (act : AttachedAct) :
    state.step config (.program act) =
      ((state.program.programAct act).elim (some state.line) fun act =>
        state.line.step config (.program act)).map fun next =>
          ⟨(attached config).step state.program act, next.transmitter⟩ := by
  cases finished : state.program.programAct act with
  | none => simp [BoardPoint.step, BoardPoint.commands, finished, BoardPoint.line]
  | some act =>
      simp only [BoardPoint.step, BoardPoint.commands, finished, FirmwarePoint.step,
        Option.elim_some, Option.bind_eq_bind, Option.map_bind]
      rfl

/-- No action of a drained run waits; it queues its commands behind the others. -/
theorem HasRoom.program (room : HasRoom config state)
    (fits : relayResets config + 2 * config.maxShutterCloseSteps ≤ 255) {act : AttachedAct}
    (drains : DrainsBeforeTriggers (some state) (.program act)) :
    ∃ next, state.step config (.program act) = some next ∧ HasRoom config next ∧
      next.program = (attached config).step state.program act ∧
      next.transmitter.queued = state.transmitter.queued ++ state.commands config act := by
  rw [step_board, BoardPoint.commands]
  cases finished : state.program.programAct act with
  | none =>
      have same : ((attached config).step state.program act).point = state.program.point := by
        rw [attached_step_point, finished]
        rfl
      refine ⟨_, rfl, ⟨?_, ?_⟩, rfl, (List.append_nil _).symm⟩
      · rw [BoardPoint.line, same]
        exact room.budget
      · rw [same]
        exact room.unguarded
  | some step =>
      have empty : EmptyAtTriggers (some state.line) (.program step) := by
        intro line same tick triggers
        cases same
        cases act with
        | foreground answer =>
            cases tick
            cases programAct_foreground _ finished
        | interrupt irq =>
            cases tick
            cases finished
            exact drains state rfl rfl triggers
        | usb event => cases finished
      have moved : ((attached config).step state.program act).point =
          (interleaved config).step state.program.point step := by
        rw [attached_step_point, finished]
        rfl
      obtain ⟨next, stepped, budget, unguarded⟩ := room.budget.step_point fits room.unguarded empty
      obtain ⟨point, queued⟩ := step_program stepped
      have same : next.point = ((attached config).step state.program act).point :=
        point.trans moved.symm
      rw [Option.elim_some, stepped]
      refine ⟨_, rfl, ⟨?_, ?_⟩, rfl, queued⟩
      · rw [BoardPoint.line, ← same]
        exact budget
      · rw [← same]
        exact unguarded

/-- The transmit interrupt loads the oldest byte and leaves the rest. -/
theorem HasRoom.udre (room : HasRoom config state)
    (fits : relayResets config + 2 * config.maxShutterCloseSteps ≤ 255) :
    HasRoom config { state with transmitter := state.transmitter.isrUsart1Udre.1 } := by
  have quiet : EmptyAtTriggers (some state.line) .udre := fun _ _ tick => nomatch tick
  obtain ⟨next, stepped, budget, unguarded⟩ := room.budget.step_point fits room.unguarded quiet
  cases stepped
  exact ⟨budget, unguarded⟩

/-- The commands of a run are those of its first action and those of the rest. -/
theorem commands_append (config : Config) (state : BoardPoint) (act : AttachedAct)
    (acts : List AttachedAct) :
    (commanded config).outputs state.program.point
        (programTrace config state.program (act :: acts)) =
      state.commands config act ++
        (commanded config).outputs ((attached config).step state.program act).point
          (programTrace config ((attached config).step state.program act) acts) := by
  have trace : programTrace config state.program (act :: acts) =
      (state.program.programAct act).toList ++
        programTrace config ((attached config).step state.program act) acts := rfl
  rw [trace, BoardPoint.commands, attached_step_point]
  cases state.program.programAct act with
  | none => rfl
  | some step =>
      rw [Option.toList_some, List.singleton_append, Machine.outputs_cons, commanded_step]
      rfl

/-- A drained run returns from every call of `serial_write`, does what the program
does, and keeps the order of the commands. -/
theorem HasRoom.run (fits : relayResets config + 2 * config.maxShutterCloseSteps ≤ 255)
    {acts : List BoardAct} (room : HasRoom config state)
    (drains : (wholeDevice config).Along DrainsBeforeTriggers (some state) acts) :
    ∃ last, (wholeDevice config).run (some state) acts = some last ∧ HasRoom config last ∧
      last.program = (attached config).run state.program (attachedActs acts) ∧
      (wholeDevice config).outputs (some state) acts ++ last.transmitter.queued =
        state.transmitter.queued ++ (commanded config).outputs state.program.point
          (programTrace config state.program (attachedActs acts)) := by
  induction acts generalizing state with
  | nil => exact ⟨state, rfl, room, rfl, (List.append_nil _).symm⟩
  | cons act acts ih =>
      cases act with
      | program act =>
          obtain ⟨next, stepped, kept, program, queued⟩ := room.program fits drains.1
          have onward : (wholeDevice config).step (some state) (.program act) = some next :=
            stepped
          have later := drains.2
          rw [onward] at later
          obtain ⟨last, reached, still, ends, balance⟩ := ih kept later
          refine ⟨last, ?_, still, ?_, ?_⟩
          · rwa [Machine.run_cons, onward]
          · rw [ends, program, attachedActs_program, Machine.run_cons]
          · rw [Machine.outputs_cons, onward, List.append_assoc, balance, queued, program,
              attachedActs_program, commands_append, List.append_assoc]
            rfl
      | udre =>
          obtain ⟨last, reached, still, ends, balance⟩ := ih (room.udre fits) drains.2
          refine ⟨last, reached, still, ends, ?_⟩
          rw [Machine.outputs_cons, attachedActs_udre,
            ← state.transmitter.queued_isrUsart1Udre, List.append_assoc, List.append_assoc,
            ← balance]
          rfl

end Steps

/-- Every run whose triggers find the transmit buffer empty hangs nowhere. From any
moment of it between two host bytes, and until a bank is cleared or a tick
triggers in the middle of a byte, the bytes loaded into UDR1 and those still
queued are, behind those queued before, the commands of the atomic monitor for a
history that has the bytes of the packets up to the one begun and those still in
the bank, and the interrupts, each once and in order. -/
theorem packets_to_line (config : Config)
    (fits : relayResets config + 2 * config.maxShutterCloseSteps ≤ 255)
    (opening acts : List BoardAct)
    (drains : (wholeDevice config).Along DrainsBeforeTriggers (wholeDevice config).initial
      (opening ++ acts)) :
    ∃ start last, (wholeDevice config).run (wholeDevice config).initial opening = some start ∧
      (wholeDevice config).run (some start) acts = some last ∧
      last.program = (attached config).run start.program (attachedActs acts) ∧
      (start.program.point.pc.handling = false →
        (attached config).Along KeepsBanks start.program (attachedActs acts) →
        (interleaved config).Along Undivided start.program.point
          (programTrace config start.program (attachedActs acts)) →
        ∃ history : List Event,
          history.filterMap Event.hostByte ++ last.program.point.pc.begun ++
              last.program.port.received =
            start.program.port.received ++
              packetBytes config start.program (attachedActs acts) ∧
          history.filterMap Event.irq = attachedIrqs (attachedActs acts) ∧
          (wholeDevice config).outputs (some start) acts ++ last.transmitter.queued =
            start.transmitter.queued ++
              (monitor config).outputs start.program.point.shared history) := by
  obtain ⟨drainsFirst, drainsThen⟩ := (Machine.along_append _ _ _ _ _).mp drains
  have reset : HasRoom config .reset := ⟨withinBudget_reset config, fun _ => rfl⟩
  obtain ⟨start, opened, room, _, _⟩ := reset.run fits drainsFirst
  have initial : (wholeDevice config).initial = some .reset := rfl
  rw [initial, opened] at drainsThen
  obtain ⟨last, reached, _, ends, balance⟩ := room.run fits drainsThen
  refine ⟨start, last, opened, reached, ends, ?_⟩
  intro begins keeps undivided
  obtain ⟨_, passed⟩ := serialized_run config start.program.point begins undivided
  obtain ⟨bytes, irqs⟩ := serialHistory_programTrace config begins keeps
  rw [← ends] at bytes
  exact ⟨_, bytes, irqs, passed ▸ balance⟩

/-- The host opens the port. -/
def boardOpened : List BoardAct := plugIn.map .program

/-- A timeout of 1 runs out; its first command is queued and loaded. -/
def packetToLine : List BoardAct :=
  (AttachedAct.usb (.outPacket [1]) :: loopRounds 9 ++ [AttachedAct.interrupt .timer]).map
    .program ++ [BoardAct.udre]

theorem packet_to_line :
    ∃ (start last : BoardPoint) (history : List Event),
      (wholeDevice makefileConfig).run (wholeDevice makefileConfig).initial boardOpened =
        some start ∧
      history.filterMap Event.irq = attachedIrqs (attachedActs packetToLine) ∧
      (wholeDevice makefileConfig).outputs (some start) packetToLine ++
          last.transmitter.queued =
        start.transmitter.queued ++
          (monitor makefileConfig).outputs start.program.point.shared history := by
  obtain ⟨start, last, opened, _, _, decides⟩ :=
    packets_to_line makefileConfig (by decide) boardOpened packetToLine (by decide +kernel)
  have admitted : ∀ start ∈ (wholeDevice makefileConfig).run (wholeDevice makefileConfig).initial
      boardOpened, start.program.point.pc.handling = false ∧
        (attached makefileConfig).Along KeepsBanks start.program (attachedActs packetToLine) ∧
        (interleaved makefileConfig).Along Undivided start.program.point
          (programTrace makefileConfig start.program (attachedActs packetToLine)) := by
    decide +kernel
  obtain ⟨begins, keeps, undivided⟩ := admitted start opened
  obtain ⟨history, _, irqs, sent⟩ := decides begins keeps undivided
  exact ⟨start, last, history, opened, irqs, sent⟩

example : (wholeDevice makefileConfig).outputs (wholeDevice makefileConfig).initial
    (boardOpened ++ packetToLine) = [ascii 'R'] := by decide +kernel

end DomeHeartbeat
