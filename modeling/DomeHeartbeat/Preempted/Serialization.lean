import DomeHeartbeat.Reactive.Refinement
import DomeHeartbeat.Atomic.Monitor
import DomeHeartbeat.Preempted.Monitor

/-!
# Serialization of preempted runs

A run of the statements and interrupts is the atomic monitor's run of its serial
history: the ticks and the PLC bytes where they occurred, and each host byte at
the statement that decides about it. The one obstacle is a tick that triggers
while a byte has begun to take effect (`Undivided`); `serialized` holds of every
run without one, and `history_interleaved` says that no atomic history is missing.
-/

namespace DomeHeartbeat

open Reactive

/-- The interleavings again, with the bytes passed to `serial_write` as outputs. -/
def commanded (config : Config) :
    Machine (Point Pc Device) (Interleaved UsbAnswer Irq) UInt8 where
  initial := (interleaved config).initial
  step := (interleaved config).step
  emit point
    | .interrupt .timer => (point.shared.isrTimer1Compa config).2
    | _ => []

section Steps

variable (config : Config) (point : Point Pc Device)

@[simp] theorem commanded_step (act : Interleaved UsbAnswer Irq) :
    (commanded config).step point act = (interleaved config).step point act := rfl

@[simp] theorem commanded_run (acts : List (Interleaved UsbAnswer Irq)) :
    (commanded config).run point acts = (interleaved config).run point acts := rfl

@[simp] theorem commanded_emit_foreground (answer : UsbAnswer) :
    (commanded config).emit point (.foreground answer) = [] := rfl

@[simp] theorem commanded_emit_timer :
    (commanded config).emit point (.interrupt .timer) =
      (point.shared.isrTimer1Compa config).2 := by
  simp only [commanded]

@[simp] theorem commanded_emit_plc (byte : UInt8) :
    (commanded config).emit point (.interrupt (.plc byte)) = [] := rfl

theorem commanded_along {guard : Point Pc Device → Interleaved UsbAnswer Irq → Prop}
    {acts : List (Interleaved UsbAnswer Irq)} :
    (commanded config).Along guard point acts ↔ (interleaved config).Along guard point acts := by
  induction acts generalizing point with
  | nil => rfl
  | cons act acts ih => exact and_congr Iff.rfl (ih _)

theorem commanded_labels {Item : Type}
    (label : Point Pc Device → Interleaved UsbAnswer Irq → Option Item)
    (acts : List (Interleaved UsbAnswer Irq)) :
    (commanded config).labels label point acts = (interleaved config).labels label point acts := by
  induction acts generalizing point with
  | nil => rfl
  | cons act acts ih => exact congrArg (_ ++ ·) (ih _)

end Steps

namespace Pc

/-- Statements at which a byte has begun to take effect: the zero byte after its
first write, any other accepted timeout after the test of the latch. -/
def midway : Pc → Bool
  | clearActive | disableRelay | storeHeartbeat _ | testHeartbeat | setLedEnabled _
  | clearLedTriggered => true
  | testTriggered value => value == 0
  | _ => false

theorem handling_of_midway {pc : Pc} (midway : pc.midway = true) : pc.handling = true := by
  cases pc <;> first | rfl | cases midway

end Pc

/-- No tick triggers while a host byte has begun to take effect. -/
def Undivided (point : Point Pc Device) (act : Interleaved UsbAnswer Irq) : Prop :=
  act = .interrupt .timer → point.pc.midway = true → point.shared.triggers = false

instance Undivided.decidable (point : Point Pc Device) (act : Interleaved UsbAnswer Irq) :
    Decidable (Undivided point act) :=
  inferInstanceAs (Decidable (act = .interrupt .timer → _ → _))

/-- The event a step stands for. A host byte counts at the statement that
ignores it, asks for the siren, finds the latch set or stores the counter. -/
def serialEvent (point : Point Pc Device) : Interleaved UsbAnswer Irq → Option Event
  | .interrupt .timer => some .tick
  | .interrupt (.plc byte) => some (.plc byte)
  | .foreground answer =>
      match point.pc with
      | .usbRead => answer.read.bind fun value =>
          if Pc.received value = .usbCanRead then some (.host value) else none
      | .startSiren => some (.host 0xFF)
      | .testTriggered value => if point.shared.triggered then some (.host value) else none
      | .storeHeartbeat value => some (.host value)
      | _ => none

/-- The history of atomic events a run from a point stands for. -/
def serialHistory (config : Config) (point : Point Pc Device)
    (acts : List (Interleaved UsbAnswer Irq)) : List Event :=
  (interleaved config).labels serialEvent point acts

namespace Device

/-- What the statements of a byte and the ticks among them do not both write. -/
def core (device : Device) : Device :=
  { device with
    triggered := false
    active := false
    relay := false
    heartbeatLedEnabled := false
    heartbeatLedTriggered := false
    sendStatusByte := false }

/-- The latch, the close flag and the relay agree. -/
def SameFlags (device atomic : Device) : Prop :=
  device.triggered = atomic.triggered ∧ device.active = atomic.active ∧
    device.relay = atomic.relay

/-- The heartbeat LED pins agree. -/
def SameLeds (device atomic : Device) : Prop :=
  device.heartbeatLedEnabled = atomic.heartbeatLedEnabled ∧
    device.heartbeatLedTriggered = atomic.heartbeatLedTriggered

/-- Everything agrees but a pending status request. -/
structure SameButStatus (device atomic : Device) : Prop where
  core : device.core = atomic.core
  flags : SameFlags device atomic
  leds : SameLeds device atomic

/-- The flags and LEDs complete the core to the whole device. -/
theorem SameButStatus.eq {device atomic : Device} (same : SameButStatus device atomic) :
    device = { atomic with sendStatusByte := device.sendStatusByte } := by
  obtain ⟨core, ⟨triggered, active, relay⟩, enabled, ledTriggered⟩ := same
  calc device = { device.core with
        triggered := device.triggered
        active := device.active
        relay := device.relay
        heartbeatLedEnabled := device.heartbeatLedEnabled
        heartbeatLedTriggered := device.heartbeatLedTriggered
        sendStatusByte := device.sendStatusByte } := rfl
    _ = { atomic.core with
        triggered := atomic.triggered
        active := atomic.active
        relay := atomic.relay
        heartbeatLedEnabled := atomic.heartbeatLedEnabled
        heartbeatLedTriggered := atomic.heartbeatLedTriggered
        sendStatusByte := device.sendStatusByte } := by
      rw [core, triggered, active, relay, enabled, ledTriggered]
    _ = { atomic with sendStatusByte := device.sendStatusByte } := rfl

section Tick

variable {config : Config} {device atomic : Device}

theorem triggers_of_core (same : device.core = atomic.core) :
    device.triggers = atomic.triggers :=
  congrArg (fun core => core.heartbeat == 1) same

theorem beforeSend_core (config : Config) (device : Device) :
    (device.core.beforeSend config).core = (device.beforeSend config).core := by
  rw [beforeSend_eq, beforeSend_eq]
  rfl

/-- The step counters, and with them what a tick sends, are decided by the core. -/
theorem sameSteps_beforeSend (same : device.core = atomic.core) :
    SameSteps (device.beforeSend config) (atomic.beforeSend config) := by
  have before : (device.beforeSend config).core = (atomic.beforeSend config).core := by
    rw [← beforeSend_core, same, beforeSend_core]
  exact ⟨(congrArg relayResetSteps before :), (congrArg shutterACloseSteps before :),
    (congrArg shutterBCloseSteps before :)⟩

theorem sent_of_core (same : device.core = atomic.core) :
    (device.isrTimer1Compa config).2 = (atomic.isrTimer1Compa config).2 := by
  rw [isrTimer1Compa_sent, isrTimer1Compa_sent]
  exact ((sameSteps_beforeSend same).sendStep config).1

/-- A tick decides about the core by the core. -/
theorem core_isrTimer1Compa (same : device.core = atomic.core) :
    (device.isrTimer1Compa config).1.core = (atomic.isrTimer1Compa config).1.core := by
  obtain ⟨relayReset, shutterA, shutterB⟩ := ((sameSteps_beforeSend same).sendStep config).2
  rw [← afterSend, ← afterSend] at relayReset shutterA shutterB
  have heartbeat : device.heartbeat = atomic.heartbeat := (congrArg heartbeat same :)
  have siren : device.siren = atomic.siren := (congrArg siren same :)
  have ledActive : device.ledActive = atomic.ledActive := (congrArg ledActive same :)
  have input : device.input = atomic.input := (congrArg input same :)
  have rxLedPulse : device.rxLedPulse = atomic.rxLedPulse := (congrArg rxLedPulse same :)
  have rxLed : device.rxLed = atomic.rxLed := (congrArg rxLed same :)
  have sirenSteps : device.enableSirenSteps = atomic.enableSirenSteps :=
    (congrArg enableSirenSteps same :)
  rw [isrTimer1Compa_eq, isrTimer1Compa_eq]
  simp only [core, beforeSend_enableSirenSteps, relayReset, shutterA, shutterB, heartbeat, siren,
    ledActive, input, rxLedPulse, rxLed, sirenSteps]

theorem closed_afterSend_of_core (same : device.core = atomic.core) :
    (device.afterSend config).closed = (atomic.afterSend config).closed := by
  obtain ⟨_, shutterA, shutterB⟩ := ((sameSteps_beforeSend same).sendStep config).2
  rw [← afterSend, ← afterSend] at shutterA shutterB
  rw [closed, closed, shutterA, shutterB]

theorem SameFlags.tick (flags : SameFlags device atomic) (same : device.core = atomic.core) :
    SameFlags (device.isrTimer1Compa config).1 (atomic.isrTimer1Compa config).1 := by
  obtain ⟨triggered, active, relay⟩ := flags
  have triggers := triggers_of_core same
  have closed : (device.afterSend config).closed = (atomic.afterSend config).closed :=
    closed_afterSend_of_core same
  refine ⟨?_, ?_, ?_⟩
  · simp [triggered, triggers]
  · simp [active, triggers, closed]
  · simp [relay, active, triggers, closed]

theorem SameLeds.tick (leds : SameLeds device atomic) (same : device.core = atomic.core) :
    SameLeds (device.isrTimer1Compa config).1 (atomic.isrTimer1Compa config).1 := by
  obtain ⟨enabled, triggered⟩ := leds
  have triggers := triggers_of_core same
  exact ⟨by simp [enabled, triggers], by simp [triggered, triggers]⟩

end Tick

end Device

/-- A statement stands for a host byte or for nothing. -/
theorem serialEvent_foreground {point : Point Pc Device} {answer : UsbAnswer} {event : Event}
    (label : serialEvent point (.foreground answer) = some event) :
    ∃ value, event = .host value := by
  unfold serialEvent at label
  dsimp only at label
  split at label
  · obtain ⟨value, _, counts⟩ := Option.bind_eq_some_iff.mp label
    split_ifs at counts
    exact ⟨value, (Option.some_inj.mp counts).symm⟩
  · exact ⟨_, (Option.some_inj.mp label).symm⟩
  · split_ifs at label
    exact ⟨_, (Option.some_inj.mp label).symm⟩
  · exact ⟨_, (Option.some_inj.mp label).symm⟩
  · cases label

open Device (SameFlags SameLeds SameButStatus)

/-- How the flags and the LEDs of a preempted device relate to those of the
atomic one. Until a byte counts, the atomic device still has what the byte has
already cleared; after that it already has what the byte has still to write. -/
def Serializes : Pc → Device → Device → Prop
  | .clearActive, device, _ => device.triggered = false
  | .disableRelay, device, _ => device.triggered = false ∧ device.active = false
  | .testTriggered value, device, atomic =>
      value ≤ 240 ∧
        (value = 0 → device.triggered = false ∧ device.active = false ∧ device.relay = false) ∧
        (value ≠ 0 → SameFlags device atomic ∧ SameLeds device atomic)
  | .storeHeartbeat value, device, atomic =>
      value ≤ 240 ∧ device.triggered = false ∧
        (value = 0 → device.active = false ∧ device.relay = false) ∧
        (value ≠ 0 → SameFlags device atomic)
  | .testHeartbeat, device, atomic =>
      SameFlags device atomic ∧ atomic.heartbeatLedEnabled = (device.heartbeat != 0) ∧
        atomic.heartbeatLedTriggered = false
  | .setLedEnabled enabled, device, atomic =>
      SameFlags device atomic ∧ atomic.heartbeatLedEnabled = enabled ∧
        atomic.heartbeatLedTriggered = false
  | .clearLedTriggered, device, atomic =>
      SameFlags device atomic ∧ atomic.heartbeatLedEnabled = device.heartbeatLedEnabled ∧
        atomic.heartbeatLedTriggered = false
  | _, device, atomic => SameFlags device atomic ∧ SameLeds device atomic

/-- A preempted point and the atomic device its serial history leads to. -/
structure Serialized (point : Point Pc Device) (atomic : Device) : Prop where
  core : point.shared.core = atomic.core
  pending : Serializes point.pc point.shared atomic

section Statements

variable {config : Config} {device atomic : Device}

theorem Serialized.of_same {pc : Pc} (settled : pc.handling = false)
    (same : SameButStatus device atomic) : Serialized ⟨pc, device⟩ atomic := by
  obtain ⟨core, flags, leds⟩ := same
  refine ⟨core, ?_⟩
  cases pc <;> first | exact ⟨flags, leds⟩ | cases settled

theorem Serialized.same {point : Point Pc Device} (serialized : Serialized point atomic)
    (settled : point.pc.handling = false) : SameButStatus point.shared atomic := by
  obtain ⟨pc, device⟩ := point
  obtain ⟨core, pending⟩ := serialized
  cases pc <;> first | exact ⟨core, pending.1, pending.2⟩ | cases settled

/-- Reading a byte: a reserved one is handled already, any other is begun. -/
theorem Serialized.received (same : SameButStatus device atomic) (value : UInt8) :
    Serialized ⟨Pc.received value, device⟩
      ((if Pc.received value = .usbCanRead then some (Event.host value) else none).elim atomic
        ((monitor config).step atomic)) := by
  have ⟨core, flags, leds⟩ := same
  rcases Device.pollUsbByte_cases value with ignored | rfl | ⟨positive, accepted⟩
  · by_cases siren : value = 0xFF
    · subst siren
      exact ⟨core, flags, leds⟩
    · rw [Pc.received_reserved ignored siren, if_pos rfl, Option.elim_some, monitor_step_host,
        atomic.pollUsbByte_ignored value ignored, if_neg siren]
      exact ⟨core, flags, leds⟩
  · exact ⟨core, flags, leds⟩
  · rw [Pc.received_timeout positive accepted, if_neg (by simp)]
    exact ⟨core, accepted, fun zero => absurd zero positive, fun _ => ⟨flags, leds⟩⟩

/-- Testing the latch: a timeout that finds it set is handled already. -/
theorem Serialized.tested {value : UInt8}
    (serialized : Serialized ⟨.testTriggered value, device⟩ atomic) (answer : UsbAnswer) :
    Serialized ((preempted config).machine.step ⟨.testTriggered value, device⟩ (.foreground answer))
      ((if device.triggered = true then some (Event.host value) else none).elim atomic
        ((monitor config).step atomic)) := by
  obtain ⟨core, accepted, cleared, same⟩ := serialized
  rw [Preemptive.machine_step_foreground, preempted_statement]
  cases triggered : device.triggered with
  | true =>
      have positive : value ≠ 0 := fun zero =>
        Bool.noConfusion ((cleared zero).1.symm.trans triggered)
      obtain ⟨flags, leds⟩ := same positive
      have latched : atomic.triggered = true := flags.1.symm.trans triggered
      rw [Device.pollUsbStatement_testTriggered_latched answer value triggered, if_pos rfl,
        Option.elim_some, monitor_step_host, atomic.pollUsbByte_timeout value positive accepted,
        if_pos latched]
      exact ⟨core, flags, leds⟩
  | false =>
      rw [Device.pollUsbStatement_testTriggered_armed answer value triggered]
      exact ⟨core, accepted, triggered, fun zero => (cleared zero).2, fun positive =>
        (same positive).1⟩

/-- Storing the counter: from here on the byte counts as handled. -/
theorem Serialized.stored {value : UInt8}
    (serialized : Serialized ⟨.storeHeartbeat value, device⟩ atomic) :
    Serialized ⟨.testHeartbeat, { device with heartbeat := value }⟩ (atomic.pollUsbByte value) := by
  obtain ⟨core, accepted, triggered, cleared, same⟩ := serialized
  have stored : { device.core with heartbeat := value } =
      { atomic.core with heartbeat := value } := by
    rw [core]
  by_cases zero : value = 0
  · subst zero
    obtain ⟨inactive, released⟩ := cleared rfl
    exact ⟨stored, ⟨triggered, inactive, released⟩, rfl, rfl⟩
  · have flags := same zero
    have untriggered : ¬ atomic.triggered = true :=
      Bool.eq_false_iff.mp (flags.1.symm.trans triggered)
    rw [atomic.pollUsbByte_timeout value zero accepted, if_neg untriggered]
    refine ⟨stored, flags, ?_, rfl⟩
    simp [zero]

/-- Each statement handles at most the byte it labels. -/
theorem Serialized.statement {point : Point Pc Device} (serialized : Serialized point atomic)
    (answer : UsbAnswer) :
    Serialized ((interleaved config).step point (.foreground answer))
      ((serialEvent point (.foreground answer)).elim atomic ((monitor config).step atomic)) := by
  obtain ⟨pc, device⟩ := point
  cases pc with
  | usbRead =>
      have same := serialized.same rfl
      cases read : answer.read with
      | none =>
          simp only [serialEvent, read, Preemptive.machine_step_foreground, preempted_statement,
            Device.pollUsbStatement_usbRead_none answer read]
          exact .of_same rfl same
      | some value =>
          simp only [serialEvent, read, Preemptive.machine_step_foreground, preempted_statement,
            Device.pollUsbStatement_usbRead_some answer read]
          exact .received same value
  | startSiren =>
      obtain ⟨core, flags, leds⟩ := serialized
      have started : { device.core with enableSirenSteps := 10 } =
          { atomic.core with enableSirenSteps := 10 } := by
        rw [core]
      exact ⟨started, flags, leds⟩
  | clearTriggered => exact ⟨serialized.core, rfl⟩
  | clearActive => exact ⟨serialized.core, serialized.pending, rfl⟩
  | disableRelay =>
      obtain ⟨core, triggered, active⟩ := serialized
      exact ⟨core, UInt8.zero_le, fun _ => ⟨triggered, active, rfl⟩, fun other => absurd rfl other⟩
  | testTriggered value => exact serialized.tested answer
  | storeHeartbeat value => exact serialized.stored
  | testHeartbeat => exact ⟨serialized.core, serialized.pending⟩
  | setLedEnabled enabled => exact ⟨serialized.core, serialized.pending⟩
  | clearLedTriggered =>
      obtain ⟨core, flags, enabled, triggered⟩ := serialized
      exact ⟨core, flags, ⟨enabled.symm, triggered.symm⟩⟩
  | clearSendStatus => exact ⟨serialized.core, serialized.pending⟩
  | usbCanRead | testSendStatus | readActive | readTriggered =>
      simp only [Preemptive.machine_step_foreground, preempted_statement, Device.pollUsbStatement]
      refine .of_same ?_ (serialized.same rfl)
      split_ifs <;> rfl
  | outside | readHeartbeat | usbWrite byte => exact .of_same rfl (serialized.same rfl)

/-- A tick that does not trigger leaves a running countdown running. -/
theorem heartbeat_quiet_tick (quiet : device.triggers = false) :
    (Device.countedDown device.heartbeat != 0) = (device.heartbeat != 0) := by
  have notOne : device.heartbeat ≠ 1 := mt device.triggers_iff.mpr (Bool.eq_false_iff.mp quiet)
  unfold Device.countedDown
  split_ifs with stopped
  · rfl
  · obtain ⟨_, positive⟩ := not_or.mp stopped
    have left : device.heartbeat - 1 ≠ 0 := mt Counter.pred_eq_zero.mp notOne
    rw [bne_iff_ne.mpr left, bne_iff_ne.mpr positive]

/-- A tick that does not trigger sets no flag. -/
theorem flags_quiet_tick (config : Config) (quiet : device.triggers = false) :
    (device.isrTimer1Compa config).1.triggered = device.triggered ∧
      (device.active = false → (device.isrTimer1Compa config).1.active = false) ∧
      (device.relay = false → (device.isrTimer1Compa config).1.relay = false) := by
  refine ⟨?_, fun inactive => ?_, fun released => ?_⟩
  · simp [quiet]
  · simp [inactive, quiet]
  · simp [released, quiet]

/-- A tick keeps the relation, unless it triggers in the middle of a byte. -/
theorem Serialized.tick {pc : Pc} (serialized : Serialized ⟨pc, device⟩ atomic)
    (quiet : pc.midway = true → device.triggers = false) :
    Serialized ⟨pc, (device.isrTimer1Compa config).1⟩ (atomic.isrTimer1Compa config).1 := by
  obtain ⟨core, pending⟩ := serialized
  have triggers : device.triggers = atomic.triggers := Device.triggers_of_core core
  refine ⟨Device.core_isrTimer1Compa core, ?_⟩
  cases pc with
  | clearActive => exact (flags_quiet_tick config (quiet rfl)).1.trans pending
  | disableRelay =>
      obtain ⟨latch, inactive, _⟩ := flags_quiet_tick config (quiet rfl)
      exact ⟨latch.trans pending.1, inactive pending.2⟩
  | testTriggered value =>
      obtain ⟨accepted, cleared, same⟩ := pending
      refine ⟨accepted, fun zero => ?_, fun positive => ?_⟩
      · obtain ⟨untriggered, stopped, off⟩ := cleared zero
        obtain ⟨latch, inactive, released⟩ :=
          flags_quiet_tick config (quiet (beq_iff_eq.mpr zero))
        exact ⟨latch.trans untriggered, inactive stopped, released off⟩
      · exact ⟨(same positive).1.tick core, (same positive).2.tick core⟩
  | storeHeartbeat value =>
      obtain ⟨accepted, untriggered, cleared, same⟩ := pending
      obtain ⟨latch, inactive, released⟩ := flags_quiet_tick config (quiet rfl)
      refine ⟨accepted, latch.trans untriggered, fun zero => ?_, fun positive => ?_⟩
      · exact ⟨inactive (cleared zero).1, released (cleared zero).2⟩
      · exact (same positive).tick core
  | testHeartbeat =>
      obtain ⟨flags, shown, dark⟩ := pending
      have running := heartbeat_quiet_tick (quiet rfl)
      rw [quiet rfl] at triggers
      exact ⟨flags.tick core, by simp [shown, ← triggers, running], by simp [dark, ← triggers]⟩
  | setLedEnabled enabled =>
      obtain ⟨flags, shown, dark⟩ := pending
      rw [quiet rfl] at triggers
      exact ⟨flags.tick core, by simp [shown, ← triggers], by simp [dark, ← triggers]⟩
  | clearLedTriggered =>
      obtain ⟨flags, shown, dark⟩ := pending
      have idle := quiet rfl
      rw [idle] at triggers
      exact ⟨flags.tick core, by simp [shown, ← triggers, idle], by simp [dark, ← triggers]⟩
  | _ => exact ⟨pending.1.tick core, pending.2.tick core⟩

theorem Serialized.plc {pc : Pc} (serialized : Serialized ⟨pc, device⟩ atomic) (byte : UInt8) :
    Serialized ⟨pc, device.isrUsart1Rx byte⟩ (atomic.isrUsart1Rx byte) := by
  obtain ⟨core, pending⟩ := serialized
  have received : device.core.isrUsart1Rx byte = atomic.core.isrUsart1Rx byte :=
    congrArg (Device.isrUsart1Rx · byte) core
  exact ⟨received, by cases pc <;> exact pending⟩

end Statements

/-- The statements and interrupts implement the atomic monitor. -/
def serialization (config : Config) : ForwardSimulation (commanded config) (monitor config) where
  related := Serialized
  guard := Undivided
  label := serialEvent
  step point atomic act serialized undivided := by
    cases act with
    | foreground answer => exact serialized.statement answer
    | interrupt irq =>
        cases irq with
        | timer => exact serialized.tick (undivided rfl)
        | plc byte => exact serialized.plc byte
  emits point atomic act serialized _ := by
    cases act with
    | foreground answer =>
        cases label : serialEvent point (.foreground answer) with
        | none => rfl
        | some event =>
            obtain ⟨value, rfl⟩ := serialEvent_foreground label
            rfl
    | interrupt irq =>
        cases irq with
        | timer =>
            rw [commanded_emit_timer, Device.sent_of_core serialized.core]
            exact (monitor_emit_tick config atomic).symm
        | plc byte => rfl

/-! ## What a serial history consists of -/

/-- The host byte of an event. -/
def Event.hostByte : Event → Option UInt8
  | .host value => some value
  | _ => none

/-- The interrupt behind an event. -/
def Event.irq : Event → Option Irq
  | .host _ => none
  | .tick => some .timer
  | .plc byte => some (.plc byte)

/-- The byte a step reads from the host. -/
def readByte (point : Point Pc Device) : Interleaved UsbAnswer Irq → Option UInt8
  | .interrupt _ => none
  | .foreground answer =>
      match point.pc with
      | .usbRead => answer.read
      | _ => none

/-- The bytes a run reads from the host, in order. -/
def bytesRead (config : Config) (point : Point Pc Device)
    (acts : List (Interleaved UsbAnswer Irq)) : List UInt8 :=
  (interleaved config).labels readByte point acts

/-- The interrupts of a run, in order. -/
def interrupts (acts : List (Interleaved UsbAnswer Irq)) : List Irq :=
  acts.filterMap fun
    | .foreground _ => none
    | .interrupt irq => some irq

/-- The byte that has been read and does not count yet. -/
def Pc.begun : Pc → List UInt8
  | startSiren => [0xFF]
  | clearTriggered | clearActive | disableRelay => [0]
  | testTriggered value | storeHeartbeat value => [value]
  | _ => []

theorem Pc.begun_received (value : UInt8) :
    ((if received value = usbCanRead then some (Event.host value) else none).bind
        Event.hostByte).toList ++ (received value).begun = [value] := by
  rcases Device.pollUsbByte_cases value with ignored | rfl | ⟨positive, accepted⟩
  · by_cases siren : value = 0xFF
    · subst siren
      rfl
    · rw [received_reserved ignored siren]
      rfl
  · rfl
  · rw [received_timeout positive accepted]
    rfl

/-- A byte that is read counts at once, or is the one the next statements are about. -/
theorem counted_or_begun (config : Config) (point : Point Pc Device)
    (act : Interleaved UsbAnswer Irq) :
    ((serialEvent point act).bind Event.hostByte).toList ++
        ((interleaved config).step point act).pc.begun =
      point.pc.begun ++ (readByte point act).toList := by
  obtain ⟨pc, device⟩ := point
  cases act with
  | interrupt irq => cases irq <;> simp [serialEvent, Event.hostByte, readByte]
  | foreground answer =>
      cases pc with
      | usbRead =>
          cases read : answer.read with
          | none => simp [serialEvent, readByte, read, Device.pollUsbStatement, Pc.begun]
          | some value =>
              simpa [serialEvent, readByte, read, Device.pollUsbStatement, Pc.begun]
                using Pc.begun_received value
      | testTriggered value =>
          cases triggered : device.triggered <;>
            simp [serialEvent, readByte, triggered, Device.pollUsbStatement, Pc.begun,
              Event.hostByte]
      | usbCanRead | testSendStatus | readActive | readTriggered =>
          simp only [serialEvent, readByte, Preemptive.machine_step_foreground,
            preempted_statement, Device.pollUsbStatement]
          split_ifs <;> rfl
      | _ => rfl

/-- Every byte read counts once and in order, but for the one that is begun. -/
theorem hostBytes_serialHistory (config : Config) (point : Point Pc Device)
    (acts : List (Interleaved UsbAnswer Irq)) :
    (serialHistory config point acts).filterMap Event.hostByte ++
        ((interleaved config).run point acts).pc.begun =
      point.pc.begun ++ bytesRead config point acts := by
  rw [serialHistory, Machine.labels_filterMap]
  exact Machine.labels_delayed _ readByte _ (fun point => point.pc.begun)
    (counted_or_begun config) point acts

/-- Every interrupt counts where it occurs. -/
theorem interrupts_serialHistory (config : Config) (point : Point Pc Device)
    (acts : List (Interleaved UsbAnswer Irq)) :
    (serialHistory config point acts).filterMap Event.irq = interrupts acts := by
  have where_ : (fun point act => (serialEvent point act).bind Event.irq) =
      fun _ act => match act with
        | .foreground _ => none
        | .interrupt irq => some irq := by
    funext point act
    cases act with
    | interrupt irq => cases irq <;> rfl
    | foreground answer =>
        cases label : serialEvent point (.foreground answer) with
        | none => rfl
        | some event =>
            obtain ⟨value, rfl⟩ := serialEvent_foreground label
            rfl
  rw [serialHistory, Machine.labels_filterMap, where_, Machine.labels_eq_filterMap]
  rfl

theorem begun_of_settled {pc : Pc} (settled : pc.handling = false) : pc.begun = [] := by
  cases pc <;> first | rfl | cases settled

/-- From a settled point on, whatever the device is there, a run in which no tick
triggers in the middle of a byte is the monitor's run of its serial history. -/
theorem serialized_run (config : Config) (point : Point Pc Device)
    (begins : point.pc.handling = false) {acts : List (Interleaved UsbAnswer Irq)}
    (undivided : (interleaved config).Along Undivided point acts) :
    Serialized ((interleaved config).run point acts)
        ((monitor config).run point.shared (serialHistory config point acts)) ∧
      (commanded config).outputs point acts =
        (monitor config).outputs point.shared (serialHistory config point acts) := by
  rw [serialHistory, ← commanded_labels]
  exact (serialization config).run
    (.of_same begins ⟨rfl, ⟨rfl, rfl, rfl⟩, ⟨rfl, rfl⟩⟩)
    ((commanded_along config point).mpr undivided)

/-- Between host bytes the device of a preempted run is the atomic monitor's
after the serial history, but for the pending status request, and it has passed
the same commands on. The history has the bytes read and the interrupts, each
once and in order. -/
theorem serialized (config : Config) (acts : List (Interleaved UsbAnswer Irq))
    (undivided : (interleaved config).Along Undivided (interleaved config).initial acts)
    (settled : (pointAfter config acts).pc.handling = false) :
    (pointAfter config acts).shared =
        { (monitor config).run .reset (serialHistory config (interleaved config).initial acts) with
          sendStatusByte := (pointAfter config acts).shared.sendStatusByte } ∧
      (commanded config).outputs (commanded config).initial acts =
        (monitor config).outputs .reset
          (serialHistory config (interleaved config).initial acts) ∧
      (serialHistory config (interleaved config).initial acts).filterMap Event.hostByte =
        bytesRead config (interleaved config).initial acts ∧
      (serialHistory config (interleaved config).initial acts).filterMap Event.irq =
        interrupts acts := by
  obtain ⟨ends, passed⟩ :=
    serialized_run config (interleaved config).initial rfl undivided
  have counted := hostBytes_serialHistory config (interleaved config).initial acts
  have none : ((interleaved config).run (interleaved config).initial acts).pc.begun = [] :=
    begun_of_settled settled
  rw [none, List.append_nil] at counted
  exact ⟨(ends.same settled).eq, passed, counted, interrupts_serialHistory config _ acts⟩

/-- The timer interrupts a timeout between the test of the latch and the store. -/
def tickBeforeStore : List (Interleaved UsbAnswer Irq) :=
  undisturbed ⟨true, some 5⟩ 4 ++ Interleaved.interrupt .timer :: undisturbed ⟨true, none⟩ 4

theorem serialized_tickBeforeStore :
    (pointAfter makefileConfig tickBeforeStore).shared =
      { (monitor makefileConfig).run .reset [Event.tick, Event.host 5] with
        sendStatusByte := true } := by
  have same :=
    (serialized makefileConfig tickBeforeStore (by decide +kernel) (by decide +kernel)).1
  have history : serialHistory makefileConfig (interleaved makefileConfig).initial
      tickBeforeStore = [Event.tick, Event.host 5] := by decide +kernel
  have requested : (pointAfter makefileConfig tickBeforeStore).shared.sendStatusByte = true := by
    decide +kernel
  rwa [history, requested] at same

/-! ## Every history is some interleaving's -/

theorem hosts_of_no_interrupts {history : List Event} (none : history.filterMap Event.irq = []) :
    history = (history.filterMap Event.hostByte).map Event.host := by
  induction history with
  | nil => rfl
  | cons event history ih =>
      cases event with
      | host value => exact congrArg (Event.host value :: ·) (ih none)
      | tick | plc _ => simp [Event.irq] at none

theorem interrupts_undisturbed (answer : UsbAnswer) (count : Nat) :
    interrupts (undisturbed answer count) = [] :=
  List.filterMap_eq_nil_iff.mpr fun act member => by rw [List.eq_of_mem_replicate member]

theorem bytesRead_undisturbed (config : Config) (canRead : Bool) (count : Nat)
    (point : Point Pc Device) :
    bytesRead config point (undisturbed ⟨canRead, none⟩ count) = [] := by
  induction count generalizing point with
  | zero => rfl
  | succ count ih =>
      have nothing : readByte point (.foreground ⟨canRead, none⟩) = none := by
        unfold readByte
        dsimp only
        split <;> rfl
      rw [undisturbed_succ, bytesRead, Machine.labels_cons, nothing]
      exact ih _

/-- One host byte without an interrupt. -/
theorem host_interleaved (config : Config) (device : Device) (value : UInt8) :
    ∃ acts, (interleaved config).run ⟨.usbCanRead, device⟩ acts =
        ⟨.usbCanRead, device.pollUsbByte value⟩ ∧
      interrupts acts = [] ∧ serialHistory config ⟨.usbCanRead, device⟩ acts = [.host value] := by
  obtain ⟨count, handled⟩ := byte_undisturbed config device value ⟨true, none⟩
  have run : (interleaved config).run ⟨.usbCanRead, device⟩
      (undisturbed ⟨true, some value⟩ 2 ++ undisturbed ⟨true, none⟩ count) =
        ⟨.usbCanRead, device.pollUsbByte value⟩ := by
    rw [Machine.run_append]
    exact handled
  have quiet : interrupts
      (undisturbed ⟨true, some value⟩ 2 ++ undisturbed ⟨true, none⟩ count) = [] := by
    rw [interrupts, List.filterMap_append]
    exact List.append_eq_nil_iff.mpr
      ⟨interrupts_undisturbed _ 2, interrupts_undisturbed _ count⟩
  refine ⟨_, run, quiet, ?_⟩
  have counted := hostBytes_serialHistory config ⟨.usbCanRead, device⟩
    (undisturbed ⟨true, some value⟩ 2 ++ undisturbed ⟨true, none⟩ count)
  have only := hosts_of_no_interrupts
    ((interrupts_serialHistory config ⟨.usbCanRead, device⟩ _).trans quiet)
  have read : bytesRead config ⟨.usbCanRead, device⟩
      (undisturbed ⟨true, some value⟩ 2 ++ undisturbed ⟨true, none⟩ count) = [value] := by
    rw [bytesRead, Machine.labels_append]
    exact congrArg ([value] ++ ·) (bytesRead_undisturbed config true count _)
  rw [run, read] at counted
  have bytes : (serialHistory config ⟨.usbCanRead, device⟩
      (undisturbed ⟨true, some value⟩ 2 ++ undisturbed ⟨true, none⟩ count)).filterMap
        Event.hostByte = [value] := (List.append_nil _).symm.trans counted
  rw [only, bytes]
  rfl

theorem undivided_of_no_interrupts {config : Config} {acts : List (Interleaved UsbAnswer Irq)}
    (quiet : interrupts acts = []) (point : Point Pc Device) :
    (interleaved config).Along Undivided point acts := by
  refine Machine.along_of_mem (fun act member point => ?_) point
  rintro rfl
  have nothing := List.filterMap_eq_nil_iff.mp quiet _ member
  cases nothing

/-- From the loop condition every history can be interleaved, byte by byte. -/
theorem history_interleaved_from (config : Config) (device : Device) (history : List Event) :
    ∃ acts, (interleaved config).Along Undivided ⟨.usbCanRead, device⟩ acts ∧
      ((interleaved config).run ⟨.usbCanRead, device⟩ acts).pc = .usbCanRead ∧
      serialHistory config ⟨.usbCanRead, device⟩ acts = history := by
  induction history generalizing device with
  | nil => exact ⟨[], trivial, rfl, rfl⟩
  | cons event history ih =>
      cases event with
      | host value =>
          obtain ⟨first, handled, quiet, counts⟩ := host_interleaved config device value
          obtain ⟨rest, undivided, settled, later⟩ := ih (device.pollUsbByte value)
          refine ⟨first ++ rest, ?_, ?_, ?_⟩
          · rw [Machine.along_append, handled]
            exact ⟨undivided_of_no_interrupts quiet _, undivided⟩
          · rw [Machine.run_append, handled]
            exact settled
          · rw [serialHistory, Machine.labels_append, handled]
            exact congrArg₂ (· ++ ·) counts later
      | tick =>
          obtain ⟨rest, undivided, settled, later⟩ := ih (device.isrTimer1Compa config).1
          exact ⟨.interrupt .timer :: rest, ⟨fun _ midway => Bool.noConfusion midway, undivided⟩,
            settled, congrArg (Event.tick :: ·) later⟩
      | plc byte =>
          obtain ⟨rest, undivided, settled, later⟩ := ih (device.isrUsart1Rx byte)
          exact ⟨.interrupt (.plc byte) :: rest,
            ⟨fun _ midway => Bool.noConfusion midway, undivided⟩, settled,
            congrArg (Event.plc byte :: ·) later⟩

/-- Every atomic history is the serial history of a preempted run from reset
that ends between host bytes and in which no tick triggers in the middle of one. -/
theorem history_interleaved (config : Config) (history : List Event) :
    ∃ acts, (interleaved config).Along Undivided (interleaved config).initial acts ∧
      (pointAfter config acts).pc.handling = false ∧
      serialHistory config (interleaved config).initial acts = history := by
  obtain ⟨acts, undivided, settled, serial⟩ := history_interleaved_from config .reset history
  refine ⟨.foreground ⟨true, none⟩ :: acts,
    ⟨fun _ midway => Bool.noConfusion midway, undivided⟩, ?_, serial⟩
  have ends : (pointAfter config (.foreground ⟨true, none⟩ :: acts)).pc = .usbCanRead := settled
  rw [ends]
  rfl

end DomeHeartbeat
