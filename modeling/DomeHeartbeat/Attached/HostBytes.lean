import DomeHeartbeat.Attached.Monitor

/-!
# Host bytes on their way to poll_usb

The OUT endpoint is a channel from the packets of the host to the bytes that
`poll_usb` reads. No byte is read twice or out of order, and none is lost unless
the banks are cleared (`reads_packets_in_order`); together with the serial
history of the program this says what a stream of packets does to the device
(`packets_decide_device`).
-/

namespace DomeHeartbeat

open Reactive

/-- The action clears no bank. -/
def KeepsBanks (_ : AttachedPoint) : AttachedAct → Prop
  | .usb event => event.clearsBanks = false
  | _ => True

instance KeepsBanks.decidable (state : AttachedPoint) :
    (act : AttachedAct) → Decidable (KeepsBanks state act)
  | .usb event => inferInstanceAs (Decidable (event.clearsBanks = false))
  | .foreground _ | .interrupt _ => .isTrue trivial

/-- The bytes of an accepted packet. -/
def AttachedPoint.accepts (state : AttachedPoint) : AttachedAct → List UInt8
  | .usb event => state.port.accepted event
  | _ => []

/-- The byte an action reads for `poll_usb`. -/
def AttachedPoint.reads (state : AttachedPoint) (act : AttachedAct) : List UInt8 :=
  (state.programAct act).elim [] fun act => (readByte state.point act).toList

/-- The bytes of all packets accepted along a run, in order. -/
def packetBytes (config : Config) (state : AttachedPoint) (acts : List AttachedAct) : List UInt8 :=
  (attached config).collect AttachedPoint.accepts state acts

/-- The OUT endpoint between the host and `poll_usb`. -/
def outChannel (config : Config) : Channel (attached config) UInt8 where
  taken := AttachedPoint.accepts
  held state := state.port.received
  passed := AttachedPoint.reads

section Channel

variable {config : Config} {state : AttachedPoint}

/-- A statement reads what it removes from the port. -/
theorem reads_foreground (state : AttachedPoint) (answer : BusAnswer) :
    state.reads (.foreground answer) ++ (state.call answer).2.received = state.port.received := by
  obtain ⟨⟨pc, device⟩, port, writePc⟩ := state
  cases pc with
  | usbCanRead => exact port.received_usbCanRead
  | usbRead => exact port.read_append_received
  | usbWrite byte =>
      cases returns : (port.usbWrite byte writePc answer).1 <;>
        simp [AttachedPoint.reads, AttachedPoint.programAct, AttachedPoint.call, returns, readByte]
  | _ => rfl

theorem outChannel_lossless (config : Config) : (outChannel config).Lossless KeepsBanks := by
  intro state act keeps
  cases act with
  | foreground answer => exact (reads_foreground state answer).trans (List.append_nil _).symm
  | interrupt irq => exact (List.append_nil _).symm
  | usb event => exact UsbPort.received_onEvent keeps

theorem outChannel_lossy (config : Config) : (outChannel config).Lossy := by
  intro state act
  cases act with
  | foreground answer => rw [outChannel_lossless config state (.foreground answer) trivial]
  | interrupt irq => rw [outChannel_lossless config state (.interrupt irq) trivial]
  | usb event => exact state.port.received_onEvent_sublist event

theorem collect_reads (config : Config) (state : AttachedPoint) (acts : List AttachedAct) :
    (attached config).collect AttachedPoint.reads state acts =
      bytesRead config state.point (programTrace config state acts) := by
  rw [bytesRead, ← Machine.collect_label, collect_programTrace]
  rfl

/-- While no bank is cleared, what the program has read and what is left in the
bank are what has been accepted. -/
theorem bytesRead_append_received (config : Config) (state : AttachedPoint)
    {acts : List AttachedAct} (keeps : (attached config).Along KeepsBanks state acts) :
    bytesRead config state.point (programTrace config state acts) ++
        ((attached config).run state acts).port.received =
      state.port.received ++ packetBytes config state acts := by
  rw [← collect_reads]
  exact (outChannel_lossless config).run keeps

end Channel

/-- However the program is interrupted and whatever the host and the bus do,
`poll_usb` reads bytes of accepted packets only, in order and none twice; as long
as no bank is cleared it has read them all but those still in the bank. -/
theorem reads_packets_in_order (config : Config) (state : AttachedPoint)
    (acts : List AttachedAct) :
    List.Sublist
        (bytesRead config state.point (programTrace config state acts) ++
          ((attached config).run state acts).port.received)
        (state.port.received ++ packetBytes config state acts) ∧
      ((attached config).Along KeepsBanks state acts →
        bytesRead config state.point (programTrace config state acts) ++
            ((attached config).run state acts).port.received =
          state.port.received ++ packetBytes config state acts) := by
  constructor
  · rw [← collect_reads]
    exact (outChannel_lossy config).run state acts
  · exact bytesRead_append_received config state

/-- The host plugs in, configures the device and opens the port. -/
def plugIn : List AttachedAct :=
  [.usb (.vbus true), .usb .busReset, .usb (.setAddress 5), .usb (.setConfiguration 1 true),
    .usb (.setLineEncoding 9600), .usb (.setControlLineState 1)]

/-- Rounds of the main loop without an interrupt between them. -/
def loopRounds (count : Nat) : List AttachedAct := List.replicate count (.foreground ⟨0, false⟩)

/-- The program once the port is open. -/
def portOpened : AttachedPoint := (attached makefileConfig).run .reset plugIn

/-- A packet with a timeout and a request for the siren, half of it handled. -/
def packetOfTwo : List AttachedAct := .usb (.outPacket [2, 0xFF]) :: loopRounds 6

theorem reads_packetOfTwo :
    bytesRead makefileConfig portOpened.point
        (programTrace makefileConfig portOpened packetOfTwo) ++
        ((attached makefileConfig).run portOpened packetOfTwo).port.received =
      portOpened.port.received ++ packetBytes makefileConfig portOpened packetOfTwo :=
  (reads_packets_in_order makefileConfig portOpened packetOfTwo).2 (by decide +kernel)

/-- The interrupts of an attached run, in order. -/
def attachedIrqs (acts : List AttachedAct) : List Irq :=
  acts.filterMap fun
    | .interrupt irq => some irq
    | _ => none

theorem interrupts_programTrace (config : Config) (state : AttachedPoint)
    (acts : List AttachedAct) :
    interrupts (programTrace config state acts) = attachedIrqs acts := by
  induction acts generalizing state with
  | nil => rfl
  | cons act acts ih =>
      have later := ih ((attached config).step state act)
      rw [programTrace, Simulation.trace, interrupts, List.filterMap_append]
      rw [programTrace, interrupts] at later
      rw [later]
      cases act with
      | foreground answer =>
          cases returns : (state.call answer).1 <;>
            simp [programOf, AttachedPoint.programAct, returns, attachedIrqs]
      | interrupt irq => rfl
      | usb event => rfl

/-- The serial history of an attached run has the bytes of its packets, up to the
one begun and those still in the bank, and its interrupts. -/
theorem serialHistory_programTrace (config : Config) {state : AttachedPoint}
    (begins : state.point.pc.handling = false) {acts : List AttachedAct}
    (keeps : (attached config).Along KeepsBanks state acts) :
    (serialHistory config state.point (programTrace config state acts)).filterMap
            Event.hostByte ++ ((attached config).run state acts).point.pc.begun ++
          ((attached config).run state acts).port.received =
        state.port.received ++ packetBytes config state acts ∧
      (serialHistory config state.point (programTrace config state acts)).filterMap Event.irq =
        attachedIrqs acts := by
  have counted := hostBytes_serialHistory config state.point (programTrace config state acts)
  have irqs := interrupts_serialHistory config state.point (programTrace config state acts)
  rw [begun_of_settled begins, List.nil_append, ← point_run] at counted
  rw [interrupts_programTrace] at irqs
  exact ⟨(congrArg (· ++ _) counted).trans (bytesRead_append_received config state keeps), irqs⟩

/-- Between two clearings of the banks a stream of packets is a history of the
atomic monitor, unless a tick triggers in the middle of a byte: the host bytes of
the history are those of the packets up to the one begun and those still in the
bank, the interrupts are where they occurred, and the device and its commands
are the monitor's. -/
theorem packets_decide_device (config : Config) (state : AttachedPoint)
    (begins : state.point.pc.handling = false) (acts : List AttachedAct)
    (keeps : (attached config).Along KeepsBanks state acts)
    (undivided : (interleaved config).Along Undivided state.point
      (programTrace config state acts)) :
    ∃ history : List Event,
      history.filterMap Event.hostByte ++ ((attached config).run state acts).point.pc.begun ++
          ((attached config).run state acts).port.received =
        state.port.received ++ packetBytes config state acts ∧
      history.filterMap Event.irq = attachedIrqs acts ∧
      (commanded config).outputs state.point (programTrace config state acts) =
        (monitor config).outputs state.point.shared history ∧
      (((attached config).run state acts).point.pc.handling = false →
        ((attached config).run state acts).point.shared =
          { (monitor config).run state.point.shared history with
            sendStatusByte :=
              ((attached config).run state acts).point.shared.sendStatusByte }) := by
  obtain ⟨ends, passed⟩ := serialized_run config state.point begins undivided
  obtain ⟨bytes, irqs⟩ := serialHistory_programTrace config begins keeps
  rw [← point_run] at ends
  exact ⟨_, bytes, irqs, passed, fun settled => (ends.same settled).eq⟩

theorem packetOfTwo_decides_device :
    ∃ history : List Event,
      history.filterMap Event.hostByte ++
          ((attached makefileConfig).run portOpened packetOfTwo).point.pc.begun ++
          ((attached makefileConfig).run portOpened packetOfTwo).port.received =
        portOpened.port.received ++ packetBytes makefileConfig portOpened packetOfTwo := by
  obtain ⟨history, bytes, _⟩ := packets_decide_device makefileConfig portOpened
    (by decide +kernel) packetOfTwo (by decide +kernel) (by decide +kernel)
  exact ⟨history, bytes⟩

end DomeHeartbeat
