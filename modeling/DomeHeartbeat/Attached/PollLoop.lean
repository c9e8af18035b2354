import DomeHeartbeat.Attached.HostBytes
import DomeHeartbeat.Reactive.Progress

/-!
# The loop of poll_usb

A byte that `usb_can_read` has announced is there for `usb_read`, unless the bus
takes it away in between (`announced_byte_is_read`). The loop ends once the host
pauses and the status report that was asked for is then on its way
(`report_follows_pause`); a host that does not pause is never sent one
(`no_report_while_flooded`).
-/

namespace DomeHeartbeat

open Reactive

/-! ## Announced bytes -/

/-- Between `usb_can_read` and `usb_read` no event closes the port or clears its banks. -/
def KeepsAnnounced (state : AttachedPoint) : AttachedAct → Prop
  | .usb event => state.point.pc = .usbRead →
      (state.port.onEvent event).isOpen = true ∧ event.clearsBanks = false
  | _ => True

instance KeepsAnnounced.decidable (state : AttachedPoint) :
    (act : AttachedAct) → Decidable (KeepsAnnounced state act)
  | .usb event => inferInstanceAs (Decidable (_ → _ ∧ event.clearsBanks = false))
  | .foreground _ | .interrupt _ => .isTrue trivial

/-- A byte is there for `usb_read`. -/
def Announced (state : AttachedPoint) : Prop :=
  state.point.pc = .usbRead → state.port.isOpen = true ∧ state.port.received ≠ []

/-- Only `usb_can_read` leads to `usb_read`. -/
theorem pollUsbStatement_usbRead {pc : Pc} {device : Device} {answer : UsbAnswer}
    (reads : (device.pollUsbStatement pc answer).1 = .usbRead) :
    pc = .usbCanRead ∧ answer.canRead = true := by
  cases pc with
  | usbCanRead =>
      refine ⟨rfl, ?_⟩
      by_contra refused
      simp [Device.pollUsbStatement, refused] at reads
  | usbRead =>
      cases read : answer.read with
      | none => simp [Device.pollUsbStatement, read] at reads
      | some value =>
          simp only [Device.pollUsbStatement, read, Option.elim_some, Pc.received] at reads
          split_ifs at reads
  | testTriggered value =>
      simp only [Device.pollUsbStatement] at reads
      split_ifs at reads
  | testSendStatus | readActive | readTriggered =>
      simp only [Device.pollUsbStatement] at reads
      split_ifs at reads
  | _ => cases reads

section Steps

variable {config : Config} {state : AttachedPoint}

/-- Outside `usb_write` a round is a statement of the program. -/
theorem programAct_of_not_usbWrite (writes : ∀ byte, state.point.pc ≠ .usbWrite byte)
    (answer : BusAnswer) :
    state.programAct (.foreground answer) = some (.foreground state.answer) := by
  obtain ⟨⟨pc, device⟩, port, writePc⟩ := state
  cases pc with
  | usbWrite byte => exact absurd rfl (writes byte)
  | _ => rfl

theorem step_of_not_usbWrite (writes : ∀ byte, state.point.pc ≠ .usbWrite byte)
    (answer : BusAnswer) :
    ((attached config).step state (.foreground answer)).point =
      (interleaved config).step state.point (.foreground state.answer) := by
  rw [attached_step_point, programAct_of_not_usbWrite writes]
  rfl

theorem Announced.step (announced : Announced state) {act : AttachedAct}
    (keeps : KeepsAnnounced state act) : Announced ((attached config).step state act) := by
  cases act with
  | foreground answer =>
      intro reads
      rcases usbWrite_or_not state with ⟨byte, writing⟩ | outside
      · -- no statement leads from `usb_write` to `usb_read`
        rw [attached_step_point] at reads
        cases finished : state.programAct (.foreground answer) with
        | none =>
            rw [finished] at reads
            cases writing.symm.trans reads
        | some act =>
            rw [finished, programAct_foreground state finished] at reads
            have from_ := (pollUsbStatement_usbRead reads).1
            cases writing.symm.trans from_
      · rw [step_of_not_usbWrite outside] at reads
        obtain ⟨from_, canRead⟩ := pollUsbStatement_usbRead reads
        have called : (state.call answer).2 = state.port.usbCanRead.2 := by
          rw [AttachedPoint.call, from_]
        have there : state.port.isOpen = true ∧ state.port.received ≠ [] := by
          simpa [AttachedPoint.answer, UsbPort.usbCanRead_fst] using canRead
        change (state.call answer).2.isOpen = true ∧ (state.call answer).2.received ≠ []
        rwa [called, UsbPort.isOpen_usbCanRead, UsbPort.received_usbCanRead]
  | interrupt irq => exact announced
  | usb event =>
      intro reads
      obtain ⟨opened, kept⟩ := keeps reads
      have there := (announced reads).2
      change (state.port.onEvent event).isOpen = true ∧ (state.port.onEvent event).received ≠ []
      rw [UsbPort.received_onEvent kept]
      exact ⟨opened, List.append_ne_nil_of_left_ne_nil there _⟩

end Steps

/-- Along every run in which the bus leaves an announced byte alone, `usb_read`
returns a byte whenever `poll_usb` calls it, so that the loop is never left by
its `break`. -/
theorem announced_byte_is_read (config : Config) (acts : List AttachedAct)
    (keeps : (attached config).Along KeepsAnnounced (attached config).initial acts)
    (reads : ((attached config).run (attached config).initial acts).point.pc = .usbRead) :
    ∃ value, ((attached config).run (attached config).initial acts).answer.read = some value ∧
      ∀ answer, ((attached config).run (attached config).initial
        (acts ++ [AttachedAct.foreground answer])).point.pc = Pc.received value := by
  have preserved : ∀ state act, Announced state → KeepsAnnounced state act →
      Announced ((attached config).step state act) :=
    fun state act announced keeps => announced.step keeps
  have announced := Machine.run_induction preserved (fun reads => by cases reads) keeps
  generalize reached : (attached config).run (attached config).initial acts = last at *
  obtain ⟨opened, there⟩ := announced reads
  obtain ⟨value, rest, bytes⟩ := List.exists_cons_of_ne_nil there
  have read : last.answer.read = some value := by
    rw [AttachedPoint.answer, UsbPort.usbRead_fst, opened, bytes]
    rfl
  refine ⟨value, read, fun answer => ?_⟩
  have writes : ∀ byte, last.point.pc ≠ .usbWrite byte :=
    fun byte writing => by cases reads.symm.trans writing
  rw [Machine.run_append, reached, Machine.run_cons, Machine.run_nil, step_of_not_usbWrite writes]
  obtain ⟨⟨pc, device⟩, port, writePc⟩ := last
  cases reads
  exact (congrArg Prod.fst (@Device.pollUsbStatement_usbRead_some device _ value read) :)

/-- The loop handles the first byte of a packet while the second is announced. -/
theorem announced_byte_of_two :
    ∃ value, ((attached makefileConfig).run (attached makefileConfig).initial
        (plugIn ++ .usb (.outPacket [2, 0xFF]) :: loopRounds 2)).answer.read = some value := by
  obtain ⟨value, read, _⟩ := announced_byte_is_read makefileConfig
    (plugIn ++ .usb (.outPacket [2, 0xFF]) :: loopRounds 2) (by decide +kernel) (by decide +kernel)
  exact ⟨value, read⟩

/-! ## The report after the loop -/

namespace Pc

/-- `poll_usb` has begun to answer a status request. -/
def answering : Pc → Bool
  | usbWrite _ | clearSendStatus => true
  | _ => false

/-- How many statements `poll_usb` is from `usb_write` once nothing is left to read. -/
def statusRank : Pc → Nat
  | usbWrite _ | clearSendStatus | readHeartbeat => 0
  | readTriggered => 1
  | readActive => 2
  | testSendStatus => 3
  | usbRead => 4
  | usbCanRead => 5
  | outside | startSiren | clearLedTriggered => 6
  | setLedEnabled _ => 7
  | testHeartbeat => 8
  | storeHeartbeat _ => 9
  | testTriggered _ => 10
  | disableRelay => 11
  | clearActive => 12
  | clearTriggered => 13

theorem statusRank_le (pc : Pc) : pc.statusRank ≤ 13 := by
  cases pc <;> simp [statusRank]

theorem answering_received (value : UInt8) : (received value).answering = false := by
  unfold received
  split_ifs <;> rfl

end Pc

/-- The statements to `usb_write`, ten more for every byte that is left to read. -/
def AttachedPoint.statusRank (state : AttachedPoint) : Nat :=
  10 * state.port.received.length + state.point.pc.statusRank

/-- A status request is pending and not being answered. -/
def Requested (state : AttachedPoint) : Prop :=
  state.point.shared.sendStatusByte = true ∧ state.point.pc.answering = false

/-- The host sends no further byte. -/
def HostPauses (state : AttachedPoint) (act : AttachedAct) : Prop := state.accepts act = []

instance HostPauses.decidable (state : AttachedPoint) (act : AttachedAct) :
    Decidable (HostPauses state act) :=
  inferInstanceAs (Decidable (state.accepts act = []))

/-- A round of the main loop. -/
def AttachedAct.isRound : AttachedAct → Bool
  | .foreground _ => true
  | _ => false

section Steps

variable {config : Config} {state : AttachedPoint}

/-- A statement that reads no byte leads to `usb_write` or a statement nearer to it. -/
theorem nearer_statement {pc : Pc} {device : Device} {answer : UsbAnswer}
    (requested : device.sendStatusByte = true) (idle : pc.answering = false)
    (unread : pc = .usbRead → answer.read = none) :
    (∃ byte, (device.pollUsbStatement pc answer).1 = .usbWrite byte) ∨
      ((device.pollUsbStatement pc answer).2.sendStatusByte = true ∧
        (device.pollUsbStatement pc answer).1.answering = false) ∧
      (device.pollUsbStatement pc answer).1.statusRank + 1 ≤ pc.statusRank := by
  cases pc with
  | usbWrite byte | clearSendStatus => cases idle
  | usbRead =>
      rw [Device.pollUsbStatement_usbRead_none answer (unread rfl)]
      exact .inr ⟨⟨requested, rfl⟩, Nat.le_refl _⟩
  | readHeartbeat => exact .inl ⟨_, rfl⟩
  | testSendStatus =>
      rw [Device.pollUsbStatement_testSendStatus_requested answer requested]
      exact .inr ⟨⟨requested, rfl⟩, Nat.le_refl _⟩
  | readActive | readTriggered =>
      simp only [Device.pollUsbStatement]
      split_ifs
      · exact .inl ⟨_, rfl⟩
      · exact .inr ⟨⟨requested, rfl⟩, Nat.le_refl _⟩
  | usbCanRead | testTriggered value =>
      simp only [Device.pollUsbStatement]
      split_ifs <;> exact .inr ⟨⟨requested, rfl⟩, Nat.le_of_ble_eq_true rfl⟩
  | _ => exact .inr ⟨⟨requested, rfl⟩, Nat.le_refl _⟩

/-- A round brings a requested report nearer, counting ten statements for a byte. -/
theorem nearer_round (requested : Requested state) (answer : BusAnswer) :
    (∃ byte, ((attached config).step state (.foreground answer)).point.pc = .usbWrite byte) ∨
      Requested ((attached config).step state (.foreground answer)) ∧
        ((attached config).step state (.foreground answer)).statusRank + 1 ≤
          state.statusRank := by
  have bytes := reads_foreground state answer
  have writes : ∀ byte, state.point.pc ≠ .usbWrite byte := by
    intro byte writing
    have idle := requested.2
    rw [writing] at idle
    cases idle
  rw [AttachedPoint.reads, programAct_of_not_usbWrite writes] at bytes
  rw [Requested, AttachedPoint.statusRank, step_of_not_usbWrite writes, attached_step_port,
    AttachedPoint.portAfter, AttachedPoint.statusRank, ← bytes, List.length_append]
  obtain ⟨⟨pc, device⟩, port, writePc⟩ := state
  obtain ⟨requested, idle⟩ := requested
  cases read : readByte ⟨pc, device⟩
      (.foreground (AttachedPoint.answer ⟨⟨pc, device⟩, port, writePc⟩)) with
  | none =>
      have unread : pc = .usbRead →
          (AttachedPoint.answer ⟨⟨pc, device⟩, port, writePc⟩).read = none := by
        rintro rfl
        exact read
      rcases nearer_statement requested idle unread with arrived | ⟨still, lower⟩
      · exact .inl arrived
      · refine .inr ⟨still, ?_⟩
        simp only [Option.elim_some, read]
        simpa [Nat.add_assoc] using lower
  | some value =>
      cases pc with
      | usbRead =>
          have moved := @Device.pollUsbStatement_usbRead_some device _ value read
          have far := (Pc.received value).statusRank_le
          rw [Preemptive.machine_step_foreground, preempted_statement, moved]
          have here : Pc.usbRead.statusRank = 4 := rfl
          refine .inr ⟨⟨requested, Pc.answering_received value⟩, ?_⟩
          simp only [Option.elim_some, read, Option.toList_some, List.length_singleton, here]
          omega
      | _ => cases read

end Steps

/-- The rank of a requested report while the host pauses. -/
def towardsReport (config : Config) : Progress (attached config) HostPauses where
  within := Requested
  done state := ∃ byte, state.point.pc = .usbWrite byte
  rank := AttachedPoint.statusRank
  counts _ act := act.isRound
  step state act requested pauses := by
    cases act with
    | foreground answer => exact nearer_round requested answer
    | interrupt irq =>
        refine .inr ⟨⟨?_, requested.2⟩, Nat.le_refl _⟩
        cases irq with
        | timer => exact Device.isrTimer1Compa_sendStatusByte config state.point.shared
        | plc byte => exact requested.1
    | usb event =>
        have fewer := (outChannel_lossy config state (.usb event)).length_le
        have nothing : (outChannel config).taken state (.usb event) = [] := pauses
        rw [nothing, List.append_nil] at fewer
        refine .inr ⟨requested, ?_⟩
        exact Nat.add_le_add_right (Nat.mul_le_mul_left 10 fewer) _

/-- Once the host pauses, a requested report is on its way after ten rounds of
the main loop for every byte that is left to read and fourteen more, whatever
interrupts the loop and whatever else happens on the bus. -/
theorem report_follows_pause (config : Config) (state : AttachedPoint)
    (requested : state.point.shared.sendStatusByte = true)
    (idle : state.point.pc.answering = false) (acts : List AttachedAct)
    (pauses : (attached config).Along HostPauses state acts)
    (enough : 10 * state.port.received.length + 13 < acts.countP AttachedAct.isRound) :
    ∃ earlier later byte, acts = earlier ++ later ∧
      ((attached config).run state earlier).point.pc = .usbWrite byte := by
  have near := state.point.pc.statusRank_le
  have counted := (attached config).countAlong_const AttachedAct.isRound state acts
  have rank : (towardsReport config).rank state <
      (attached config).countAlong (towardsReport config).counts state acts := by
    refine Nat.lt_of_le_of_lt ?_ (counted.symm ▸ enough)
    exact Nat.add_le_add_left near _
  obtain ⟨earlier, later, split, byte, writing⟩ :=
    (towardsReport config).run ⟨requested, idle⟩ pauses rank
  exact ⟨earlier, later, byte, split, writing⟩

theorem report_follows_packetOfTwo :
    ∃ earlier later byte,
      AttachedAct.interrupt .timer :: loopRounds 34 = earlier ++ later ∧
        ((attached makefileConfig).run
          ((attached makefileConfig).run portOpened
            [.usb (.outPacket [2, 0xFF]), .interrupt .timer]) earlier).point.pc =
          .usbWrite byte :=
  report_follows_pause makefileConfig
    ((attached makefileConfig).run portOpened [.usb (.outPacket [2, 0xFF]), .interrupt .timer])
    (by decide +kernel) (by decide +kernel) (.interrupt .timer :: loopRounds 34)
    (by decide +kernel) (by decide +kernel)

/-! ## A host that does not pause -/

/-- The main loop is inside the loop of `poll_usb` or about to enter it. -/
def Pc.looping : Pc → Bool
  | testSendStatus | readActive | readTriggered | readHeartbeat | usbWrite _
  | clearSendStatus => false
  | _ => true

/-- The next byte is there whenever `poll_usb` asks, and stays until it is read. -/
def Floods (state : AttachedPoint) : AttachedAct → Prop
  | .foreground _ => state.point.pc = .usbCanRead →
      state.port.isOpen = true ∧ state.port.received ≠ []
  | act => KeepsAnnounced state act

instance Floods.decidable (state : AttachedPoint) :
    (act : AttachedAct) → Decidable (Floods state act)
  | .foreground _ => inferInstanceAs (Decidable (_ → _ ∧ _))
  | .interrupt irq => inferInstanceAs (Decidable (KeepsAnnounced state (.interrupt irq)))
  | .usb event => inferInstanceAs (Decidable (KeepsAnnounced state (.usb event)))

section Steps

variable {config : Config} {state : AttachedPoint}

theorem Floods.keepsAnnounced {act : AttachedAct} (floods : Floods state act) :
    KeepsAnnounced state act := by
  cases act with
  | foreground answer => trivial
  | interrupt irq => exact floods
  | usb event => exact floods

/-- A statement of the loop stays in the loop while its calls find a byte. -/
theorem looping_statement {pc : Pc} {device : Device} {answer : UsbAnswer}
    (looping : pc.looping = true) (canRead : pc = .usbCanRead → answer.canRead = true)
    (read : pc = .usbRead → ∃ value, answer.read = some value) :
    (device.pollUsbStatement pc answer).1.looping = true := by
  cases pc with
  | usbCanRead =>
      rw [Device.pollUsbStatement, canRead rfl]
      rfl
  | usbRead =>
      obtain ⟨value, received⟩ := read rfl
      rw [Device.pollUsbStatement_usbRead_some answer received]
      unfold Pc.received
      split_ifs <;> rfl
  | testTriggered value =>
      simp only [Device.pollUsbStatement]
      split_ifs <;> rfl
  | testSendStatus | readActive | readTriggered | readHeartbeat | usbWrite byte
  | clearSendStatus => cases looping
  | _ => rfl

theorem looping_step (looping : state.point.pc.looping = true) (announced : Announced state)
    {act : AttachedAct} (floods : Floods state act) :
    ((attached config).step state act).point.pc.looping = true := by
  cases act with
  | foreground answer =>
      have writes : ∀ byte, state.point.pc ≠ .usbWrite byte := by
        intro byte writing
        rw [writing] at looping
        cases looping
      rw [step_of_not_usbWrite writes]
      refine looping_statement looping (fun asks => ?_) (fun reads => ?_)
      · obtain ⟨opened, there⟩ := floods asks
        rw [AttachedPoint.answer, UsbPort.usbCanRead_fst, opened]
        simpa using there
      · obtain ⟨opened, there⟩ := announced reads
        obtain ⟨value, rest, bytes⟩ := List.exists_cons_of_ne_nil there
        refine ⟨value, ?_⟩
        rw [AttachedPoint.answer, UsbPort.usbRead_fst, opened, bytes]
        rfl
  | interrupt irq => exact looping
  | usb event => exact looping

/-- A step of the program in the loop passes nothing to `usb_write`. -/
theorem written_of_looping (looping : state.point.pc.looping = true) (act : AttachedAct) :
    (state.programAct act).elim [] ((interleaved config).emit state.point) = [] := by
  obtain ⟨⟨pc, device⟩, port, writePc⟩ := state
  cases finished : AttachedPoint.programAct ⟨⟨pc, device⟩, port, writePc⟩ act with
  | none => rfl
  | some act =>
      cases act with
      | foreground answer => cases pc <;> first | rfl | cases looping
      | interrupt irq => rfl

end Steps

/-- As long as the next byte is there whenever `poll_usb` asks for it, no status
report is written, whatever the interrupts ask for. -/
theorem no_report_while_flooded (config : Config) (state : AttachedPoint)
    (looping : state.point.pc.looping = true) (announced : Announced state)
    (acts : List AttachedAct) (floods : (attached config).Along Floods state acts) :
    (interleaved config).outputs state.point (programTrace config state acts) = [] ∧
      ((attached config).run state acts).point.pc.looping = true := by
  rw [← Machine.collect_emit, collect_programTrace]
  induction acts generalizing state with
  | nil => exact ⟨rfl, looping⟩
  | cons act acts ih =>
      have next := ih ((attached config).step state act)
        (looping_step looping announced floods.1) (announced.step floods.1.keepsAnnounced)
        floods.2
      refine ⟨?_, next.2⟩
      rw [Machine.collect_cons, written_of_looping looping, next.1]
      rfl

/-- The host sends a byte that `poll_usb` ignores as soon as the bank is free. -/
def floodRound : List AttachedAct :=
  [.usb (.outPacket [241]), .interrupt .timer, .foreground ⟨0, false⟩, .foreground ⟨0, false⟩]

theorem floodRound_run (config : Config) {state : AttachedPoint}
    (asks : state.point.pc = .usbCanRead) (opened : state.port.isOpen = true)
    (free : state.port.outBank = none) :
    (attached config).Along Floods state floodRound ∧
      ((attached config).run state floodRound).point.pc = .usbCanRead ∧
      ((attached config).run state floodRound).port.isOpen = true ∧
      ((attached config).run state floodRound).port.outBank = none := by
  obtain ⟨⟨pc, device⟩, port, writePc⟩ := state
  cases asks
  dsimp only at free
  have sent : port.onEvent (.outPacket [241]) = { port with outBank := some [241] } := by
    simp [UsbPort.onEvent, free, cdcTxRxEpSize]
  have still : UsbPort.isOpen { port with outBank := some [241] } = true := opened
  have asked : UsbPort.usbCanRead { port with outBank := some [241] } =
      (true, { port with outBank := some [241] }) := by
    simp [UsbPort.usbCanRead, UsbPort.cdcDeviceBytesReceived, still]
  have read : UsbPort.usbRead { port with outBank := some [241] } =
      (some 241, { port with outBank := none }) := by
    simp [UsbPort.usbRead, UsbPort.cdcDeviceReceiveByte, still]
  simp [floodRound, Floods, KeepsAnnounced, AttachedPoint.programAct, AttachedPoint.call,
    AttachedPoint.portAfter, AttachedPoint.answer, Device.pollUsbStatement, sent, asked, read,
    still, UsbPort.received, Pc.received]
  exact opened

/-- A host can keep every report back for as long as it likes. -/
theorem floods_run (config : Config) (count : Nat) {state : AttachedPoint}
    (asks : state.point.pc = .usbCanRead) (opened : state.port.isOpen = true)
    (free : state.port.outBank = none) :
    (attached config).Along Floods state (List.replicate count floodRound).flatten := by
  induction count generalizing state with
  | zero => trivial
  | succ count ih =>
      obtain ⟨floods, again, still, empty⟩ := floodRound_run config asks opened free
      rw [List.replicate_succ, List.flatten_cons, Machine.along_append]
      exact ⟨floods, ih again still empty⟩

/-- The program at its first call of `usb_can_read` once the port is open. -/
def askingOpened : AttachedPoint := (attached makefileConfig).run portOpened (loopRounds 1)

theorem no_report_in_a_minute_of_floods :
    (interleaved makefileConfig).outputs askingOpened.point
      (programTrace makefileConfig askingOpened (List.replicate 120 floodRound).flatten) = [] :=
  (no_report_while_flooded makefileConfig askingOpened (by decide +kernel)
    (fun reads => absurd reads (by decide +kernel)) (List.replicate 120 floodRound).flatten
    (floods_run makefileConfig 120 (by decide +kernel) (by decide +kernel)
      (by decide +kernel))).1

end DomeHeartbeat
