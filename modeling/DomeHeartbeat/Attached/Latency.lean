import DomeHeartbeat.Attached.DeadHost
import DomeHeartbeat.Attached.Reports

/-!
# How long a host byte waits

While the port stays open every byte of an accepted packet takes effect after a
bounded number of rounds of the main loop, in which a round of `usb_write` that
waits counts only if it finds a new frame (`packet_is_handled`). The main loop
may be anywhere when the packet arrives, also in the middle of a report.
-/

namespace DomeHeartbeat

open Reactive

/-- The statements from a statement to the next call of `usb_read`, at most. -/
def Pc.readRank : Pc → Nat
  | usbRead => 4
  | usbCanRead => 5
  | outside | startSiren | clearLedTriggered => 6
  | setLedEnabled _ | clearSendStatus => 7
  | testHeartbeat => 8
  | storeHeartbeat _ => 9
  | testTriggered _ => 10
  | disableRelay => 11
  | clearActive => 12
  | clearTriggered => 13
  | usbWrite _ => 213
  | readHeartbeat => 214
  | readTriggered => 215
  | readActive => 216
  | testSendStatus => 217

/-- The same with the rounds left of a call of `usb_write`. -/
def AttachedPoint.roundsToRead (state : AttachedPoint) : Nat :=
  match state.point.pc with
  | .usbWrite _ => 8 + state.writePc.left
  | pc => pc.readRank

/-- The rounds until nothing is unhandled, ten for every byte in the bank. -/
def AttachedPoint.roundsLeft (state : AttachedPoint) : Nat :=
  10 * state.port.received.length + state.roundsToRead

/-- The host pauses and the port stays open. -/
def StaysOpen (state : AttachedPoint) : AttachedAct → Prop
  | .usb event => state.port.accepted event = [] ∧ event.clearsBanks = false ∧
      (state.port.onEvent event).isOpen = true
  | _ => True

instance StaysOpen.decidable (state : AttachedPoint) :
    (act : AttachedAct) → Decidable (StaysOpen state act)
  | .usb _ => inferInstanceAs (Decidable (_ = [] ∧ _ = false ∧ _ = true))
  | .foreground _ | .interrupt _ => .isTrue trivial

namespace Pc

theorem readRank_le (pc : Pc) : pc.readRank ≤ 217 := by
  cases pc <;> exact Nat.le_of_ble_eq_true rfl

theorem readRank_received (value : UInt8) : (received value).readRank ≤ 13 := by
  unfold received
  split_ifs <;> exact Nat.le_of_ble_eq_true rfl

end Pc

section Rounds

variable {config : Config} {state : AttachedPoint}

/-- A statement that finds a byte when it asks leads on to the next read. -/
theorem readRank_statement {pc : Pc} {device : Device} {answer : UsbAnswer}
    (reads : pc ≠ .usbRead) (writes : ∀ byte, pc ≠ .usbWrite byte)
    (canRead : pc = .usbCanRead → answer.canRead = true) :
    (device.pollUsbStatement pc answer).1.readRank + 1 ≤ pc.readRank := by
  cases pc with
  | usbRead => exact absurd rfl reads
  | usbWrite byte => exact absurd rfl (writes byte)
  | usbCanRead =>
      rw [Device.pollUsbStatement, canRead rfl]
      exact Nat.le_refl _
  | testTriggered value | testSendStatus | readActive | readTriggered =>
      simp only [Device.pollUsbStatement]
      split_ifs <;> exact Nat.le_of_ble_eq_true rfl
  | _ => exact Nat.le_of_ble_eq_true rfl

/-- A call of `usb_write` begins with all its rounds left. -/
theorem roundsToRead_testDtr (first : state.writePc = .testDtr) :
    state.roundsToRead = state.point.pc.readRank := by
  obtain ⟨⟨pc, device⟩, port, writePc⟩ := state
  cases first
  cases pc <;> rfl

theorem roundsToRead_of_not_usbWrite (writes : ∀ byte, state.point.pc ≠ .usbWrite byte) :
    state.roundsToRead = state.point.pc.readRank := by
  obtain ⟨⟨pc, device⟩, port, writePc⟩ := state
  cases pc with
  | usbWrite byte => exact absurd rfl (writes byte)
  | _ => rfl

theorem isOpen_call (state : AttachedPoint) (answer : BusAnswer) :
    (state.call answer).2.isOpen = state.port.isOpen := by
  obtain ⟨⟨pc, device⟩, port, writePc⟩ := state
  cases pc with
  | usbCanRead => exact port.isOpen_usbCanRead
  | usbRead => exact port.isOpen_usbRead
  | usbWrite byte => exact port.isOpen_usbWrite byte writePc answer
  | _ => rfl

theorem received_call (reads : state.point.pc ≠ .usbRead) (answer : BusAnswer) :
    (state.call answer).2.received = state.port.received := by
  obtain ⟨⟨pc, device⟩, port, writePc⟩ := state
  cases pc with
  | usbCanRead => exact port.received_usbCanRead
  | usbRead => exact absurd rfl reads
  | usbWrite byte => exact port.received_usbWrite byte writePc answer
  | _ => rfl

/-- A round of `usb_write` brings the next read nearer. -/
theorem roundsLeft_usbWrite {byte : UInt8} (writing : state.point.pc = .usbWrite byte)
    (answer : BusAnswer) :
    ((attached config).step state (.foreground answer)).roundsLeft +
      (if state.writePc.advances answer then 1 else 0) ≤ state.roundsLeft := by
  have reads : state.point.pc ≠ .usbRead := by
    rw [writing]
    exact Pc.noConfusion
  have same : ((attached config).step state (.foreground answer)).port.received =
      state.port.received := received_call reads answer
  have before : state.roundsToRead = 8 + state.writePc.left := by
    rw [AttachedPoint.roundsToRead, writing]
  have after : ((attached config).step state (.foreground answer)).roundsToRead +
      (if state.writePc.advances answer then 1 else 0) ≤ 8 + state.writePc.left := by
    obtain ⟨⟨pc, device⟩, port, writePc⟩ := state
    cases writing
    cases goes : (port.usbWrite byte writePc answer).1 with
    | none =>
        have ended : ((attached config).step ⟨⟨.usbWrite byte, device⟩, port, writePc⟩
            (.foreground answer)).roundsToRead = 7 := by
          simp [AttachedPoint.roundsToRead, AttachedPoint.programAct, AttachedPoint.call,
            Device.pollUsbStatement, goes, Pc.readRank]
        rw [ended]
        dsimp only
        split_ifs <;> omega
    | some next =>
        have onward : ((attached config).step ⟨⟨.usbWrite byte, device⟩, port, writePc⟩
            (.foreground answer)).roundsToRead = 8 + next.left := by
          simp [AttachedPoint.roundsToRead, AttachedPoint.programAct, AttachedPoint.call,
            AttachedPoint.writePcAfter, goes]
        have nearer := left_usbWrite goes
        rw [onward, Nat.add_assoc]
        exact Nat.add_le_add_left nearer 8
  rw [AttachedPoint.roundsLeft, AttachedPoint.roundsLeft, same, before, Nat.add_assoc]
  exact Nat.add_le_add_left after _

/-- A statement brings the next read nearer while a byte is there. -/
theorem roundsLeft_statement (opened : state.port.isOpen = true) (busy : state.unhandled ≠ [])
    (writes : ∀ byte, state.point.pc ≠ .usbWrite byte) (answer : BusAnswer) :
    ((attached config).step state (.foreground answer)).roundsLeft + 1 ≤ state.roundsLeft := by
  have fresh : ((attached config).step state (.foreground answer)).writePc = .testDtr := by
    rw [attached_step_writePc, AttachedPoint.writePcAfter, (call_of_not_usbWrite writes answer).1]
    rfl
  rw [AttachedPoint.roundsLeft, AttachedPoint.roundsLeft, roundsToRead_testDtr fresh,
    roundsToRead_of_not_usbWrite writes, step_of_not_usbWrite writes]
  change 10 * (state.call answer).2.received.length +
    (state.point.shared.pollUsbStatement state.point.pc state.answer).1.readRank + 1 ≤ _
  by_cases reads : state.point.pc = .usbRead
  · have there : state.port.received ≠ [] := by
      intro empty
      refine busy ?_
      rw [AttachedPoint.unhandled, reads, empty]
      rfl
    obtain ⟨value, rest, bytes⟩ := List.exists_cons_of_ne_nil there
    have read : state.answer.read = some value := by
      rw [AttachedPoint.answer, UsbPort.usbRead_fst, opened, bytes]
      rfl
    have left := state.port.read_append_received
    have taken : state.port.usbRead.1 = some value := read
    have called : (state.call answer).2 = state.port.usbRead.2 := by
      rw [AttachedPoint.call, reads]
    rw [taken] at left
    rw [called, ← left, reads, Device.pollUsbStatement_usbRead_some _ read, List.length_append]
    have near := Pc.readRank_received value
    have here : Pc.usbRead.readRank = 4 := rfl
    simp only [Option.toList_some, List.length_singleton, here]
    omega
  · rw [received_call reads]
    refine Nat.add_le_add_left (readRank_statement reads writes fun asks => ?_) _
    have there : state.port.received ≠ [] := by
      intro empty
      refine busy ?_
      rw [AttachedPoint.unhandled, asks, empty]
      rfl
    rw [AttachedPoint.answer, UsbPort.usbCanRead_fst, opened]
    simpa using there

end Rounds

/-- The rank of the bytes that are unhandled. -/
def towardsHandled (config : Config) : Progress (attached config) StaysOpen where
  within state := state.port.isOpen = true ∧ state.unhandled ≠ []
  done state := state.unhandled = []
  rank := AttachedPoint.roundsLeft
  counts := AttachedPoint.advances
  step state act holds stays := by
    obtain ⟨opened, busy⟩ := holds
    by_cases handled : ((attached config).step state act).unhandled = []
    · exact .inl handled
    · refine .inr ?_
      cases act with
      | foreground answer =>
          refine ⟨⟨(isOpen_call state answer).trans opened, handled⟩, ?_⟩
          rcases usbWrite_or_not state with ⟨byte, writing⟩ | outside
          · exact roundsLeft_usbWrite writing answer
          · have nearer := @roundsLeft_statement config state opened busy outside answer
            split_ifs
            · exact nearer
            · exact Nat.le_of_succ_le nearer
      | interrupt irq => exact ⟨⟨opened, handled⟩, Nat.le_refl _⟩
      | usb event =>
          obtain ⟨nothing, kept, still⟩ := stays
          have same := @UsbPort.received_onEvent state.port event kept
          rw [nothing, List.append_nil] at same
          refine ⟨⟨still, handled⟩, Nat.le_of_eq ?_⟩
          exact congrArg (10 * List.length · + state.roundsToRead) same

theorem StaysOpen.keepsBanks {state : AttachedPoint} {act : AttachedAct}
    (stays : StaysOpen state act) : KeepsBanks state act := by
  cases act with
  | usb event => exact stays.2.1
  | foreground answer => trivial
  | interrupt irq => trivial

theorem accepts_of_staysOpen {state : AttachedPoint} {act : AttachedAct}
    (stays : StaysOpen state act) : state.accepts act = [] := by
  cases act with
  | usb event => exact stays.1
  | foreground answer => rfl
  | interrupt irq => rfl

/-- Without a packet and with the port open, what is unhandled is handled in order
or still unhandled. -/
theorem handled_in_order {config : Config} {state : AttachedPoint} {acts : List AttachedAct}
    (stays : (attached config).Along StaysOpen state acts) :
    (attached config).collect AttachedPoint.handles state acts ++
      ((attached config).run state acts).unhandled = state.unhandled := by
  induction acts generalizing state with
  | nil => rfl
  | cons act acts ih =>
      have now := byteChannel_lossless config state act stays.1.keepsBanks
      change state.handles act ++ ((attached config).step state act).unhandled =
        state.unhandled ++ state.accepts act at now
      rw [accepts_of_staysOpen stays.1, List.append_nil] at now
      rw [Machine.collect_cons, Machine.run_cons, List.append_assoc, ih stays.2, now]

/-- While the port stays open, the bytes the host has sent have all taken effect,
each once and in order, after ten rounds of the main loop for each and 218 more,
wherever the main loop was and whatever interrupts it. A round of `usb_write`
that waits counts when it finds a new frame. -/
theorem packet_is_handled (config : Config) (state : AttachedPoint)
    (reachable : (attached config).Reachable state) (opened : state.port.isOpen = true)
    (acts : List AttachedAct) (stays : (attached config).Along StaysOpen state acts)
    (enough : 10 * state.port.received.length + 217 <
      (attached config).countAlong AttachedPoint.advances state acts) :
    ∃ earlier later, acts = earlier ++ later ∧
      ((attached config).run state earlier).unhandled = [] ∧
      (attached config).collect AttachedPoint.handles state earlier = state.unhandled := by
  have near : state.roundsToRead ≤ 217 := by
    rcases usbWrite_or_not state with ⟨byte, writing⟩ | outside
    · have left := left_of_reachable reachable
      rw [AttachedPoint.roundsToRead, writing]
      dsimp only
      omega
    · rw [roundsToRead_of_not_usbWrite outside]
      exact state.point.pc.readRank_le
  have arrives : ∃ earlier later, acts = earlier ++ later ∧
      ((attached config).run state earlier).unhandled = [] := by
    by_cases handled : state.unhandled = []
    · exact ⟨[], acts, rfl, handled⟩
    · exact (towardsHandled config).run ⟨opened, handled⟩ stays
        (Nat.lt_of_le_of_lt (Nat.add_le_add_left near _) enough)
  obtain ⟨earlier, later, rfl, handled⟩ := arrives
  have order := handled_in_order ((Machine.along_append _ _ _ _ _).mp stays).1
  rw [handled, List.append_nil] at order
  exact ⟨earlier, later, rfl, handled, order⟩

/-- A packet arrives while a second report waits for the host. -/
def packetInReport : List AttachedAct := secondReport ++ [AttachedAct.usb (.outPacket [2, 0xFF])]

theorem packet_is_handled_after_report :
    ∃ earlier later, framesPass 238 = earlier ++ later ∧
      ((attached makefileConfig).run ((attached makefileConfig).run .reset packetInReport)
        earlier).unhandled = [] := by
  obtain ⟨earlier, later, split, handled, _⟩ := packet_is_handled makefileConfig
    ((attached makefileConfig).run .reset packetInReport) ⟨packetInReport, rfl⟩
    (by decide +kernel) (framesPass 238) (by decide +kernel) (by decide +kernel)
  exact ⟨earlier, later, split, handled⟩

end DomeHeartbeat
