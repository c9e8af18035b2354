import DomeHeartbeat.Attached.PollLoop

/-!
# Status reports on their way to the host

The IN endpoint is a channel from the bytes passed to `usb_write` to the bytes
the host takes. A report may be lost, but none is repeated or overtaken, and
none is lost while the port stays open and no wait is given up
(`reports_reach_host_in_order`). However long the host leaves its bank alone,
`usb_write` waits for a bounded number of frames (`usb_write_returns`), and for
none when the host is gone (`usb_write_returns_detached`). No packet has more than
one byte unless the port closes within a call (`packets_of_one_byte`).
-/

namespace DomeHeartbeat

open Reactive

/-- The byte of a call that has not been put into the bank yet. -/
def WritePc.unwritten (byte : UInt8) : WritePc → List UInt8
  | sendByte | sendWait _ _ => [byte]
  | _ => []

/-- The byte that the first round of a call is about. -/
def WritePc.begins (byte : UInt8) : WritePc → List UInt8
  | testDtr => [byte]
  | _ => []

/-- The byte of a call that is under way. -/
def WritePc.underWay (byte : UInt8) : WritePc → List UInt8
  | testDtr => []
  | _ => [byte]

namespace AttachedPoint

/-- What `usb_write` is called with, if it has been reached. -/
def writing (state : AttachedPoint) (seen : UInt8 → WritePc → List UInt8) : List UInt8 :=
  match state.point.pc with
  | .usbWrite byte => seen byte state.writePc
  | _ => []

/-- The byte of a call of `usb_write` that an action begins. -/
def begunBy (state : AttachedPoint) : AttachedAct → List UInt8
  | .foreground _ => state.writing WritePc.begins
  | _ => []

/-- The byte of a call of `usb_write` that an action ends. -/
def writtenBy (state : AttachedPoint) (act : AttachedAct) : List UInt8 :=
  (state.programAct act).elim [] fun _ => match act with
    | .foreground _ => Device.pollUsbWritten state.point.pc
    | _ => []

end AttachedPoint

/-- A round of `Endpoint_WaitUntilReady` in `CDC_Device_SendByte` that fails. -/
def UsbPort.givesUp (port : UsbPort) (answer : BusAnswer) : WritePc → Bool
  | .sendWait timeoutMsRem previousFrameNumber =>
      match port.waitUntilReady timeoutMsRem previousFrameNumber answer with
      | .inl .noError | .inr _ => false
      | .inl _ => true
  | _ => false

/-- The port is open at every round of `usb_write`, no wait for the bank is given
up and no bank is cleared. -/
def AttachedPoint.delivers (state : AttachedPoint) : AttachedAct → Bool
  | .foreground answer =>
      match state.point.pc with
      | .usbWrite _ =>
          state.port.isOpen && state.port.dtr && !state.port.givesUp answer state.writePc
      | _ => true
  | .interrupt _ => true
  | .usb event => !event.clearsBanks

def Delivers (state : AttachedPoint) (act : AttachedAct) : Prop := state.delivers act = true

instance Delivers.decidable (state : AttachedPoint) (act : AttachedAct) :
    Decidable (Delivers state act) :=
  inferInstanceAs (Decidable (state.delivers act = true))

/-- The IN endpoint between `usb_write` and the host. -/
def inChannel (config : Config) : Channel (attached config) UInt8 where
  taken := AttachedPoint.begunBy
  held state := state.port.inBank.bytes ++ state.writing WritePc.unwritten
  passed := (attached config).emit

/-- The calls of `usb_write` between their first and their last round. -/
def writeCalls (config : Config) : Channel (attached config) UInt8 where
  taken := AttachedPoint.begunBy
  held state := state.writing WritePc.underWay
  passed := AttachedPoint.writtenBy

section Rounds

variable {port : UsbPort} {byte : UInt8} {pc : WritePc} {answer : BusAnswer}

theorem isInReady_of_noError {timeoutMsRem : UInt8} {previousFrameNumber : UInt16}
    (ready : port.waitUntilReady timeoutMsRem previousFrameNumber answer = .inl .noError) :
    port.inBank.isInReady = true := by
  by_contra busy
  rw [UsbPort.waitUntilReady, if_neg busy] at ready
  split_ifs at ready <;> cases ready

/-- A round puts the byte into the bank, keeps it for the next round, or gives it
up because the port is closed or the wait has failed. -/
theorem usbWrite_flow :
    (port.usbWrite byte pc answer).2.inBank.bytes ++
          (port.usbWrite byte pc answer).1.elim [] (WritePc.unwritten byte) =
        port.inBank.bytes ++ (pc.unwritten byte ++ pc.begins byte) ∨
      (port.usbWrite byte pc answer).2.inBank.bytes ++
            (port.usbWrite byte pc answer).1.elim [] (WritePc.unwritten byte) =
          port.inBank.bytes ∧
        (port.isOpen && port.dtr && !port.givesUp answer pc) = false := by
  cases pc with
  | testDtr =>
      cases dtr : port.dtr with
      | false => exact .inr ⟨by simp [UsbPort.usbWrite, dtr], by simp⟩
      | true =>
          refine .inl ?_
          simp [UsbPort.usbWrite, dtr, WritePc.unwritten, WritePc.begins]
  | sendByte =>
      cases opened : port.isOpen with
      | false => exact .inr ⟨by simp [UsbPort.usbWrite, opened], by simp⟩
      | true =>
          refine .inl ?_
          cases allowed : port.inBank.isReadWriteAllowed with
          | false => simp [UsbPort.usbWrite, opened, allowed, WritePc.unwritten, WritePc.begins]
          | true =>
              have ready := InBank.isInReady_of_allowed allowed
              simp [UsbPort.usbWrite, opened, allowed, WritePc.unwritten, WritePc.begins,
                InBank.bytes_write8 ready]
  | sendWait timeoutMsRem previousFrameNumber =>
      cases waits : port.waitUntilReady timeoutMsRem previousFrameNumber answer with
      | inr left =>
          refine .inl ?_
          simp [UsbPort.usbWrite, waits, WritePc.unwritten, WritePc.begins]
      | inl result =>
          cases result with
          | noError =>
              have ready := isInReady_of_noError waits
              refine .inl ?_
              simp [UsbPort.usbWrite, waits, WritePc.unwritten, WritePc.begins,
                InBank.bytes_write8 ready]
          | endpointStalled | deviceDisconnected | busSuspended | timeout =>
              exact .inr ⟨by simp [UsbPort.usbWrite, waits], by simp [UsbPort.givesUp, waits]⟩
  | testDtrAgain =>
      refine .inl ?_
      cases dtr : port.dtr <;> simp [UsbPort.usbWrite, dtr, WritePc.unwritten, WritePc.begins]
  | flush =>
      refine .inl ?_
      simp only [UsbPort.usbWrite]
      split_ifs <;> simp [WritePc.unwritten, WritePc.begins]
  | flushWait timeoutMsRem previousFrameNumber =>
      refine .inl ?_
      simp only [UsbPort.usbWrite]
      split <;> simp [WritePc.unwritten, WritePc.begins]

/-- No round goes back to the start of `usb_write`. -/
theorem underWay_usbWrite {next : WritePc} (goes : (port.usbWrite byte pc answer).1 = some next) :
    next.underWay byte = [byte] := by
  cases next with
  | testDtr =>
      cases pc with
      | testDtr | testDtrAgain =>
          simp only [UsbPort.usbWrite] at goes
          split_ifs at goes
          cases goes
      | sendByte | flush =>
          simp only [UsbPort.usbWrite] at goes
          split_ifs at goes <;> cases goes
      | sendWait timeoutMsRem previousFrameNumber | flushWait timeoutMsRem previousFrameNumber =>
          simp only [UsbPort.usbWrite] at goes
          split at goes <;> cases goes
  | _ => rfl

theorem underWay_append_begins (byte : UInt8) (pc : WritePc) :
    pc.underWay byte ++ pc.begins byte = [byte] := by
  cases pc <;> rfl

end Rounds

section Channels

variable {config : Config} {state : AttachedPoint}

/-- Before its first round a call has put nothing under way. -/
theorem writing_testDtr {seen : UInt8 → WritePc → List UInt8}
    (first : state.writePc = .testDtr) (nothing : ∀ byte, seen byte .testDtr = []) :
    state.writing seen = [] := by
  rw [AttachedPoint.writing, first]
  cases state.point.pc with
  | usbWrite byte => exact nothing byte
  | _ => rfl

/-- A statement other than `usb_write` leaves the IN bank alone. -/
theorem call_of_not_usbWrite (writes : ∀ byte, state.point.pc ≠ .usbWrite byte)
    (answer : BusAnswer) :
    (state.call answer).1 = none ∧ (state.call answer).2.inBank = state.port.inBank := by
  obtain ⟨⟨pc, device⟩, port, writePc⟩ := state
  cases pc with
  | usbWrite byte => exact absurd rfl (writes byte)
  | usbCanRead => exact ⟨rfl, port.inBank_usbCanRead⟩
  | usbRead => exact ⟨rfl, port.inBank_usbRead⟩
  | _ => exact ⟨rfl, rfl⟩

theorem writing_of_not_usbWrite (writes : ∀ byte, state.point.pc ≠ .usbWrite byte)
    (seen : UInt8 → WritePc → List UInt8) : state.writing seen = [] := by
  obtain ⟨⟨pc, device⟩, port, writePc⟩ := state
  cases pc with
  | usbWrite byte => exact absurd rfl (writes byte)
  | _ => rfl

theorem writing_of_usbWrite {byte : UInt8} (writes : state.point.pc = .usbWrite byte)
    (seen : UInt8 → WritePc → List UInt8) : state.writing seen = seen byte state.writePc := by
  rw [AttachedPoint.writing, writes]

/-- What a channel holds after a round of `usb_write`. -/
theorem writing_step {byte : UInt8} (writes : state.point.pc = .usbWrite byte) (answer : BusAnswer)
    (seen : UInt8 → WritePc → List UInt8) :
    ((attached config).step state (.foreground answer)).writing seen =
      (state.port.usbWrite byte state.writePc answer).1.elim [] (seen byte) := by
  obtain ⟨⟨pc, device⟩, port, writePc⟩ := state
  cases writes
  cases returns : (port.usbWrite byte writePc answer).1 <;>
    simp [AttachedPoint.writing, AttachedPoint.programAct, AttachedPoint.writePcAfter,
      AttachedPoint.call, Device.pollUsbStatement, returns]

/-- A statement outside `usb_write` neither writes nor puts a byte under way. -/
theorem writing_step_of_not_usbWrite (writes : ∀ byte, state.point.pc ≠ .usbWrite byte)
    (answer : BusAnswer) {seen : UInt8 → WritePc → List UInt8}
    (nothing : ∀ byte, seen byte .testDtr = []) :
    ((attached config).step state (.foreground answer)).writing seen = [] := by
  refine writing_testDtr ?_ nothing
  rw [attached_step_writePc, AttachedPoint.writePcAfter, (call_of_not_usbWrite writes answer).1]
  rfl

/-- Every action passes on or holds what was held and what it begins with, or it
gives bytes up and the port does not deliver. -/
theorem inChannel_step (state : AttachedPoint) (act : AttachedAct) :
    ((inChannel config).passed state act ++
          (inChannel config).held ((attached config).step state act) =
        (inChannel config).held state ++ (inChannel config).taken state act) ∨
      List.Sublist ((inChannel config).passed state act ++
            (inChannel config).held ((attached config).step state act))
          ((inChannel config).held state ++ (inChannel config).taken state act) ∧
        ¬ Delivers state act := by
  cases act with
  | foreground answer =>
      change ((attached config).step state (.foreground answer)).port.inBank.bytes ++
            ((attached config).step state (.foreground answer)).writing WritePc.unwritten =
          state.port.inBank.bytes ++ state.writing WritePc.unwritten ++
            state.writing WritePc.begins ∨
        List.Sublist (((attached config).step state (.foreground answer)).port.inBank.bytes ++
            ((attached config).step state (.foreground answer)).writing WritePc.unwritten)
          (state.port.inBank.bytes ++ state.writing WritePc.unwritten ++
            state.writing WritePc.begins) ∧ _
      rcases usbWrite_or_not state with ⟨byte, writes⟩ | outside
      · rw [writing_step writes, attached_step_port, AttachedPoint.portAfter,
          call_of_usbWrite state writes, writing_of_usbWrite writes, writing_of_usbWrite writes,
          List.append_assoc]
        refine usbWrite_flow.imp id ?_
        rintro ⟨same, closed⟩
        refine ⟨same ▸ List.sublist_append_left _ _, ?_⟩
        simp [Delivers, AttachedPoint.delivers, writes, closed]
      · refine .inl ?_
        rw [writing_step_of_not_usbWrite outside answer fun _ => rfl,
          writing_of_not_usbWrite outside, writing_of_not_usbWrite outside, attached_step_port,
          AttachedPoint.portAfter, (call_of_not_usbWrite outside answer).2]
        simp
  | interrupt irq => exact .inl (List.append_nil _).symm
  | usb event =>
      change state.port.taken event ++ ((state.port.onEvent event).inBank.bytes ++
            state.writing WritePc.unwritten) =
          state.port.inBank.bytes ++ state.writing WritePc.unwritten ++ [] ∨
        List.Sublist (state.port.taken event ++ ((state.port.onEvent event).inBank.bytes ++
            state.writing WritePc.unwritten))
          (state.port.inBank.bytes ++ state.writing WritePc.unwritten ++ []) ∧ _
      rw [List.append_nil, ← List.append_assoc]
      cases clears : event.clearsBanks with
      | false => exact .inl (congrArg (· ++ _) (UsbPort.taken_append_onEvent clears))
      | true =>
          refine .inr ⟨(state.port.taken_append_onEvent_sublist event).append_right _, ?_⟩
          simp [Delivers, AttachedPoint.delivers, clears]

theorem inChannel_lossy (config : Config) : (inChannel config).Lossy := by
  intro state act
  rcases @inChannel_step config state act with same | ⟨fewer, _⟩
  · rw [same]
  · exact fewer

theorem inChannel_lossless (config : Config) : (inChannel config).Lossless Delivers := by
  intro state act delivers
  rcases @inChannel_step config state act with same | ⟨_, closed⟩
  · exact same
  · exact absurd delivers closed

/-- A call that is under way ends with its own byte written. -/
theorem writeCalls_lossless (config : Config) :
    (writeCalls config).Lossless fun _ _ => True := by
  intro state act _
  cases act with
  | foreground answer =>
      change state.writtenBy (.foreground answer) ++
          ((attached config).step state (.foreground answer)).writing WritePc.underWay =
        state.writing WritePc.underWay ++ state.writing WritePc.begins
      rcases usbWrite_or_not state with ⟨byte, writes⟩ | outside
      · rw [writing_step writes, writing_of_usbWrite writes, writing_of_usbWrite writes,
          underWay_append_begins, AttachedPoint.writtenBy, AttachedPoint.programAct,
          call_of_usbWrite state writes, writes]
        cases goes : (state.port.usbWrite byte state.writePc answer).1 with
        | none => rfl
        | some next => exact underWay_usbWrite goes
      · rw [writing_step_of_not_usbWrite outside answer fun _ => rfl,
          writing_of_not_usbWrite outside, writing_of_not_usbWrite outside,
          AttachedPoint.writtenBy, programAct_of_not_usbWrite outside]
        cases here : state.point.pc with
        | usbWrite byte => exact absurd here (outside byte)
        | _ => rfl
  | interrupt irq => exact (List.append_nil _).symm
  | usb event => exact (List.append_nil _).symm

/-- The bytes written are those the program passes to `usb_write`. -/
theorem collect_writtenBy (config : Config) (state : AttachedPoint) (acts : List AttachedAct) :
    (attached config).collect AttachedPoint.writtenBy state acts =
      (interleaved config).outputs state.point (programTrace config state acts) := by
  rw [← Machine.collect_emit, collect_programTrace]
  congr 1
  funext state act
  cases act with
  | foreground answer =>
      cases finished : state.programAct (.foreground answer) with
      | none => simp [AttachedPoint.writtenBy, finished]
      | some act =>
          have statement := programAct_foreground state finished
          simp [AttachedPoint.writtenBy, finished, statement]
  | interrupt irq => rfl
  | usb event => rfl

/-- The calls begun are those finished and the one under way. -/
theorem collect_begunBy (config : Config) {state : AttachedPoint}
    (between : ∀ byte, state.point.pc ≠ .usbWrite byte) (acts : List AttachedAct) :
    (attached config).collect AttachedPoint.begunBy state acts =
      (interleaved config).outputs state.point (programTrace config state acts) ++
        ((attached config).run state acts).writing WritePc.underWay := by
  have written := (writeCalls_lossless config).run (Machine.along_true state acts)
  change (attached config).collect AttachedPoint.writtenBy state acts ++
      ((attached config).run state acts).writing WritePc.underWay =
    state.writing WritePc.underWay ++ (attached config).collect AttachedPoint.begunBy state acts
    at written
  rw [writing_of_not_usbWrite between, List.nil_append, collect_writtenBy] at written
  exact written.symm

/-- Outside `usb_write` the channel holds what is in the bank. -/
theorem inChannel_held (config : Config) {state : AttachedPoint}
    (between : ∀ byte, state.point.pc ≠ .usbWrite byte) :
    (inChannel config).held state = state.port.inBank.bytes := by
  change state.port.inBank.bytes ++ state.writing WritePc.unwritten = _
  rw [writing_of_not_usbWrite between, List.append_nil]

end Channels

/-- Whatever the bus does, the host takes only bytes that were passed to
`usb_write`, in order and none twice. While the port stays open, no bank is
cleared and no wait is given up, it takes them all but those still in the bank
or on their way into it. -/
theorem reports_reach_host_in_order (config : Config) (state : AttachedPoint)
    (between : ∀ byte, state.point.pc ≠ .usbWrite byte) (acts : List AttachedAct) :
    List.Sublist
        ((attached config).outputs state acts ++
          (((attached config).run state acts).port.inBank.bytes ++
            ((attached config).run state acts).writing WritePc.unwritten))
        (state.port.inBank.bytes ++
          ((interleaved config).outputs state.point (programTrace config state acts) ++
            ((attached config).run state acts).writing WritePc.underWay)) ∧
      ((attached config).Along Delivers state acts →
        (attached config).outputs state acts ++
            (((attached config).run state acts).port.inBank.bytes ++
              ((attached config).run state acts).writing WritePc.unwritten) =
          state.port.inBank.bytes ++
            ((interleaved config).outputs state.point (programTrace config state acts) ++
              ((attached config).run state acts).writing WritePc.underWay)) := by
  rw [← Machine.collect_emit, ← collect_begunBy config between, ← inChannel_held config between]
  constructor
  · exact (inChannel_lossy config).run state acts
  · exact (inChannel_lossless config).run

theorem askingOpened_idle : askingOpened.point.pc.answering = false := by decide +kernel

/-- A report is asked for, written and taken by the host. -/
def oneReport : List AttachedAct :=
  .interrupt .timer :: loopRounds 10 ++ [AttachedAct.usb .inToken]

theorem oneReport_reaches_host :
    (attached makefileConfig).outputs askingOpened oneReport ++
        (((attached makefileConfig).run askingOpened oneReport).port.inBank.bytes ++
          ((attached makefileConfig).run askingOpened oneReport).writing WritePc.unwritten) =
      askingOpened.port.inBank.bytes ++
        ((interleaved makefileConfig).outputs askingOpened.point
            (programTrace makefileConfig askingOpened oneReport) ++
          ((attached makefileConfig).run askingOpened oneReport).writing WritePc.underWay) :=
  (reports_reach_host_in_order makefileConfig askingOpened
    (fun _ writing => Bool.noConfusion (askingOpened_idle.symm.trans
      (congrArg Pc.answering writing))) oneReport).2 (by decide +kernel)

example : (attached makefileConfig).outputs askingOpened oneReport = [0] := by decide +kernel

/-! ## How long usb_write waits -/

/-- The rounds and new frames left before `usb_write` returns. -/
def WritePc.left : WritePc → Nat
  | flushWait timeoutMsRem _ => timeoutMsRem.toNat
  | flush => 101
  | testDtrAgain => 102
  | sendWait timeoutMsRem _ => 103 + timeoutMsRem.toNat
  | sendByte => 204
  | testDtr => 205

/-- A round that does not wait, or waits and finds a new frame. -/
def WritePc.advances (answer : BusAnswer) : WritePc → Bool
  | sendWait _ previousFrameNumber | flushWait _ previousFrameNumber =>
      answer.frameNumber != previousFrameNumber
  | _ => true

/-- A round of the main loop that brings `usb_write` nearer to its end. -/
def AttachedPoint.advances (state : AttachedPoint) : AttachedAct → Bool
  | .foreground answer => state.writePc.advances answer
  | _ => false

/-- A round that waits on has used up a frame, or found none. -/
theorem left_waitUntilReady {port : UsbPort} {timeoutMsRem rem : UInt8}
    {previousFrameNumber frameNumber : UInt16} {answer : BusAnswer}
    (waits : port.waitUntilReady timeoutMsRem previousFrameNumber answer =
      .inr (rem, frameNumber)) :
    rem.toNat + (if answer.frameNumber != previousFrameNumber then 1 else 0) =
      timeoutMsRem.toNat := by
  unfold UsbPort.waitUntilReady at waits
  split_ifs at waits with _ _ _ _ new last
  · cases waits
    have some_ : timeoutMsRem ≠ 0 := fun none => last (by simp [none])
    rw [if_pos new, Counter.toNat_pred some_]
    have positive := Counter.toNat_pred some_
    have pos : 0 < timeoutMsRem.toNat := by
      refine Nat.pos_of_ne_zero fun zero => some_ (UInt8.toNat_inj.mp zero)
    omega
  · cases waits
    rw [if_neg new]
    rfl

/-- A round leads to the end of `usb_write` or nearer to it. -/
theorem left_usbWrite {port : UsbPort} {byte : UInt8} {pc next : WritePc} {answer : BusAnswer}
    (goes : (port.usbWrite byte pc answer).1 = some next) :
    next.left + (if pc.advances answer then 1 else 0) ≤ pc.left := by
  cases pc with
  | testDtr | testDtrAgain =>
      simp only [UsbPort.usbWrite] at goes
      split_ifs at goes
      cases goes
      exact Nat.le_refl _
  | sendByte | flush =>
      simp only [UsbPort.usbWrite] at goes
      split_ifs at goes <;> cases goes <;> exact Nat.le_of_ble_eq_true rfl
  | sendWait timeoutMsRem previousFrameNumber =>
      cases waits : port.waitUntilReady timeoutMsRem previousFrameNumber answer with
      | inr counters =>
          simp only [UsbPort.usbWrite, waits] at goes
          cases goes
          have used := left_waitUntilReady waits
          rw [WritePc.left, WritePc.left, Nat.add_assoc]
          exact Nat.le_of_eq (congrArg (103 + ·) used)
      | inl result =>
          cases result with
          | noError =>
              simp only [UsbPort.usbWrite, waits] at goes
              cases goes
              simp only [WritePc.left]
              split_ifs <;> omega
          | endpointStalled | deviceDisconnected | busSuspended | timeout =>
              simp only [UsbPort.usbWrite, waits] at goes
              cases goes
  | flushWait timeoutMsRem previousFrameNumber =>
      cases waits : port.waitUntilReady timeoutMsRem previousFrameNumber answer with
      | inr counters =>
          simp only [UsbPort.usbWrite, waits] at goes
          cases goes
          exact Nat.le_of_eq (left_waitUntilReady waits)
      | inl result =>
          cases result <;>
            · simp only [UsbPort.usbWrite, waits] at goes
              cases goes

/-- A round of `usb_write` returns to `poll_usb` or goes on in the call. -/
theorem usbWrite_round (config : Config) {state : AttachedPoint} {byte : UInt8}
    (writing : state.point.pc = .usbWrite byte) (answer : BusAnswer) :
    ((attached config).step state (.foreground answer)).point.pc = .clearSendStatus ∨
      ∃ next, (state.port.usbWrite byte state.writePc answer).1 = some next ∧
        ((attached config).step state (.foreground answer)).point.pc = .usbWrite byte ∧
        ((attached config).step state (.foreground answer)).writePc = next := by
  rw [attached_step_point, attached_step_writePc, AttachedPoint.writePcAfter,
    AttachedPoint.programAct, call_of_usbWrite state writing]
  cases (state.port.usbWrite byte state.writePc answer).1 with
  | none =>
      refine .inl ?_
      change (state.point.shared.pollUsbStatement state.point.pc state.answer).1 = _
      rw [writing]
      rfl
  | some next => exact .inr ⟨next, rfl, writing, rfl⟩

/-- The frames and rounds left of a call of `usb_write`. -/
def towardsReturn (config : Config) (byte : UInt8) :
    Progress (attached config) fun _ _ => True where
  within state := state.point.pc = .usbWrite byte
  done state := state.point.pc = .clearSendStatus
  rank state := state.writePc.left
  counts := AttachedPoint.advances
  step state act writing _ := by
    cases act with
    | foreground answer =>
        rcases usbWrite_round config writing answer with returns | ⟨next, goes, still, same⟩
        · exact .inl returns
        · refine .inr ⟨still, ?_⟩
          rw [same]
          exact left_usbWrite goes
    | interrupt irq => exact .inr ⟨writing, Nat.le_refl _⟩
    | usb event => exact .inr ⟨writing, Nat.le_refl _⟩

/-- The counters of a wait start from `USB_STREAM_TIMEOUT_MS`. -/
theorem left_of_reachable {config : Config} {state : AttachedPoint}
    (reachable : (attached config).Reachable state) : state.writePc.left ≤ 205 := by
  refine @Machine.Reachable.induction _ _ _ (attached config)
    (fun state => state.writePc.left ≤ 205) _ reachable (Nat.le_refl _) ?_
  intro state act bounded
  cases act with
  | foreground answer =>
      rw [attached_step_writePc, AttachedPoint.writePcAfter]
      cases goes : (state.call answer).1 with
      | none => exact Nat.le_refl _
      | some next =>
          obtain ⟨⟨pc, device⟩, port, writePc⟩ := state
          cases pc with
          | usbWrite byte =>
              exact Nat.le_trans (Nat.le_of_add_right_le (left_usbWrite goes)) bounded
          | _ => cases goes
  | interrupt irq => exact bounded
  | usb event => exact bounded

/-- `usb_write` has returned after 206 rounds that each go on or find a new frame,
whatever the host does with its bank and whatever interrupts the main loop. -/
theorem usb_write_returns (config : Config) (state : AttachedPoint)
    (reachable : (attached config).Reachable state) (byte : UInt8)
    (writing : state.point.pc = .usbWrite byte) (acts : List AttachedAct)
    (enough : 205 < (attached config).countAlong AttachedPoint.advances state acts) :
    ∃ earlier later, acts = earlier ++ later ∧
      ((attached config).run state earlier).point.pc = .clearSendStatus :=
  (towardsReturn config byte).run writing (Machine.along_true state acts)
    (Nat.lt_of_le_of_lt (left_of_reachable reachable) enough)

/-- A second report while the host has not taken the first. -/
def secondReport : List AttachedAct :=
  plugIn ++ loopRounds 1 ++ AttachedAct.interrupt .timer :: loopRounds 10 ++
    AttachedAct.interrupt .timer :: loopRounds 6

/-- Rounds of the main loop that each find a new frame. -/
def framesPass : Nat → List AttachedAct
  | 0 => []
  | count + 1 => .foreground ⟨UInt16.ofNat count, false⟩ :: framesPass count

theorem second_report_returns :
    ∃ earlier later, framesPass 206 = earlier ++ later ∧
      ((attached makefileConfig).run ((attached makefileConfig).run .reset secondReport)
        earlier).point.pc = .clearSendStatus :=
  usb_write_returns makefileConfig ((attached makefileConfig).run .reset secondReport)
    ⟨secondReport, rfl⟩ 0 (by decide +kernel) (framesPass 206) (by decide +kernel)

/-! A host that is gone sends no frames; `usb_write` does not wait for them. -/

/-- The cable is out or the bus is suspended. -/
def Detached (state : AttachedPoint) (_ : AttachedAct) : Prop :=
  state.port.deviceState = .unattached ∨ state.port.deviceState = .suspended

instance Detached.decidable (state : AttachedPoint) (act : AttachedAct) :
    Decidable (Detached state act) :=
  inferInstanceAs (Decidable (_ ∨ _))

/-- The rounds left of a call before its last one while the host is gone. -/
def WritePc.roundsDetached : WritePc → Nat
  | sendByte | flush | flushWait _ _ => 0
  | testDtr | testDtrAgain => 1
  | sendWait _ _ => 2

theorem roundsDetached_le (pc : WritePc) : pc.roundsDetached ≤ 2 := by
  cases pc with
  | sendByte | flush | flushWait rem frame => exact Nat.zero_le 2
  | testDtr | testDtrAgain => exact Nat.le_succ 1
  | sendWait rem frame => exact Nat.le_refl 2

/-- No wait goes on while the host is gone. -/
theorem waitUntilReady_detached {port : UsbPort} {timeoutMsRem : UInt8}
    {previousFrameNumber : UInt16} {answer : BusAnswer}
    (gone : port.deviceState = .unattached ∨ port.deviceState = .suspended) :
    ∃ result, port.waitUntilReady timeoutMsRem previousFrameNumber answer = .inl result := by
  by_cases ready : port.inBank.isInReady
  · exact ⟨.noError, if_pos ready⟩
  rcases gone with unattached | suspended
  · exact ⟨.deviceDisconnected, by simp [UsbPort.waitUntilReady, ready, unattached]⟩
  · exact ⟨.busSuspended, by simp [UsbPort.waitUntilReady, ready, suspended]⟩

theorem roundsDetached_usbWrite {port : UsbPort} {byte : UInt8} {pc next : WritePc}
    {answer : BusAnswer}
    (gone : port.deviceState = .unattached ∨ port.deviceState = .suspended)
    (goes : (port.usbWrite byte pc answer).1 = some next) :
    next.roundsDetached + 1 ≤ pc.roundsDetached := by
  have closed : port.isOpen = false := by
    rcases gone with unattached | suspended
    · simp [UsbPort.isOpen, unattached]
    · simp [UsbPort.isOpen, suspended]
  cases pc with
  | testDtr | testDtrAgain =>
      simp only [UsbPort.usbWrite] at goes
      split_ifs at goes
      cases goes
      exact Nat.le_refl 1
  | sendByte | flush => simp [UsbPort.usbWrite, closed] at goes
  | sendWait timeoutMsRem previousFrameNumber =>
      obtain ⟨result, waits⟩ :=
        @waitUntilReady_detached port timeoutMsRem previousFrameNumber answer gone
      cases result with
      | noError =>
          simp only [UsbPort.usbWrite, waits] at goes
          cases goes
          exact Nat.le_refl 2
      | endpointStalled | deviceDisconnected | busSuspended | timeout =>
          simp [UsbPort.usbWrite, waits] at goes
  | flushWait timeoutMsRem previousFrameNumber =>
      obtain ⟨result, waits⟩ :=
        @waitUntilReady_detached port timeoutMsRem previousFrameNumber answer gone
      cases result <;> simp [UsbPort.usbWrite, waits] at goes

/-- The rounds left of a call of `usb_write` while the host is gone. -/
def towardsReturnDetached (config : Config) (byte : UInt8) :
    Progress (attached config) Detached where
  within state := state.point.pc = .usbWrite byte
  done state := state.point.pc = .clearSendStatus
  rank state := state.writePc.roundsDetached
  counts _ act := act.isRound
  step state act writing gone := by
    cases act with
    | foreground answer =>
        rcases usbWrite_round config writing answer with returns | ⟨next, goes, still, same⟩
        · exact .inl returns
        · refine .inr ⟨still, ?_⟩
          rw [same]
          exact roundsDetached_usbWrite gone goes
    | interrupt irq => exact .inr ⟨writing, Nat.le_refl _⟩
    | usb event => exact .inr ⟨writing, Nat.le_refl _⟩

/-- Without a host `usb_write` returns within three rounds, wherever it was when
the cable was pulled or the bus suspended and whatever was left in the bank. -/
theorem usb_write_returns_detached (config : Config) (state : AttachedPoint) (byte : UInt8)
    (writing : state.point.pc = .usbWrite byte) (acts : List AttachedAct)
    (gone : (attached config).Along Detached state acts)
    (enough : 2 < acts.countP AttachedAct.isRound) :
    ∃ earlier later, acts = earlier ++ later ∧
      ((attached config).run state earlier).point.pc = .clearSendStatus := by
  have rank : (towardsReturnDetached config byte).rank state <
      (attached config).countAlong (towardsReturnDetached config byte).counts state acts := by
    change state.writePc.roundsDetached <
      (attached config).countAlong (fun _ act => act.isRound) state acts
    rw [(attached config).countAlong_const]
    exact Nat.lt_of_le_of_lt (roundsDetached_le state.writePc) enough
  exact (towardsReturnDetached config byte).run writing gone rank

/-- The cable is pulled while a second report waits for the host. -/
def pulledInReport : List AttachedAct := secondReport ++ loopRounds 3 ++ [.usb (.vbus false)]

theorem pulled_report_returns :
    ∃ earlier later, loopRounds 3 = earlier ++ later ∧
      ((attached makefileConfig).run ((attached makefileConfig).run .reset pulledInReport)
        earlier).point.pc = .clearSendStatus :=
  usb_write_returns_detached makefileConfig ((attached makefileConfig).run .reset pulledInReport)
    0 (by decide +kernel) (loopRounds 3) (by decide +kernel) (by decide +kernel)

/-! ## Packets of one byte -/

/-- DTR is still set at its second test, and the port still open at the flush. -/
def StillOpen (state : AttachedPoint) : AttachedAct → Prop
  | .foreground _ => (state.writePc = .testDtrAgain → state.port.dtr = true) ∧
      (state.writePc = .flush → state.port.isOpen = true)
  | _ => True

instance StillOpen.decidable (state : AttachedPoint) :
    (act : AttachedAct) → Decidable (StillOpen state act)
  | .foreground _ => inferInstanceAs (Decidable ((_ → _ = true) ∧ (_ → _ = true)))
  | .interrupt _ | .usb _ => .isTrue trivial

/-- The bank is empty or has one byte, which is flushed before the next is written. -/
def OneByte (bank : InBank) : WritePc → Prop
  | .testDtrAgain | .flush => ∃ bytes, bank = .filling bytes ∧ bytes.length ≤ 1
  | .flushWait _ _ => False
  | _ => bank = .filling [] ∨ ∃ byte, bank = .handed [byte]

section OneByte

variable {config : Config} {state : AttachedPoint} {port : UsbPort} {pc : WritePc}

theorem oneByte_empty (waits : ∀ rem frame, pc ≠ .flushWait rem frame) :
    OneByte (.filling []) pc := by
  cases pc with
  | flushWait rem frame => exact absurd rfl (waits rem frame)
  | testDtrAgain | flush => exact ⟨[], rfl, Nat.zero_le 1⟩
  | _ => exact .inl rfl

theorem OneByte.not_waiting {bank : InBank} (one : OneByte bank pc) (rem : UInt8)
    (frame : UInt16) : pc ≠ .flushWait rem frame := by
  rintro rfl
  exact one

/-- A round that finds the port still open leaves at most one byte in the bank. -/
theorem OneByte.usbWrite (one : OneByte port.inBank pc)
    (dtr : pc = .testDtrAgain → port.dtr = true) (opened : pc = .flush → port.isOpen = true)
    (byte : UInt8) (answer : BusAnswer) :
    OneByte (port.usbWrite byte pc answer).2.inBank
      ((port.usbWrite byte pc answer).1.getD .testDtr) := by
  cases pc with
  | testDtr =>
      simp only [UsbPort.usbWrite]
      split_ifs <;> exact one
  | sendByte =>
      cases opens : port.isOpen with
      | false =>
          have kept : OneByte port.inBank .testDtr := one
          simpa [UsbPort.usbWrite, opens] using kept
      | true =>
          rcases one with empty | ⟨held, full⟩
          · simp [UsbPort.usbWrite, opens, empty, InBank.isReadWriteAllowed, InBank.write8,
              cdcTxRxEpSize, OneByte]
          · simp [UsbPort.usbWrite, opens, full, InBank.isReadWriteAllowed, InBank.clearIn,
              OneByte]
  | sendWait timeoutMsRem previousFrameNumber =>
      cases waits : port.waitUntilReady timeoutMsRem previousFrameNumber answer with
      | inr counters =>
          have kept : OneByte port.inBank (.sendWait counters.1 counters.2) := one
          simpa [UsbPort.usbWrite, waits] using kept
      | inl result =>
          cases result with
          | noError =>
              have ready := isInReady_of_noError waits
              rcases one with empty | ⟨held, full⟩
              · simp [UsbPort.usbWrite, waits, empty, InBank.write8, OneByte]
              · rw [full] at ready
                cases ready
          | endpointStalled | deviceDisconnected | busSuspended | timeout =>
              have kept : OneByte port.inBank .testDtr := one
              simpa [UsbPort.usbWrite, waits] using kept
  | testDtrAgain =>
      have kept : OneByte port.inBank .flush := one
      simpa [UsbPort.usbWrite, dtr rfl] using kept
  | flush =>
      obtain ⟨bytes, filling, short⟩ := one
      rcases bytes with _ | ⟨held, _ | ⟨next, rest⟩⟩
      · simp [UsbPort.usbWrite, opened rfl, filling, InBank.bytesInEndpoint, OneByte]
      · simp [UsbPort.usbWrite, opened rfl, filling, InBank.bytesInEndpoint,
          InBank.isReadWriteAllowed, InBank.clearIn, cdcTxRxEpSize, OneByte]
      · simp at short
  | flushWait rem frame => exact one.elim

/-- An event hands a byte to the host, discards the bank or leaves it alone. -/
theorem OneByte.onEvent (one : OneByte port.inBank pc) (event : UsbEvent) :
    OneByte (port.onEvent event).inBank pc := by
  have empty := oneByte_empty one.not_waiting
  cases event with
  | vbus present => cases present <;> exact one
  | setConfiguration number addressSet =>
      by_cases many : number > 1
      · simpa [UsbPort.onEvent, many] using one
      · simpa [UsbPort.onEvent, many, UsbPort.cdcDeviceConfigureEndpoints] using empty
  | outPacket bytes =>
      simp only [UsbPort.onEvent]
      split_ifs <;> exact one
  | inToken =>
      simp only [UsbPort.onEvent]
      split
      · exact one
      · exact empty
  | dropBanks dropOut dropIn =>
      cases dropIn with
      | true => exact empty
      | false => exact one
  | _ => exact one

/-- What a statement other than `usb_write` leaves behind: the next call begins
with its first test. -/
def Rests (state : AttachedPoint) : Prop :=
  (∀ byte, state.point.pc ≠ .usbWrite byte) → state.writePc = .testDtr

theorem Rests.step (rests : Rests state) (act : AttachedAct) :
    Rests ((attached config).step state act) := by
  intro outside
  cases act with
  | foreground answer =>
      rw [attached_step_writePc, AttachedPoint.writePcAfter]
      cases goes : (state.call answer).1 with
      | none => rfl
      | some next =>
          have stays : ((attached config).step state (.foreground answer)).point = state.point := by
            rw [attached_step_point, AttachedPoint.programAct, goes]
            rfl
          rw [stays] at outside
          rw [(call_of_not_usbWrite outside answer).1] at goes
          cases goes
  | interrupt irq =>
      exact rests outside
  | usb event =>
      exact rests outside

/-- A step that finds the port still open keeps at most one byte in the bank. -/
theorem OneByte.step (rests : Rests state) (one : OneByte state.port.inBank state.writePc)
    {act : AttachedAct} (still : StillOpen state act) :
    OneByte ((attached config).step state act).port.inBank
      ((attached config).step state act).writePc := by
  cases act with
  | foreground answer =>
      rw [attached_step_port, attached_step_writePc, AttachedPoint.portAfter,
        AttachedPoint.writePcAfter]
      rcases usbWrite_or_not state with ⟨byte, writes⟩ | outside
      · rw [call_of_usbWrite state writes]
        exact one.usbWrite still.1 still.2 byte answer
      · obtain ⟨returns, same⟩ := call_of_not_usbWrite outside answer
        rw [returns, same]
        rw [rests outside] at one
        exact one
  | interrupt irq => exact one
  | usb event => exact one.onEvent event

theorem OneByte.taken (one : OneByte port.inBank pc) (event : UsbEvent) :
    (port.taken event).length ≤ 1 := by
  cases event with
  | inToken =>
      cases bank : port.inBank with
      | filling bytes => simp [UsbPort.taken, bank]
      | handed bytes =>
          rw [bank] at one
          cases pc with
          | testDtrAgain | flush =>
              obtain ⟨held, filling, _⟩ := one
              cases filling
          | flushWait rem frame => exact one.elim
          | testDtr | sendByte | sendWait timeoutMsRem previousFrameNumber =>
              rcases one with filling | ⟨byte, single⟩
              · cases filling
              · simp [UsbPort.taken, bank, InBank.handed.inj single]
  | _ => exact Nat.zero_le 1

end OneByte

/-- While no call of `usb_write` finds the port closed between its byte and its
flush, every packet the host takes has at most one byte, and `CDC_Device_Flush`
never waits for the bank. -/
theorem packets_of_one_byte (config : Config) (acts : List AttachedAct)
    (still : (attached config).Along StillOpen .reset acts) (event : UsbEvent) :
    (((attached config).run .reset acts).port.taken event).length ≤ 1 ∧
      ∀ rem frame, ((attached config).run .reset acts).writePc ≠ .flushWait rem frame := by
  have kept : Rests ((attached config).run .reset acts) ∧
      OneByte ((attached config).run .reset acts).port.inBank
        ((attached config).run .reset acts).writePc := by
    have preserved : ∀ state act, (Rests state ∧ OneByte state.port.inBank state.writePc) →
        StillOpen state act → Rests ((attached config).step state act) ∧
          OneByte ((attached config).step state act).port.inBank
            ((attached config).step state act).writePc :=
      fun state act ⟨rests, one⟩ open_ => ⟨rests.step act, one.step rests open_⟩
    exact (attached config).run_induction preserved ⟨fun _ => rfl, .inl rfl⟩ still
  exact ⟨kept.2.taken event, kept.2.not_waiting⟩

theorem second_report_of_one_byte :
    (((attached makefileConfig).run .reset secondReport).port.taken .inToken).length ≤ 1 ∧
      ∀ rem frame,
        ((attached makefileConfig).run .reset secondReport).writePc ≠ .flushWait rem frame :=
  packets_of_one_byte makefileConfig secondReport (by decide +kernel) .inToken

end DomeHeartbeat
