import DomeHeartbeat.Attached.DeadHost
import DomeHeartbeat.Attached.Reports
import DomeHeartbeat.Reactive.Account

/-!
# What the host is told after a trip

Once the latch is set, only reports from before can tell the host of a device
that is still armed or disabled. Until it sends a zero byte it takes no such
report but those waiting in the bank and one that was on its way there
(`trip_is_reported`), whatever else it sends and whatever happens on the bus.
-/

namespace DomeHeartbeat

open Reactive

/-- A report of a device whose latch is not set. -/
def tellsUntriggered (byte : UInt8) : Bool := byte != 254 && byte != 255

/-- The byte of a call that is not in the bank yet. -/
def WritePc.toWrite (byte : UInt8) : WritePc → List UInt8
  | testDtr | sendByte | sendWait _ _ => [byte]
  | _ => []

theorem unwritten_append_begins (byte : UInt8) (pc : WritePc) :
    pc.unwritten byte ++ pc.begins byte = pc.toWrite byte := by
  cases pc <;> rfl

/-- The reports of an unset latch that are made or under way at a statement but
not in the bank yet. -/
def Pc.staleOnTheWay (writePc : WritePc) : Pc → Nat
  | readHeartbeat => 1
  | usbWrite byte => (writePc.toWrite byte).countP tellsUntriggered
  | _ => 0

/-- The reports of an unset latch that the host may still take. -/
def AttachedPoint.stale (state : AttachedPoint) : Nat :=
  state.port.inBank.bytes.countP tellsUntriggered +
    state.point.pc.staleOnTheWay state.writePc

section Steps

theorem staleOnTheWay_le (writePc : WritePc) (pc : Pc) : pc.staleOnTheWay writePc ≤ 1 := by
  cases pc with
  | usbWrite byte =>
      have one : (writePc.toWrite byte).length ≤ 1 := by
        cases writePc with
        | testDtr | sendByte | sendWait timeoutMsRem previousFrameNumber => exact Nat.le_refl 1
        | testDtrAgain | flush | flushWait timeoutMsRem previousFrameNumber => exact Nat.zero_le 1
      exact List.countP_le_length.trans one
  | readHeartbeat => exact Nat.le_refl 1
  | _ => exact Nat.zero_le 1

theorem staleOnTheWay_received (writePc : WritePc) (value : UInt8) :
    (Pc.received value).staleOnTheWay writePc = 0 := by
  unfold Pc.received
  split_ifs <;> rfl

/-- A round of `usb_write` puts the byte into the bank, keeps it or gives it up. -/
theorem stale_usbWrite (port : UsbPort) (byte : UInt8) (pc : WritePc) (answer : BusAnswer) :
    (port.usbWrite byte pc answer).2.inBank.bytes.countP tellsUntriggered +
        ((port.usbWrite byte pc answer).1.elim [] (WritePc.toWrite byte)).countP
          tellsUntriggered ≤
      port.inBank.bytes.countP tellsUntriggered +
        (pc.toWrite byte).countP tellsUntriggered := by
  have goesOn : (port.usbWrite byte pc answer).1.elim [] (WritePc.toWrite byte) =
      (port.usbWrite byte pc answer).1.elim [] (WritePc.unwritten byte) := by
    cases goes : (port.usbWrite byte pc answer).1 with
    | none => rfl
    | some next =>
        have started := underWay_usbWrite goes
        cases next with
        | testDtr => cases started
        | _ => rfl
  rw [goesOn, ← List.countP_append]
  rcases @usbWrite_flow port byte pc answer with same | ⟨same, _⟩
  · rw [same, unwritten_append_begins, List.countP_append]
  · rw [same]
    exact Nat.le_add_right _ _

/-- A report that reads the latch while it is set does not tell of an unset one. -/
theorem stale_statement {device : Device} (triggered : device.triggered = true) (pc : Pc)
    (answer : UsbAnswer) (writePc : WritePc) (outside : ∀ byte, pc ≠ .usbWrite byte) :
    (device.pollUsbStatement pc answer).1.staleOnTheWay .testDtr ≤ pc.staleOnTheWay writePc := by
  cases pc with
  | usbWrite byte => exact absurd rfl (outside byte)
  | readHeartbeat => exact staleOnTheWay_le _ _
  | readTriggered =>
      rw [Device.pollUsbStatement_readTriggered_latched answer triggered]
      exact Nat.le_refl 0
  | usbRead =>
      cases read : answer.read with
      | none =>
          rw [Device.pollUsbStatement_usbRead_none answer read]
          exact Nat.le_refl 0
      | some value =>
          rw [Device.pollUsbStatement_usbRead_some answer read, staleOnTheWay_received]
          exact Nat.le_refl 0
  | readActive | usbCanRead | testSendStatus | testTriggered value =>
      simp only [Device.pollUsbStatement]
      split_ifs <;> exact Nat.le_refl 0
  | _ => exact Nat.le_refl 0

/-- A round of `usb_write` or another statement of the main loop adds no such report. -/
theorem stale_foreground (config : Config) {state : AttachedPoint}
    (triggered : state.point.shared.triggered = true) (answer : BusAnswer) :
    ((attached config).step state (.foreground answer)).stale ≤ state.stale := by
  rcases usbWrite_or_not state with ⟨byte, writing⟩ | outside
  · have round := stale_usbWrite state.port byte state.writePc answer
    have before : state.point.pc.staleOnTheWay state.writePc =
        (state.writePc.toWrite byte).countP tellsUntriggered := by
      rw [writing]
      rfl
    rw [AttachedPoint.stale, AttachedPoint.stale, attached_step_point, attached_step_port,
      attached_step_writePc, AttachedPoint.portAfter, AttachedPoint.writePcAfter,
      AttachedPoint.programAct, call_of_usbWrite state writing, before]
    cases goes : (state.port.usbWrite byte state.writePc answer).1 with
    | none =>
        have returns : (state.point.shared.pollUsbStatement state.point.pc state.answer).1 =
            .clearSendStatus := by
          rw [writing]
          rfl
        rw [goes] at round
        change _ + Pc.staleOnTheWay _
          (state.point.shared.pollUsbStatement state.point.pc state.answer).1 ≤ _
        rw [returns]
        exact round
    | some next =>
        rw [goes] at round
        change _ + Pc.staleOnTheWay next state.point.pc ≤ _
        rw [writing]
        exact round
  · obtain ⟨returns, same⟩ := call_of_not_usbWrite outside answer
    have after := stale_statement triggered state.point.pc state.answer state.writePc outside
    rw [AttachedPoint.stale, AttachedPoint.stale, attached_step_point, attached_step_port,
      attached_step_writePc, AttachedPoint.portAfter, AttachedPoint.writePcAfter,
      AttachedPoint.programAct, returns, same]
    exact Nat.add_le_add_left after _

/-- What the host takes comes out of the reports it may still take. -/
theorem stale_step (config : Config) {state : AttachedPoint}
    (triggered : state.point.shared.triggered = true) (act : AttachedAct) :
    ((attached config).emit state act).countP tellsUntriggered +
        ((attached config).step state act).stale ≤ state.stale := by
  cases act with
  | foreground answer =>
      rw [attached_emit_foreground, List.countP_nil, Nat.zero_add]
      exact stale_foreground config triggered answer
  | interrupt irq => exact Nat.le_of_eq (Nat.zero_add _)
  | usb event =>
      have fewer : (state.port.taken event ++ (state.port.onEvent event).inBank.bytes).countP
          tellsUntriggered ≤ state.port.inBank.bytes.countP tellsUntriggered :=
        (state.port.taken_append_onEvent_sublist event).countP_le
      rw [List.countP_append] at fewer
      change (state.port.taken event).countP tellsUntriggered +
        ((state.port.onEvent event).inBank.bytes.countP tellsUntriggered +
          state.point.pc.staleOnTheWay state.writePc) ≤ state.stale
      rw [AttachedPoint.stale]
      omega

end Steps

/-- The reports made before the trip pay for what the host takes. -/
def staleAccount (config : Config) : Account (attached config) SendsNoZero where
  within := Tripped
  balance := AttachedPoint.stale
  spent state act := ((attached config).emit state act).countP tellsUntriggered
  income _ _ := 0
  preserved _ _ tripped sends := tripped.step sends
  step _ act tripped _ := stale_step config tripped.1 act

/-- Once the latch is set the host takes, until it sends a zero byte, at most one
report of an unset latch besides those waiting in the bank. -/
theorem trip_is_reported (config : Config) (state : AttachedPoint)
    (triggered : state.point.shared.triggered = true) (nonzero : 0 ∉ state.unhandled)
    (acts : List AttachedAct) (sends : (attached config).Along SendsNoZero state acts) :
    ((attached config).outputs state acts).countP tellsUntriggered ≤
      state.port.inBank.bytes.countP tellsUntriggered + 1 := by
  have account : (attached config).sumAlong
        (fun state act => ((attached config).emit state act).countP tellsUntriggered) state acts +
      ((attached config).run state acts).stale ≤
        state.stale + (attached config).sumAlong (fun _ _ => 0) state acts :=
    (staleAccount config).run ⟨triggered, nonzero⟩ sends
  rw [Machine.sumAlong_countP, Machine.collect_emit, Machine.sumAlong_zero, Nat.add_zero]
    at account
  calc ((attached config).outputs state acts).countP tellsUntriggered
    _ ≤ ((attached config).outputs state acts).countP tellsUntriggered +
        ((attached config).run state acts).stale := Nat.le_add_right _ _
    _ ≤ state.stale := account
    _ ≤ state.port.inBank.bytes.countP tellsUntriggered + 1 :=
        Nat.add_le_add_left (staleOnTheWay_le state.writePc state.point.pc) _

/-- A timeout of 1 runs out while the first report is still in the bank. -/
def trippedAfterReport : AttachedPoint :=
  (attached makefileConfig).run .reset
    (plugIn ++ loopRounds 1 ++ AttachedAct.interrupt .timer :: loopRounds 10 ++
      AttachedAct.usb (.outPacket [1]) :: loopRounds 9 ++ [AttachedAct.interrupt .timer])

/-- The host takes two reports and sends a further timeout in between. -/
def reportsAfterTrip : List AttachedAct :=
  AttachedAct.usb .inToken :: AttachedAct.usb (.outPacket [5]) :: loopRounds 18 ++
    [AttachedAct.usb .inToken]

theorem trip_is_reported_to_host :
    ((attached makefileConfig).outputs trippedAfterReport reportsAfterTrip).countP
        tellsUntriggered ≤
      trippedAfterReport.port.inBank.bytes.countP tellsUntriggered + 1 :=
  trip_is_reported makefileConfig trippedAfterReport (by decide +kernel) (by decide +kernel)
    reportsAfterTrip (by decide +kernel)

example : (attached makefileConfig).outputs trippedAfterReport reportsAfterTrip = [0, 254] := by
  decide +kernel

end DomeHeartbeat
