import DomeHeartbeat.Reactive.Machine
import DomeHeartbeat.Firmware.Usb

/-!
# When the traffic LEDs go out

The start-of-frame event and the timer 3 interrupt count the same two pulses
down, but a USB LED only goes out when the start-of-frame event makes the last
count. `leds_go_dark` says that this is all that can leave an LED lit: every
run in which the timer interrupt leaves those counts to the event ends dark.
-/

namespace DomeHeartbeat

open Reactive

/-- A call into `usb.c`, its start-of-frame event, a call of `serial_write`, or
one of the interrupts of `serial.c`. -/
inductive TrafficAct where
  | usbRead (ret : Int)
  | usbWrite (answer : CdcAnswer)
  | startOfFrame
  | serialWrite (byte : UInt8)
  | usart1Udre
  | usart1Rx (byte : UInt8)
  | timer3
deriving DecidableEq, Repr

/-- The board in traffic. Start-of-frame events come only while they are enabled. -/
def traffic : Machine Board TrafficAct Empty where
  initial := .reset
  step board
    | .usbRead ret => (board.usbRead ret).2
    | .usbWrite answer => board.usbWrite answer
    | .startOfFrame => if board.sofEvents then board.eventUsbDeviceStartOfFrame else board
    | .serialWrite byte =>
        { board with transmitter := (board.transmitter.serialWrite byte).getD board.transmitter }
    | .usart1Udre => { board with transmitter := board.transmitter.isrUsart1Udre.1 }
    | .usart1Rx byte => { board with device := board.device.isrUsart1Rx byte }
    | .timer3 => board.isrTimer3Compa
  emit _ _ := []

namespace Board

/-- No handler has anything left to do for the LEDs. -/
def Quiescent (board : Board) : Prop :=
  board.transmitter.txLedPulse = 0 ∧ board.device.rxLedPulse = 0 ∧ board.sofEvents = false

/-- All four traffic LEDs are off. -/
def Dark (board : Board) : Prop :=
  board.usbTxLed = false ∧ board.usbRxLed = false ∧ board.transmitter.txLed = false ∧
    board.device.rxLed = false

/-- A lit USB LED is still being counted down. -/
structure Counting (board : Board) : Prop where
  tx : board.usbTxLed = true → board.transmitter.txLedPulse ≠ 0
  rx : board.usbRxLed = true → board.device.rxLedPulse ≠ 0

/-- A lit USB LED is not counted down any more. -/
def Stuck (board : Board) : Prop :=
  board.transmitter.txLedPulse = 0 ∧ board.usbTxLed = true ∨
    board.device.rxLedPulse = 0 ∧ board.usbRxLed = true

end Board

/-- The timer interrupt does not make the last count of a pulse whose USB LED is lit. -/
def LeavesLastCount (board : Board) (act : TrafficAct) : Prop :=
  act = .timer3 →
    (board.transmitter.txLedPulse = 1 → board.usbTxLed = false) ∧
      (board.device.rxLedPulse = 1 → board.usbRxLed = false)

instance LeavesLastCount.decidable (board : Board) (act : TrafficAct) :
    Decidable (LeavesLastCount board act) :=
  inferInstanceAs (Decidable (_ → _ ∧ _))

namespace Board

section Handlers

variable (board : Board)

theorem timer3_txLedPulse :
    board.isrTimer3Compa.transmitter.txLedPulse.toNat =
      board.transmitter.txLedPulse.toNat - 1 :=
  countPulse_toNat _ _

theorem timer3_rxLedPulse :
    board.isrTimer3Compa.device.rxLedPulse.toNat = board.device.rxLedPulse.toNat - 1 :=
  countPulse_toNat _ _

theorem timer3_usbTxLed : board.isrTimer3Compa.usbTxLed = board.usbTxLed := rfl

theorem timer3_usbRxLed : board.isrTimer3Compa.usbRxLed = board.usbRxLed := rfl

/-- The workaround in the timer interrupt keeps the LEDs of `serial.c` off. -/
theorem timer3_leds (quiescent : board.isrTimer3Compa.Quiescent) :
    board.isrTimer3Compa.transmitter.txLed = false ∧
      board.isrTimer3Compa.device.rxLed = false := by
  obtain ⟨tx, rx, _⟩ := quiescent
  simp only [isrTimer3Compa] at tx rx ⊢
  simp [tx, rx]

theorem startOfFrame_txLedPulse :
    board.eventUsbDeviceStartOfFrame.transmitter.txLedPulse.toNat =
      board.transmitter.txLedPulse.toNat - 1 := by
  unfold eventUsbDeviceStartOfFrame
  dsimp only
  split <;> exact countPulse_toNat _ _

theorem startOfFrame_rxLedPulse :
    board.eventUsbDeviceStartOfFrame.device.rxLedPulse.toNat =
      board.device.rxLedPulse.toNat - 1 := by
  unfold eventUsbDeviceStartOfFrame
  dsimp only
  split <;> exact countPulse_toNat _ _

theorem startOfFrame_leds :
    board.eventUsbDeviceStartOfFrame.usbTxLed =
        (board.usbTxLed && board.transmitter.txLedPulse != 1) ∧
      board.eventUsbDeviceStartOfFrame.usbRxLed =
        (board.usbRxLed && board.device.rxLedPulse != 1) := by
  unfold eventUsbDeviceStartOfFrame
  dsimp only
  split <;> exact ⟨countPulse_led _ _, countPulse_led _ _⟩

/-- With both pulses at zero the event switches itself off. -/
theorem startOfFrame_sofEvents (tx : board.transmitter.txLedPulse = 0)
    (rx : board.device.rxLedPulse = 0) :
    board.eventUsbDeviceStartOfFrame.sofEvents = false := by
  simp [eventUsbDeviceStartOfFrame, countPulse, tx, rx]

end Handlers

theorem Counting.reset : Board.reset.Counting := ⟨nofun, nofun⟩

end Board

theorem usbTxRxLedPulseMs_ne_zero : usbTxRxLedPulseMs ≠ 0 := by decide

theorem txRxLedPulseMs_ne_zero : txRxLedPulseMs ≠ 0 := by decide

/-- Writing a byte leaves the pulse alone, and loading one restarts it. -/
theorem txLedPulse_serialWrite (transmitter : Transmitter) (byte : UInt8) :
    ((transmitter.serialWrite byte).getD transmitter).txLedPulse = transmitter.txLedPulse := by
  rw [Transmitter.serialWrite]
  split <;> rfl

theorem txLedPulse_isrUsart1Udre (transmitter : Transmitter) :
    transmitter.isrUsart1Udre.1.txLedPulse = transmitter.txLedPulse ∨
      transmitter.isrUsart1Udre.1.txLedPulse = txRxLedPulseMs := by
  unfold Transmitter.isrUsart1Udre
  dsimp only
  split_ifs
  · exact .inr rfl
  · exact .inr rfl
  · exact .inl rfl
  · exact .inl rfl

/-- A pulse that makes its last count, or has made it, is zero afterwards. -/
theorem pulse_done {before after : UInt8} (counted : after.toNat = before.toNat - 1)
    (done : before = 0 ∨ before = 1) : after = 0 := by
  rw [← Counter.toNat_eq_zero, counted]
  rcases done with rfl | rfl
  · rfl
  · rfl

/-- A pulse that neither was zero nor makes its last count is not zero afterwards. -/
theorem pulse_left {before after : UInt8} (counted : after.toNat = before.toNat - 1)
    (positive : before ≠ 0) (more : before ≠ 1) : after ≠ 0 := by
  rw [Ne, ← Counter.toNat_eq_zero] at positive
  rw [Ne, ← Counter.toNat_eq_one] at more
  rw [Ne, ← Counter.toNat_eq_zero, counted]
  omega

theorem counting_step {board : Board} (counting : board.Counting) {act : TrafficAct}
    (leaves : LeavesLastCount board act) : (traffic.step board act).Counting := by
  cases act with
  | usbRead ret =>
      change (board.usbRead ret).2.Counting
      rw [Board.usbRead]
      split
      · exact ⟨counting.tx, fun _ => usbTxRxLedPulseMs_ne_zero⟩
      · exact counting
  | usbWrite answer =>
      change (board.usbWrite answer).Counting
      rw [Board.usbWrite]
      split_ifs
      · exact counting
      · exact counting
      · exact counting
      · exact counting
      · exact ⟨fun _ => usbTxRxLedPulseMs_ne_zero, counting.rx⟩
  | startOfFrame =>
      change (if board.sofEvents then board.eventUsbDeviceStartOfFrame else board).Counting
      split
      · obtain ⟨txLed, rxLed⟩ := board.startOfFrame_leds
        constructor
        · intro lit
          rw [txLed, Bool.and_eq_true, bne_iff_ne] at lit
          exact pulse_left board.startOfFrame_txLedPulse (counting.tx lit.1) lit.2
        · intro lit
          rw [rxLed, Bool.and_eq_true, bne_iff_ne] at lit
          exact pulse_left board.startOfFrame_rxLedPulse (counting.rx lit.1) lit.2
      · exact counting
  | serialWrite byte =>
      refine ⟨fun lit => ?_, counting.rx⟩
      change ((board.transmitter.serialWrite byte).getD board.transmitter).txLedPulse ≠ 0
      rw [txLedPulse_serialWrite]
      exact counting.tx lit
  | usart1Udre =>
      refine ⟨fun lit => ?_, counting.rx⟩
      rcases txLedPulse_isrUsart1Udre board.transmitter with kept | restarted
      · exact kept ▸ counting.tx lit
      · exact restarted ▸ txRxLedPulseMs_ne_zero
  | usart1Rx byte => exact ⟨counting.tx, fun _ => txRxLedPulseMs_ne_zero⟩
  | timer3 =>
      obtain ⟨tx, rx⟩ := leaves rfl
      constructor
      · intro lit
        refine pulse_left board.timer3_txLedPulse (counting.tx lit) fun last => ?_
        exact absurd lit (Bool.eq_false_iff.mp (tx last))
      · intro lit
        refine pulse_left board.timer3_rxLedPulse (counting.rx lit) fun last => ?_
        exact absurd lit (Bool.eq_false_iff.mp (rx last))

theorem counting_run {acts : List TrafficAct}
    (leaves : traffic.Along LeavesLastCount .reset acts) : (traffic.run .reset acts).Counting := by
  have preserved : ∀ (board : Board) (act : TrafficAct), board.Counting →
      LeavesLastCount board act → (traffic.step board act).Counting :=
    fun _ _ counting leaves => counting_step counting leaves
  exact Machine.run_induction preserved Board.Counting.reset leaves

/-- A board whose USB LEDs are counting is dark once the timer interrupt finds nothing to do. -/
theorem dark_of_counting {board : Board} (counting : board.isrTimer3Compa.Counting)
    (quiescent : board.isrTimer3Compa.Quiescent) : board.isrTimer3Compa.Dark := by
  obtain ⟨txLed, rxLed⟩ := board.timer3_leds quiescent
  obtain ⟨tx, rx, _⟩ := quiescent
  refine ⟨?_, ?_, txLed, rxLed⟩
  · exact Bool.eq_false_iff.mpr fun lit => counting.tx lit tx
  · exact Bool.eq_false_iff.mpr fun lit => counting.rx lit rx

namespace Board.Stuck

variable {board : Board}

theorem not_dark (stuck : board.Stuck) : ¬ board.Dark := by
  rintro ⟨txOff, rxOff, _⟩
  rcases stuck with ⟨_, lit⟩ | ⟨_, lit⟩
  · exact absurd lit (Bool.eq_false_iff.mp txOff)
  · exact absurd lit (Bool.eq_false_iff.mp rxOff)

theorem timer3 (stuck : board.Stuck) : board.isrTimer3Compa.Stuck := by
  rcases stuck with ⟨zero, lit⟩ | ⟨zero, lit⟩
  · exact .inl ⟨pulse_done board.timer3_txLedPulse (.inl zero), board.timer3_usbTxLed.trans lit⟩
  · exact .inr ⟨pulse_done board.timer3_rxLedPulse (.inl zero), board.timer3_usbRxLed.trans lit⟩

/-- The last count in the timer interrupt leaves the LED stuck. -/
theorem of_last_count (taken : ¬ LeavesLastCount board .timer3) : board.isrTimer3Compa.Stuck := by
  simp only [LeavesLastCount, forall_const, not_and_or, Classical.not_imp,
    Bool.not_eq_false] at taken
  rcases taken with ⟨one, lit⟩ | ⟨one, lit⟩
  · exact .inl ⟨pulse_done board.timer3_txLedPulse (.inr one), board.timer3_usbTxLed.trans lit⟩
  · exact .inr ⟨pulse_done board.timer3_rxLedPulse (.inr one), board.timer3_usbRxLed.trans lit⟩

theorem run_timer3 (stuck : board.Stuck) (count : Nat) :
    (traffic.run board (List.replicate count .timer3)).Stuck := by
  induction count generalizing board with
  | zero => exact stuck
  | succ count ih => exact ih stuck.timer3

theorem startOfFrame (stuck : board.Stuck) : board.eventUsbDeviceStartOfFrame.Stuck := by
  obtain ⟨txLed, rxLed⟩ := board.startOfFrame_leds
  rcases stuck with ⟨zero, lit⟩ | ⟨zero, lit⟩
  · refine .inl ⟨pulse_done board.startOfFrame_txLedPulse (.inl zero), ?_⟩
    rw [txLed, lit, zero]
    rfl
  · refine .inr ⟨pulse_done board.startOfFrame_rxLedPulse (.inl zero), ?_⟩
    rw [rxLed, lit, zero]
    rfl

end Board.Stuck

theorem run_timer3_pulses (board : Board) (count : Nat) :
    (traffic.run board (List.replicate count .timer3)).transmitter.txLedPulse.toNat =
        board.transmitter.txLedPulse.toNat - count ∧
      (traffic.run board (List.replicate count .timer3)).device.rxLedPulse.toNat =
        board.device.rxLedPulse.toNat - count := by
  induction count generalizing board with
  | zero => exact ⟨rfl, rfl⟩
  | succ count ih =>
      obtain ⟨tx, rx⟩ := ih board.isrTimer3Compa
      rw [board.timer3_txLedPulse] at tx
      rw [board.timer3_rxLedPulse] at rx
      constructor
      · exact tx.trans (by omega)
      · exact rx.trans (by omega)

/-- A stuck LED stays lit when everything has been counted down. -/
theorem stuck_forever {board : Board} (stuck : board.Stuck) :
    ∃ rest, (traffic.run board (rest ++ [TrafficAct.timer3])).Quiescent ∧
      (traffic.run board (rest ++ [TrafficAct.timer3])).Stuck := by
  -- Count both pulses down without the start-of-frame event, which then switches itself off.
  obtain ⟨tx, rx⟩ := run_timer3_pulses board 255
  have counted := stuck.run_timer3 255
  generalize reached : traffic.run board (List.replicate 255 .timer3) = middle at tx rx counted
  have txBound := board.transmitter.txLedPulse.toNat_lt
  have rxBound := board.device.rxLedPulse.toNat_lt
  have txZero : middle.transmitter.txLedPulse = 0 := Counter.toNat_eq_zero.mp (by omega)
  have rxZero : middle.device.rxLedPulse = 0 := Counter.toNat_eq_zero.mp (by omega)
  refine ⟨List.replicate 255 .timer3 ++ [TrafficAct.startOfFrame], ?_⟩
  rw [List.append_assoc, Machine.run_append, reached]
  change ((if middle.sofEvents then middle.eventUsbDeviceStartOfFrame else
      middle).isrTimer3Compa).Quiescent ∧
    ((if middle.sofEvents then middle.eventUsbDeviceStartOfFrame else middle).isrTimer3Compa).Stuck
  have settled : ∀ last : Board, last.transmitter.txLedPulse = 0 → last.device.rxLedPulse = 0 →
      last.sofEvents = false → last.isrTimer3Compa.Quiescent := by
    intro last tx rx sof
    exact ⟨pulse_done last.timer3_txLedPulse (.inl tx), pulse_done last.timer3_rxLedPulse (.inl rx),
      sof⟩
  split
  · exact ⟨settled _ (pulse_done middle.startOfFrame_txLedPulse (.inl txZero))
      (pulse_done middle.startOfFrame_rxLedPulse (.inl rxZero))
      (middle.startOfFrame_sofEvents txZero rxZero), counted.startOfFrame.timer3⟩
  · rename_i disabled
    exact ⟨settled _ txZero rxZero (Bool.eq_false_iff.mpr disabled), counted.timer3⟩

/-- Along every run in which the timer interrupt never makes the last count of a
pulse whose USB LED is lit, a timer interrupt that leaves nothing to count leaves
all LEDs off. A last count it does make can be followed by a state in which
nothing is left to count and an LED is lit. -/
theorem leds_go_dark (acts : List TrafficAct)
    (leaves : traffic.Along LeavesLastCount .reset acts) :
    (∀ earlier, acts = earlier ++ [TrafficAct.timer3] → (traffic.run .reset acts).Quiescent →
      (traffic.run .reset acts).Dark) ∧
    ∀ act, ¬ LeavesLastCount (traffic.run .reset acts) act →
      ∃ rest, (traffic.run .reset (acts ++ act :: (rest ++ [TrafficAct.timer3]))).Quiescent ∧
        ¬ (traffic.run .reset (acts ++ act :: (rest ++ [TrafficAct.timer3]))).Dark := by
  constructor
  · rintro earlier rfl quiescent
    have counting := counting_run leaves
    rw [Machine.run_append] at counting quiescent ⊢
    exact dark_of_counting counting quiescent
  · intro act taken
    obtain rfl : act = .timer3 := by
      by_contra other
      exact taken fun same => absurd same other
    obtain ⟨rest, quiescent, stuck⟩ := stuck_forever (Board.Stuck.of_last_count taken)
    refine ⟨rest, ?_⟩
    rw [Machine.run_append, Machine.run_cons]
    exact ⟨quiescent, stuck.not_dark⟩

theorem leds_go_dark_after_read :
    (traffic.run .reset ([TrafficAct.usbRead 1, .usart1Rx 88] ++
      List.replicate 10 TrafficAct.startOfFrame ++ [TrafficAct.timer3])).Dark := by
  have leaves : traffic.Along LeavesLastCount .reset ([TrafficAct.usbRead 1, .usart1Rx 88] ++
      List.replicate 10 TrafficAct.startOfFrame ++ [TrafficAct.timer3]) := by
    decide +kernel
  have ended : (traffic.run .reset ([TrafficAct.usbRead 1, .usart1Rx 88] ++
      List.replicate 10 TrafficAct.startOfFrame ++ [TrafficAct.timer3])).Quiescent := by
    unfold Board.Quiescent
    decide +kernel
  exact (leds_go_dark _ leaves).1 _ rfl ended

/-- A byte from the host whose pulse the timer interrupt happens to end leaves the
receive LED of `usb.c` on. -/
theorem led_stuck_on :
    ¬ ∀ earlier, (traffic.run .reset (earlier ++ [TrafficAct.timer3])).Quiescent →
      (traffic.run .reset (earlier ++ [TrafficAct.timer3])).Dark := by
  intro law
  have ended : (traffic.run .reset ((.usbRead 1 :: List.replicate 99 TrafficAct.startOfFrame ++
      [TrafficAct.timer3, .startOfFrame]) ++ [TrafficAct.timer3])).Quiescent := by
    unfold Board.Quiescent
    decide +kernel
  have lit : (traffic.run .reset ((.usbRead 1 :: List.replicate 99 TrafficAct.startOfFrame ++
      [TrafficAct.timer3, .startOfFrame]) ++ [TrafficAct.timer3])).usbRxLed = true := by
    decide +kernel
  exact Bool.false_ne_true ((law _ ended).2.1.symm.trans lit)

end DomeHeartbeat
