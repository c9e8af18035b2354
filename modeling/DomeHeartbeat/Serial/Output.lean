import DomeHeartbeat.Reactive.Fifo
import DomeHeartbeat.Firmware.Transmitter

/-!
# The transmit buffer as a queue

`serialOutput` takes calls of `serial_write` and runs of the transmit interrupt
in any order. As long as no call is made on a full buffer it is an unbounded
queue, and its interrupt is enabled exactly while something is queued.
-/

namespace DomeHeartbeat

open Reactive

/-- A call of `serial_write` or a run of the transmit interrupt. -/
inductive OutputAct where
  | write (byte : UInt8)
  | udre
deriving DecidableEq, Repr

/-- The transmit side of `serial.c`, passing on the bytes loaded into UDR1. A call
that finds the buffer full waits and changes nothing. -/
def serialOutput : Machine Transmitter OutputAct UInt8 where
  initial := .reset
  step transmitter
    | .write byte => (transmitter.serialWrite byte).getD transmitter
    | .udre => transmitter.isrUsart1Udre.1
  emit transmitter
    | .write _ => []
    | .udre => transmitter.isrUsart1Udre.2

/-- Calls of `serial_write` are only made while its full test is false. -/
def WriteEnabled (transmitter : Transmitter) (act : OutputAct) : Prop :=
  act = .udre ∨ transmitter.output.isFull = false

instance WriteEnabled.decidable (transmitter : Transmitter) (act : OutputAct) :
    Decidable (WriteEnabled transmitter act) :=
  inferInstanceAs (Decidable (_ ∨ _))

/-- The bytes a run passes to `serial_write`. -/
def written (acts : List OutputAct) : List UInt8 :=
  acts.filterMap fun
    | .write byte => some byte
    | .udre => none

/-- What an action is to the queue. -/
def queueAct : OutputAct → Fifo.Act UInt8
  | .write byte => .push byte
  | .udre => .pop

namespace Transmitter

/-- The interrupt is enabled while something is queued, and only then. -/
def UdrieAgrees (transmitter : Transmitter) : Prop :=
  transmitter.udrie1 = !transmitter.output.isEmpty

theorem UdrieAgrees.serialWrite {transmitter : Transmitter}
    (room : transmitter.output.isFull = false) (byte : UInt8) :
    ((transmitter.serialWrite byte).getD transmitter).UdrieAgrees := by
  rw [serialWrite_of_room room]
  have queued : (transmitter.output.put byte).contents ≠ [] := by
    rw [Ring.contents_put, if_neg (Bool.eq_false_iff.mp room)]
    simp
  have waiting := mt (transmitter.output.put byte).isEmpty_iff_contents.mp queued
  simp [UdrieAgrees, waiting]

/-- The interrupt may run at any time, also when it has nothing to load. -/
theorem UdrieAgrees.isrUsart1Udre {transmitter : Transmitter} (agrees : transmitter.UdrieAgrees) :
    transmitter.isrUsart1Udre.1.UdrieAgrees := by
  obtain ⟨_, left, enabled⟩ := transmitter.isrUsart1Udre_eq
  rw [UdrieAgrees, enabled, agrees]
  cases waiting : transmitter.output.isEmpty with
  | false => rfl
  | true =>
      have nothing : transmitter.queued = [] := transmitter.output.isEmpty_iff_contents.mp waiting
      rw [nothing] at left
      rw [transmitter.isrUsart1Udre.1.output.isEmpty_iff_contents.mpr left]
      rfl

end Transmitter

/-- The transmit buffer behaves like an unbounded queue. -/
def queueSimulation : Simulation serialOutput (Fifo.machine UInt8) where
  invariant _ := True
  guard := WriteEnabled
  view := Transmitter.queued
  label _ act := some (queueAct act)
  preserved _ _ _ _ := trivial
  step transmitter act _ enabled := by
    cases act with
    | write byte =>
        have room := enabled.resolve_left (by simp)
        have returns := transmitter.serialWrite_of_room room byte
        change ((transmitter.serialWrite byte).getD transmitter).queued = _
        rw [returns]
        exact Transmitter.queued_serialWrite returns
    | udre => exact transmitter.isrUsart1Udre_eq.2.1

theorem queueSimulation_emits (transmitter : Transmitter) (act : OutputAct) :
    serialOutput.emit transmitter act =
      (Fifo.machine UInt8).emit transmitter.queued (queueAct act) := by
  cases act with
  | write byte => rfl
  | udre => exact transmitter.isrUsart1Udre_eq.1

theorem pushed_trace (transmitter : Transmitter) (acts : List OutputAct) :
    Fifo.pushed (queueSimulation.trace transmitter acts) = written acts := by
  induction acts generalizing transmitter with
  | nil => rfl
  | cons act acts ih =>
      have rest := ih (serialOutput.step transmitter act)
      cases act with
      | write byte => exact congrArg (byte :: ·) rest
      | udre => exact rest

theorem udrieAgrees_run {acts : List OutputAct}
    (enabled : serialOutput.Along WriteEnabled .reset acts) :
    (serialOutput.run .reset acts).UdrieAgrees := by
  have preserved : ∀ (transmitter : Transmitter) (act : OutputAct), transmitter.UdrieAgrees →
      WriteEnabled transmitter act → (serialOutput.step transmitter act).UdrieAgrees := by
    intro transmitter act agrees admitted
    cases act with
    | write byte => exact .serialWrite (admitted.resolve_left (by simp)) byte
    | udre => exact agrees.isrUsart1Udre
  exact Machine.run_induction preserved rfl enabled

/-- What has been loaded followed by what is queued is what was written; at most
255 bytes are queued, the full test is true exactly at 255, and the interrupt is
enabled exactly while something is queued. -/
theorem output_queue (acts : List OutputAct)
    (enabled : serialOutput.Along WriteEnabled .reset acts) :
    serialOutput.outputs .reset acts ++ (serialOutput.run .reset acts).queued = written acts ∧
      (serialOutput.run .reset acts).queued.length ≤ 255 ∧
      ((serialOutput.run .reset acts).output.isFull = true ↔
        (serialOutput.run .reset acts).queued.length = 255) ∧
      ((serialOutput.run .reset acts).udrie1 = true ↔
        (serialOutput.run .reset acts).output.write ≠
          (serialOutput.run .reset acts).output.read) := by
  have loaded := queueSimulation.outputs_run
    (fun transmitter act _ _ => queueSimulation_emits transmitter act) trivial enabled
  have left : (serialOutput.run .reset acts).queued = _ :=
    queueSimulation.view_run trivial enabled
  have length := (serialOutput.run .reset acts).output.length_contents
  have bound := (serialOutput.run .reset acts).output.count_lt
  have full := (serialOutput.run .reset acts).output.isFull_iff_count
  refine ⟨?_, ?_, ?_, ?_⟩
  · rw [loaded, left, Fifo.outputs_append_run, pushed_trace]
    rfl
  · rw [Transmitter.queued, length]
    omega
  · rw [full, Transmitter.queued, length]
    omega
  · rw [udrieAgrees_run enabled, Bool.not_eq_true', Ring.isEmpty, beq_eq_false_iff_ne]

theorem output_queue_one_loaded :
    serialOutput.outputs .reset [.write 0x52, .write 0x42, .udre] ++
        (serialOutput.run .reset [.write 0x52, .write 0x42, .udre]).queued = [0x52, 0x42] :=
  (output_queue [.write 0x52, .write 0x42, .udre] (by decide +kernel)).1

end DomeHeartbeat
