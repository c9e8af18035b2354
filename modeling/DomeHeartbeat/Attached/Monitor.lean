import DomeHeartbeat.Firmware.UsbPort
import DomeHeartbeat.Reactive.Channel
import DomeHeartbeat.Preempted.Serialization

/-!
# The monitor attached to a host

`attached` gives the statements of `poll_usb` the USB port they call, so that
the answers of `usb_can_read` and `usb_read` follow from what the host sends and
`usb_write` takes as many rounds as it waits. The interrupts of the USB stack
and the transactions on the bus come between any two rounds. `programOf` maps
its runs to those of `interleaved`.
-/

namespace DomeHeartbeat

open Reactive

/-- A point of the program, the USB port and where `usb_write` goes on. -/
structure AttachedPoint where
  point : Point Pc Device
  port : UsbPort
  writePc : WritePc

/-- A statement or a round of `usb_write`, an interrupt, or an event of the USB port. -/
inductive AttachedAct where
  | foreground (answer : BusAnswer)
  | interrupt (irq : Irq)
  | usb (event : UsbEvent)
deriving DecidableEq, Repr

namespace AttachedPoint

def reset : AttachedPoint := ⟨⟨.outside, .reset⟩, .reset, .testDtr⟩

/-- What the port answers to the next statement. -/
def answer (state : AttachedPoint) : UsbAnswer := ⟨state.port.usbCanRead.1, state.port.usbRead.1⟩

/-- The call of the next statement: where `usb_write` goes on, or nothing when the
statement is finished, and the port afterwards. -/
def call (state : AttachedPoint) (answer : BusAnswer) : Option WritePc × UsbPort :=
  match state.point.pc with
  | .usbCanRead => (none, state.port.usbCanRead.2)
  | .usbRead => (none, state.port.usbRead.2)
  | .usbWrite byte => state.port.usbWrite byte state.writePc answer
  | _ => (none, state.port)

/-- The step of the program an action finishes. -/
def programAct (state : AttachedPoint) : AttachedAct → Option (Interleaved UsbAnswer Irq)
  | .foreground answer =>
      if (state.call answer).1.isSome then none else some (.foreground state.answer)
  | .interrupt irq => some (.interrupt irq)
  | .usb _ => none

/-- The port after an action. -/
def portAfter (state : AttachedPoint) : AttachedAct → UsbPort
  | .foreground answer => (state.call answer).2
  | .interrupt _ => state.port
  | .usb event => state.port.onEvent event

/-- Where `usb_write` goes on after an action; the next call starts at its first test. -/
def writePcAfter (state : AttachedPoint) : AttachedAct → WritePc
  | .foreground answer => (state.call answer).1.getD .testDtr
  | _ => state.writePc

end AttachedPoint

/-- Every interleaving of the main loop, the interrupts and the host; the outputs
are the bytes the host takes. -/
def attached (config : Config) : Machine AttachedPoint AttachedAct UInt8 where
  initial := .reset
  step state act :=
    { point := (state.programAct act).elim state.point ((interleaved config).step state.point)
      port := state.portAfter act
      writePc := state.writePcAfter act }
  emit state
    | .usb event => state.port.taken event
    | _ => []

/-- The program of an attached run is a run of `interleaved`. -/
def programOf (config : Config) : Simulation (attached config) (interleaved config) where
  invariant _ := True
  guard _ _ := True
  view state := state.point
  label state act := state.programAct act
  preserved _ _ _ _ := trivial
  step _ _ _ _ := rfl

/-- The steps of the program in an attached run. -/
def programTrace (config : Config) (state : AttachedPoint) (acts : List AttachedAct) :
    List (Interleaved UsbAnswer Irq) :=
  (programOf config).trace state acts

section Steps

variable (config : Config) (state : AttachedPoint)

@[simp] theorem attached_initial : (attached config).initial = .reset := rfl

@[simp] theorem attached_step_point (act : AttachedAct) :
    ((attached config).step state act).point =
      (state.programAct act).elim state.point ((interleaved config).step state.point) := rfl

@[simp] theorem attached_step_port (act : AttachedAct) :
    ((attached config).step state act).port = state.portAfter act := rfl

@[simp] theorem attached_step_writePc (act : AttachedAct) :
    ((attached config).step state act).writePc = state.writePcAfter act := rfl

@[simp] theorem attached_emit_foreground (answer : BusAnswer) :
    (attached config).emit state (.foreground answer) = [] := rfl

@[simp] theorem attached_emit_interrupt (irq : Irq) :
    (attached config).emit state (.interrupt irq) = [] := rfl

@[simp] theorem attached_emit_usb (event : UsbEvent) :
    (attached config).emit state (.usb event) = state.port.taken event := rfl

theorem usbWrite_or_not :
    (∃ byte, state.point.pc = .usbWrite byte) ∨ ∀ byte, state.point.pc ≠ .usbWrite byte := by
  by_cases writes : ∃ byte, state.point.pc = .usbWrite byte
  · exact .inl writes
  · exact .inr fun byte writing => writes ⟨byte, writing⟩

theorem call_of_usbWrite {byte : UInt8} (writing : state.point.pc = .usbWrite byte)
    (answer : BusAnswer) :
    state.call answer = state.port.usbWrite byte state.writePc answer := by
  rw [AttachedPoint.call, writing]

/-- A statement that is finished has seen the answers of the port. -/
theorem programAct_foreground {answer : BusAnswer} {act : Interleaved UsbAnswer Irq}
    (finished : state.programAct (.foreground answer) = some act) :
    act = .foreground state.answer := by
  simp only [AttachedPoint.programAct] at finished
  split_ifs at finished
  exact (Option.some_inj.mp finished).symm

theorem point_run (acts : List AttachedAct) :
    ((attached config).run state acts).point =
      (interleaved config).run state.point (programTrace config state acts) :=
  (programOf config).view_run trivial (Machine.along_true _ _)

theorem programTrace_append (first second : List AttachedAct) :
    programTrace config state (first ++ second) =
      programTrace config state first ++
        programTrace config ((attached config).run state first) second := by
  induction first generalizing state with
  | nil => rfl
  | cons act acts ih =>
      have later := ih ((attached config).step state act)
      change (state.programAct act).toList ++ _ = (state.programAct act).toList ++ _ ++ _
      rw [List.append_assoc]
      exact congrArg (_ ++ ·) later

/-- What is seen along the program's run is seen along the attached run. -/
theorem collect_programTrace {Item : Type}
    (seen : Point Pc Device → Interleaved UsbAnswer Irq → List Item) (acts : List AttachedAct) :
    (interleaved config).collect seen state.point (programTrace config state acts) =
      (attached config).collect
        (fun state act => (state.programAct act).elim [] (seen state.point)) state acts :=
  (programOf config).collect_trace seen trivial (Machine.along_true _ _)

end Steps

end DomeHeartbeat
