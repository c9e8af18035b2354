import DomeHeartbeat.Reactive.Fifo
import DomeHeartbeat.Firmware.Device
import Mathlib.Data.List.Induction

/-!
# What the receive buffer holds

`serialInput` takes runs of the receive interrupt and calls of `serial_read` in
any order. The interrupt has no full test, so what can be read are the last `m`
bytes received, where `m` is the number of bytes received and not read modulo
256. While that number stays below 256 the buffer is an unbounded queue.
-/

namespace DomeHeartbeat

open Reactive

/-- A run of the receive interrupt or a call of `serial_read`. -/
inductive InputAct where
  | receive (byte : UInt8)
  | read
deriving DecidableEq, Repr

/-- The receive side of `serial.c`, passing on the bytes `serial_read` returns. -/
def serialInput : Machine Device InputAct UInt8 where
  initial := .reset
  step device
    | .receive byte => device.isrUsart1Rx byte
    | .read => device.serialRead.2
  emit device
    | .receive _ => []
    | .read => [device.serialRead.1]

/-- `serial_read` is only called when `serial_can_read` is true. -/
def ReadEnabled (device : Device) (act : InputAct) : Prop :=
  act = .read → device.serialCanRead = true

instance ReadEnabled.decidable (device : Device) (act : InputAct) :
    Decidable (ReadEnabled device act) :=
  inferInstanceAs (Decidable (_ → _))

/-- The bytes received in a run. -/
def received (acts : List InputAct) : List UInt8 :=
  acts.filterMap fun
    | .receive byte => some byte
    | .read => none

/-- The number of bytes read in a run. -/
def reads (acts : List InputAct) : Nat := acts.count .read

@[simp] theorem received_append (first second : List InputAct) :
    received (first ++ second) = received first ++ received second := List.filterMap_append

@[simp] theorem reads_append (first second : List InputAct) :
    reads (first ++ second) = reads first + reads second := List.count_append

/-- The unread bytes are the last received ones, and their number is the number
of bytes received and not read modulo 256. -/
structure Device.Tracks (device : Device) (bytes : List UInt8) (taken : Nat) : Prop where
  latest : device.unread <:+ bytes
  counted : taken + device.input.count ≤ bytes.length
  wrapped : (taken + device.input.count) % 256 = bytes.length % 256

namespace Device.Tracks

variable {device : Device} {bytes : List UInt8} {taken : Nat}

theorem reset : Device.reset.Tracks [] 0 := by
  have none : Device.reset.input.count = 0 := Ring.count_reset _
  refine ⟨?_, ?_, ?_⟩
  · rw [Device.unread_reset]
  · rw [none]
    rfl
  · rw [none]
    rfl

/-- Receiving a byte when 255 are unread leaves none. -/
theorem receive (tracks : device.Tracks bytes taken) (byte : UInt8) :
    (device.isrUsart1Rx byte).Tracks (bytes ++ [byte]) taken := by
  have count := device.input.count_put byte
  have bound := device.input.count_lt
  have counted := tracks.counted
  have wrapped := tracks.wrapped
  refine ⟨device.input.suffix_put tracks.latest byte, ?_, ?_⟩
  · change taken + (device.input.put byte).count ≤ _
    rw [List.length_append, List.length_singleton]
    omega
  · change (taken + (device.input.put byte).count) % 256 = _
    rw [List.length_append, List.length_singleton]
    omega

theorem read (tracks : device.Tracks bytes taken) (ready : device.serialCanRead = true) :
    device.serialRead.2.Tracks bytes (taken + 1) := by
  have queued := device.serialCanRead_iff.mp ready
  have count := device.input.count_advance queued
  have counted := tracks.counted
  have wrapped := tracks.wrapped
  refine ⟨device.input.suffix_advance tracks.latest queued, ?_, ?_⟩
  · change taken + 1 + device.input.advance.count ≤ _
    omega
  · change (taken + 1 + device.input.advance.count) % 256 = _
    omega

theorem length_unread (tracks : device.Tracks bytes taken) :
    device.unread.length = (bytes.length - taken) % 256 := by
  have bound := device.input.count_lt
  have counted := tracks.counted
  have wrapped := tracks.wrapped
  rw [Device.unread, Ring.length_contents]
  omega

/-- The unread bytes, read off the history. -/
theorem unread_eq (tracks : device.Tracks bytes taken) :
    device.unread = bytes.drop (bytes.length - (bytes.length - taken) % 256) := by
  rw [← tracks.length_unread]
  exact List.suffix_iff_eq_drop.mp tracks.latest

end Device.Tracks

theorem tracks_run {acts : List InputAct} (enabled : serialInput.Along ReadEnabled .reset acts) :
    (serialInput.run .reset acts).Tracks (received acts) (reads acts) := by
  induction acts using List.reverseRecOn with
  | nil => exact .reset
  | append_singleton acts act ih =>
      obtain ⟨before, now⟩ := (Machine.along_append _ _ _ _ _).mp enabled
      have tracks := ih before
      rw [received_append, reads_append, Machine.run_append]
      cases act with
      | receive byte => exact tracks.receive byte
      | read =>
          have same : received [.read] = [] := rfl
          rw [same, List.append_nil]
          exact tracks.read (now.1 rfl)

theorem serialCanRead_iff_unread (device : Device) :
    device.serialCanRead = true ↔ device.unread.length ≠ 0 := by
  rw [Device.serialCanRead_iff_count, Device.unread, Ring.length_contents]

/-- As many reads as there are unread bytes return them, oldest first, and none is left. -/
theorem read_all {device : Device} {bytes : List UInt8} (unread : device.unread = bytes) :
    serialInput.Along ReadEnabled device (List.replicate bytes.length .read) ∧
      serialInput.outputs device (List.replicate bytes.length .read) = bytes ∧
      (serialInput.run device (List.replicate bytes.length .read)).serialCanRead = false := by
  induction bytes generalizing device with
  | nil =>
      refine ⟨trivial, rfl, Bool.eq_false_iff.mpr ?_⟩
      rw [Ne, serialCanRead_iff_unread]
      change ¬ device.unread.length ≠ 0
      simp [unread]
  | cons byte bytes ih =>
      have ready : device.serialCanRead = true := by
        rw [serialCanRead_iff_unread, unread]
        simp
      have taken := Device.unread_serialRead ready
      rw [unread] at taken
      injection taken with first rest
      obtain ⟨enabled, returned, done⟩ := ih rest.symm
      rw [List.length_cons, List.replicate_succ, Machine.along_cons, Machine.outputs_cons,
        Machine.run_cons]
      refine ⟨⟨fun _ => ready, enabled⟩, ?_, done⟩
      change device.serialRead.1 :: serialInput.outputs device.serialRead.2 _ = _
      rw [returned, first]

/-- Bytes are only received while there is room, and read while there are any. -/
def Lossless (device : Device) : InputAct → Prop
  | .receive _ => device.input.isFull = false
  | .read => device.serialCanRead = true

/-- While there is room the receive buffer behaves like an unbounded queue. -/
def inputSimulation : Simulation serialInput (Fifo.machine UInt8) where
  invariant _ := True
  guard := Lossless
  view := Device.unread
  label
    | _, .receive byte => some (.push byte)
    | _, .read => some .pop
  preserved _ _ _ _ := trivial
  step device act _ lossless := by
    cases act with
    | receive byte =>
        change (device.isrUsart1Rx byte).unread = device.unread ++ [byte]
        rw [device.unread_isrUsart1Rx, if_neg (Bool.eq_false_iff.mp lossless)]
    | read =>
        change device.serialRead.2.unread = device.unread.tail
        rw [Device.unread_serialRead lossless, List.tail_cons]

theorem inputSimulation_emits (device : Device) (act : InputAct) (lossless : Lossless device act) :
    serialInput.emit device act = (inputSimulation.label device act).elim []
      ((Fifo.machine UInt8).emit device.unread) := by
  cases act with
  | receive byte => rfl
  | read =>
      change [device.serialRead.1] = device.unread.head?.toList
      rw [Device.unread_serialRead lossless]
      rfl

theorem pushed_inputTrace (device : Device) (acts : List InputAct) :
    Fifo.pushed (inputSimulation.trace device acts) = received acts := by
  induction acts generalizing device with
  | nil => rfl
  | cons act acts ih =>
      have rest := ih (serialInput.step device act)
      cases act with
      | receive byte => exact congrArg (byte :: ·) rest
      | read => exact rest

/-- With at most 255 bytes unread at any time there is always room. -/
theorem lossless_run {acts : List InputAct} (enabled : serialInput.Along ReadEnabled .reset acts)
    (few : ∀ earlier later, acts = earlier ++ later →
      (received earlier).length ≤ reads earlier + 255) :
    serialInput.Along Lossless .reset acts := by
  induction acts using List.reverseRecOn with
  | nil => trivial
  | append_singleton acts act ih =>
      obtain ⟨before, now⟩ := (Machine.along_append _ _ _ _ _).mp enabled
      have earlier := ih before fun earlier later split =>
        few earlier (later ++ [act]) (by rw [split, List.append_assoc])
      refine (Machine.along_append _ _ _ _ _).mpr ⟨earlier, ?_, trivial⟩
      cases act with
      | receive byte =>
          have tracks := tracks_run before
          have counted := tracks.counted
          have afterwards := few _ [] (List.append_nil _).symm
          have one : (received [.receive byte]).length = 1 := rfl
          have none : reads [.receive byte] = 0 := rfl
          rw [received_append, reads_append, List.length_append, one, none] at afterwards
          refine Bool.eq_false_iff.mpr (mt (Ring.isFull_iff_count _).mp ?_)
          omega
      | read => exact now.1 rfl

/-- The number of bytes received and not read, as the two indices see it. -/
def unreadCount (acts : List InputAct) : Nat := ((received acts).length - reads acts) % 256

/-- After any run exactly the last `unreadCount` bytes received can be read, in
order. Nothing is lost while at most 255 bytes are unread; a byte that makes
them 256 makes them vanish, and no other byte makes any vanish. -/
theorem input_contents (acts : List InputAct)
    (enabled : serialInput.Along ReadEnabled .reset acts) :
    reads acts ≤ (received acts).length ∧
      ((serialInput.run .reset acts).serialCanRead = true ↔ unreadCount acts ≠ 0) ∧
      (serialInput.Along ReadEnabled (serialInput.run .reset acts)
          (List.replicate (unreadCount acts) .read) ∧
        serialInput.outputs (serialInput.run .reset acts)
            (List.replicate (unreadCount acts) .read) =
          (received acts).drop ((received acts).length - unreadCount acts) ∧
        (serialInput.run .reset (acts ++ List.replicate (unreadCount acts) .read)).serialCanRead =
          false) ∧
      ((∀ earlier later, acts = earlier ++ later →
          (received earlier).length ≤ reads earlier + 255) →
        serialInput.outputs .reset acts ++ (serialInput.run .reset acts).unread = received acts) ∧
      ∀ byte, ((serialInput.run .reset acts).isrUsart1Rx byte).unread =
        if unreadCount acts = 255 then [] else (serialInput.run .reset acts).unread ++ [byte] := by
  have tracks := tracks_run enabled
  have counted := tracks.counted
  have length : (serialInput.run .reset acts).unread.length = unreadCount acts :=
    tracks.length_unread
  have unread : (serialInput.run .reset acts).unread =
      (received acts).drop ((received acts).length - unreadCount acts) := tracks.unread_eq
  refine ⟨by omega, ?_, ?_, ?_, ?_⟩
  · rw [serialCanRead_iff_unread, length]
  · obtain ⟨reading, returned, done⟩ := read_all unread
    rw [← unread, length] at reading returned done
    rw [Machine.run_append, ← unread]
    exact ⟨reading, returned, done⟩
  · intro few
    have lossless := lossless_run enabled few
    have outputs := inputSimulation.outputs_run
      (fun device act _ lossless => inputSimulation_emits device act lossless) trivial lossless
    have left : (serialInput.run .reset acts).unread = _ :=
      inputSimulation.view_run trivial lossless
    rw [outputs, left, Fifo.outputs_append_run, pushed_inputTrace]
    exact congrArg (· ++ received acts) Device.unread_reset
  · intro byte
    have full := (serialInput.run .reset acts).input.isFull_iff_count
    rw [← Ring.length_contents, ← Device.unread, length] at full
    rw [Device.unread_isrUsart1Rx]
    by_cases whole : unreadCount acts = 255
    · rw [if_pos whole, if_pos (full.mpr (by omega))]
    · rw [if_neg whole, if_neg (fun isFull => whole (by have := full.mp isFull; omega))]

theorem input_contents_two_received :
    serialInput.outputs (serialInput.run .reset [.receive 88, .receive 89, .read])
      (List.replicate 1 .read) = [89] :=
  (input_contents [.receive 88, .receive 89, .read] (by decide +kernel)).2.2.1.2.1

end DomeHeartbeat
