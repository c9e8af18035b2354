import DomeHeartbeat.Reactive.Loop
import DomeHeartbeat.Firmware.TimerIsr

/-!
# The PLC drain of the timer interrupt

`plcDrain` is `while (serial_can_read()) switch (serial_read())` with the receive
interrupt masked, so a `serial_read` that finds nothing to read never returns.
`drain_ends` says that the loop ends after one round for each unread byte, and
that all it leaves of them is which of the letters were among them.
-/

namespace DomeHeartbeat

open Reactive

namespace Device

/-- `serial_read` with the receive interrupt masked, or nothing while it waits. -/
def serialReadMasked (device : Device) : Option (UInt8 × Device) :=
  if device.input.read == device.input.write then none else some device.serialRead

/-- `while (serial_can_read()) switch (serial_read())` -/
def plcDrain : Loop Device where
  condition := serialCanRead
  body device := device.serialReadMasked.map fun taken => taken.2.plcByte taken.1

/-- The letters the `switch` has a case for. -/
def plcLetters : List UInt8 := [ascii 'X', ascii 'Y', ascii '0']

section Rounds

variable {device : Device}

/-- A call that is made while there is something to read returns. -/
theorem serialReadMasked_of_ready (ready : device.serialCanRead = true) :
    device.serialReadMasked = some device.serialRead := by
  have apart : device.input.write ≠ device.input.read := bne_iff_ne.mp ready
  rw [serialReadMasked, if_neg]
  rw [beq_iff_eq]
  exact apart.symm

theorem input_plcByte (device : Device) (byte : UInt8) :
    (device.plcByte byte).input = device.input := by
  rw [plcByte_eq]

theorem plcDrain_body (ready : device.serialCanRead = true) :
    plcDrain.body device = some (device.serialRead.2.plcByte device.serialRead.1) := by
  rw [plcDrain]
  dsimp only
  rw [serialReadMasked_of_ready ready]
  rfl

/-- A round takes one byte. -/
theorem plcDrain_round (queued : device.input.count ≠ 0) :
    plcDrain.condition device = true ∧ ∃ next, plcDrain.body device = some next ∧
      next.input.count + 1 = device.input.count := by
  have ready := serialCanRead_iff_count.mpr queued
  refine ⟨ready, _, plcDrain_body ready, ?_⟩
  rw [input_plcByte]
  exact device.input.count_advance (device.serialCanRead_iff.mp ready)

/-- With enough fuel `drainLoop` computes what the loop ends in. -/
theorem drainLoop_of_ends {rounds : Nat} {last : Device}
    (ends : plcDrain.Ends rounds device last) {fuel : Nat} (enough : rounds ≤ fuel) :
    drainLoop fuel device = last := by
  induction ends generalizing fuel with
  | @stop device done =>
      have unready : ¬ device.serialCanRead = true := Bool.eq_false_iff.mp done
      cases fuel with
      | zero => rfl
      | succ fuel => rw [drainLoop, if_neg unready]
  | @round rounds device next last goes returns rest ih =>
      have ready : device.serialCanRead = true := goes
      obtain ⟨fuel, rfl⟩ := Nat.exists_eq_add_one.mpr (Nat.lt_of_lt_of_le (Nat.succ_pos _) enough)
      rw [plcDrain_body ready] at returns
      rw [drainLoop, if_pos ready, Option.some_inj.mp returns]
      exact ih (Nat.le_of_succ_le_succ enough)

/-- The loop ends, one round for each unread byte, in what `drainPlc` computes. -/
theorem plcDrain_ends (device : Device) :
    plcDrain.Ends device.input.count device device.drainPlc := by
  have stops : ∀ device : Device, device.input.count = 0 → plcDrain.condition device = false :=
    fun device none => Bool.eq_false_iff.mpr fun ready => serialCanRead_iff_count.mp ready none
  obtain ⟨last, ends⟩ := Loop.ends_of_left (fun device : Device => device.input.count) stops
    (fun _ queued => plcDrain_round queued) device
  have enough : device.input.count ≤ 256 := Nat.le_of_lt device.input.count_lt
  rw [drainPlc, drainLoop_of_ends ends enough]
  exact ends

end Rounds

section Letters

theorem any_either (bytes : List UInt8) (first second : UInt8) :
    (bytes.any fun byte => byte == first || byte == second) = true ↔
      first ∈ bytes ∨ second ∈ bytes := by
  simp only [List.any_eq_true, Bool.or_eq_true, beq_iff_eq]
  constructor
  · rintro ⟨byte, member, rfl | rfl⟩
    · exact .inl member
    · exact .inr member
  · rintro (member | member)
    · exact ⟨first, member, .inl rfl⟩
    · exact ⟨second, member, .inr rfl⟩

variable (device : Device)

/-- What the drain leaves of the unread bytes is which letters were among them. -/
theorem drainPlc_letters :
    device.drainPlc = { device with
      shutterACloseSteps := if ascii 'X' ∈ device.unread ∨ ascii '0' ∈ device.unread then 0
        else device.shutterACloseSteps
      shutterBCloseSteps := if ascii 'Y' ∈ device.unread ∨ ascii '0' ∈ device.unread then 0
        else device.shutterBCloseSteps
      input := { device.input with read := device.input.write } } := by
  have shutterA : device.unread.any closesA = true ↔ _ := any_either device.unread _ _
  have shutterB : device.unread.any closesB = true ↔ _ := any_either device.unread _ _
  rw [drainPlc_eq]
  simp only [shutterA, shutterB]
  rfl

/-- Other unread bytes with the same letters among them lead to the same device. -/
theorem drainPlc_same_letters (input : Ring UInt8 256)
    (same : ∀ letter ∈ plcLetters, letter ∈ input.contents ↔ letter ∈ device.unread) :
    ({ device with input := input } : Device).drainPlc =
      { device.drainPlc with input := { input with read := input.write } } := by
  have reportA : ascii 'X' ∈ input.contents ↔ ascii 'X' ∈ device.unread := same _ (by decide)
  have reportB : ascii 'Y' ∈ input.contents ↔ ascii 'Y' ∈ device.unread := same _ (by decide)
  have reportBoth : ascii '0' ∈ input.contents ↔ ascii '0' ∈ device.unread := same _ (by decide)
  have unread : ({ device with input := input } : Device).unread = input.contents := rfl
  rw [drainPlc_letters, drainPlc_letters, unread]
  simp only [reportA, reportB, reportBoth]

end Letters

end Device

/-- For every content of the receive buffer and every pair of indices the loop
ends after as many rounds as the write index is ahead of the read index modulo
256. No call of `serial_read` waits, nothing is left to read, and all that comes
of the unread bytes is which letters were among them: in any other order, and
repeated any number of times, they leave the same device. -/
theorem drain_ends (device : Device) :
    (∀ rounds last, Device.plcDrain.Ends rounds device last ↔
      rounds = (256 + (device.input.write : Nat) - (device.input.read : Nat)) % 256 ∧
        last = device.drainPlc) ∧
    (∀ state : Device, state.serialCanRead = true →
      state.serialReadMasked = some state.serialRead) ∧
    device.drainPlc.serialCanRead = false ∧
    device.drainPlc = { device with
      shutterACloseSteps := if ascii 'X' ∈ device.unread ∨ ascii '0' ∈ device.unread then 0
        else device.shutterACloseSteps
      shutterBCloseSteps := if ascii 'Y' ∈ device.unread ∨ ascii '0' ∈ device.unread then 0
        else device.shutterBCloseSteps
      input := { device.input with read := device.input.write } } ∧
    ∀ input : Ring UInt8 256,
      (∀ letter ∈ Device.plcLetters, letter ∈ input.contents ↔ letter ∈ device.unread) →
      ({ device with input := input } : Device).drainPlc =
        { device.drainPlc with input := { input with read := input.write } } := by
  refine ⟨fun rounds last => ?_, fun _ ready => Device.serialReadMasked_of_ready ready,
    device.serialCanRead_drainPlc, device.drainPlc_letters, device.drainPlc_same_letters⟩
  rw [(Device.plcDrain_ends device).iff, Ring.count_eq]

/-- Two reports, and the same two the other way round with one of them repeated. -/
theorem drain_ends_in_either_order :
    ({ (Device.reset.isrUsart1Rx 88).isrUsart1Rx 89 with
        input := (((Device.reset.isrUsart1Rx 89).isrUsart1Rx 88).isrUsart1Rx 89).input } :
      Device).drainPlc.shutterACloseSteps =
      ((Device.reset.isrUsart1Rx 88).isrUsart1Rx 89).drainPlc.shutterACloseSteps := by
  have agree := (drain_ends ((Device.reset.isrUsart1Rx 88).isrUsart1Rx 89)).2.2.2.2
    (((Device.reset.isrUsart1Rx 89).isrUsart1Rx 88).isrUsart1Rx 89).input (by decide +kernel)
  rw [agree]

end DomeHeartbeat
