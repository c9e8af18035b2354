import DomeHeartbeat.Firmware.Device

/-!
# The transmit side of serial.c

`serialWrite` has no result while the buffer is full: it waits for the transmit
interrupt, which cannot run inside another interrupt. The transmit interrupt
passes on the bytes it loads into UDR1.
-/

namespace DomeHeartbeat

open Reactive

/-- The transmit buffer and its interrupt enable bit. -/
structure Transmitter where
  /-- `output_buffer`, `output_read` and `output_write` -/
  output : Ring UInt8 256
  /-- UDRIE1 in UCSR1B -/
  udrie1 : Bool
  txLedPulse : UInt8
  /-- PB3 -/
  txLed : Bool

namespace Transmitter

/-- The state `serial_initialize` leaves behind. -/
def reset : Transmitter where
  output := .reset fun _ => 0
  udrie1 := false
  txLedPulse := 0
  txLed := false

/-- `serial_write`, or nothing while it waits for room. -/
def serialWrite (transmitter : Transmitter) (byte : UInt8) : Option Transmitter :=
  if transmitter.output.write == transmitter.output.read - 1 then none
  else some { transmitter with output := transmitter.output.put byte, udrie1 := true }

/-- `ISR(USART1_UDRE_vect)`: the transmitter afterwards and the bytes loaded into UDR1. -/
def isrUsart1Udre (transmitter : Transmitter) : Transmitter × List UInt8 :=
  let loading :=
    if transmitter.output.write != transmitter.output.read then
      ({ transmitter with
        output := transmitter.output.advance
        txLed := true
        txLedPulse := txRxLedPulseMs }, [transmitter.output.head])
    else (transmitter, [])
  if loading.1.output.write == loading.1.output.read then
    ({ loading.1 with udrie1 := false }, loading.2)
  else loading

/-- The bytes written but not loaded yet, oldest first. -/
def queued (transmitter : Transmitter) : List UInt8 := transmitter.output.contents

theorem serialWrite_of_room {transmitter : Transmitter}
    (room : transmitter.output.isFull = false) (byte : UInt8) :
    transmitter.serialWrite byte =
      some { transmitter with output := transmitter.output.put byte, udrie1 := true } := by
  rw [serialWrite, if_neg]
  exact Bool.eq_false_iff.mp room

/-- A write that returns appends its byte to the queue. -/
theorem queued_serialWrite {transmitter written : Transmitter} {byte : UInt8}
    (returns : transmitter.serialWrite byte = some written) :
    written.queued = transmitter.queued ++ [byte] := by
  rw [serialWrite] at returns
  split at returns
  · cases returns
  · rename_i room
    obtain rfl := Option.some_inj.mp returns
    rw [queued, Ring.contents_put, if_neg]
    · rfl
    · exact room

/-- One run of the transmit interrupt loads the oldest queued byte, if there is
one, and switches itself off once none is left. -/
theorem isrUsart1Udre_eq (transmitter : Transmitter) :
    transmitter.isrUsart1Udre.2 = transmitter.queued.head?.toList ∧
      transmitter.isrUsart1Udre.1.queued = transmitter.queued.tail ∧
      transmitter.isrUsart1Udre.1.udrie1 =
        (transmitter.udrie1 && !transmitter.isrUsart1Udre.1.output.isEmpty) := by
  cases waiting : transmitter.output.isEmpty with
  | true =>
      have nothing : transmitter.queued = [] := transmitter.output.isEmpty_iff_contents.mp waiting
      have indices : (transmitter.output.write == transmitter.output.read) = true := waiting
      have idle : transmitter.isrUsart1Udre = ({ transmitter with udrie1 := false }, []) := by
        simp [isrUsart1Udre, bne, indices]
      rw [idle, nothing]
      exact ⟨rfl, nothing, by simp [waiting]⟩
  | false =>
      have taken : transmitter.queued =
          transmitter.output.head :: transmitter.output.advance.contents :=
        transmitter.output.contents_advance waiting
      have indices : (transmitter.output.write == transmitter.output.read) = false := waiting
      rw [taken, List.head?_cons, List.tail_cons]
      cases last : transmitter.output.advance.isEmpty with
      | true =>
          have emptied : (transmitter.output.advance.write ==
            transmitter.output.advance.read) = true := last
          simp [isrUsart1Udre, bne, indices, emptied, queued, last]
      | false =>
          have more : (transmitter.output.advance.write ==
            transmitter.output.advance.read) = false := last
          simp [isrUsart1Udre, bne, indices, more, queued, last]

/-- What the transmit interrupt loads is taken from the front of the queue. -/
theorem queued_isrUsart1Udre (transmitter : Transmitter) :
    transmitter.isrUsart1Udre.2 ++ transmitter.isrUsart1Udre.1.queued = transmitter.queued := by
  obtain ⟨loaded, left, _⟩ := transmitter.isrUsart1Udre_eq
  rw [loaded, left]
  cases transmitter.queued <;> rfl

@[simp] theorem queued_reset : reset.queued = [] := Ring.contents_reset _

end Transmitter

end DomeHeartbeat
