import DomeHeartbeat.Reactive.Alarm
import DomeHeartbeat.Preempted.Monitor

/-!
# The countdown under preemption

At the level of statements the counter and the latch are an `Alarm`: the counter
is whatever `heartbeat = value` stored last, less the timer interrupts since, and
the latch is set when it runs out and cleared by `triggered = false` alone.
`triggered_iff_rang` holds of every interleaving, also of those in which a tick
falls into the handling of a byte.
-/

namespace DomeHeartbeat

open Reactive

/-- The counter and the latch. -/
def countdownAlarm (device : Device) : Alarm := ⟨device.heartbeat.toNat, device.triggered⟩

/-- What a step is to the counter and the latch. -/
def countdownAct (point : Point Pc Device) : Interleaved UsbAnswer Irq → Option Alarm.Act
  | .interrupt .timer => some .tick
  | .interrupt (.plc _) => none
  | .foreground _ =>
      match point.pc with
      | .storeHeartbeat value => some (.set value.toNat)
      | .clearTriggered => some .silence
      | _ => none

theorem countdownAlarm_tick (config : Config) {device : Device}
    (accepted : device.heartbeat ≤ 240) :
    countdownAlarm (device.isrTimer1Compa config).1 = (countdownAlarm device).step .tick := by
  have left := Device.countedDown_toNat accepted
  have one : device.triggers = (device.heartbeat.toNat == 1) := by
    rw [Bool.eq_iff_iff, device.triggers_iff, beq_iff_eq, Counter.toNat_eq_one]
  simp [countdownAlarm, Alarm.step, left, one]

/-- Every interleaving runs an alarm. -/
def countdownSimulation (config : Config) : Simulation (interleaved config) Alarm.machine where
  invariant := (interleaved config).Reachable
  guard _ _ := True
  view point := countdownAlarm point.shared
  label := countdownAct
  preserved point act reachable _ := by
    obtain ⟨acts, rfl⟩ := reachable
    exact ⟨acts ++ [act], Machine.run_append _ _ _ _⟩
  step point act reachable _ := by
    cases act with
    | interrupt irq =>
        cases irq with
        | timer => exact countdownAlarm_tick config (inRange_of_reachable reachable).1
        | plc byte => rfl
    | foreground answer =>
        obtain ⟨pc, device⟩ := point
        cases pc <;> rfl

/-- The stores to the counter, the clearings of the latch and the timer
interrupts of a run, in order. -/
def countdownHistory (config : Config) (acts : List (Interleaved UsbAnswer Irq)) :
    List Alarm.Act :=
  (countdownSimulation config).trace (interleaved config).initial acts

theorem countdown_run (config : Config) (acts : List (Interleaved UsbAnswer Irq)) :
    countdownAlarm (pointAfter config acts).shared =
      Alarm.machine.run Alarm.machine.initial (countdownHistory config acts) :=
  (countdownSimulation config).view_run ⟨[], rfl⟩ (Machine.along_true _ acts)

/-- In every interleaving the device is triggered exactly when some stored
timeout ran out before the next store and the latch has not been cleared since;
the counter is the last stored timeout less the timer interrupts after it. -/
theorem triggered_iff_rang (config : Config) (acts : List (Interleaved UsbAnswer Irq)) :
    ((pointAfter config acts).shared.triggered = true ↔
        Alarm.Rang (countdownHistory config acts)) ∧
      (Alarm.Unset (countdownHistory config acts) →
        (pointAfter config acts).shared.heartbeat = 0) ∧
      ∀ before timeout after,
        countdownHistory config acts = before ++ .set timeout :: after → Alarm.Unset after →
          (pointAfter config acts).shared.heartbeat.toNat = timeout - after.count .tick := by
  have view := countdown_run config acts
  refine ⟨?_, fun unset => ?_, ?_⟩
  · rw [← Alarm.sounding_iff_rang, ← view]
    rfl
  · have left := Alarm.left_run unset Alarm.machine.initial
    rw [← view] at left
    exact Counter.toNat_eq_zero.mp (left.trans (Nat.zero_sub _))
  · intro before timeout after history unset
    have left := Alarm.left_set before timeout unset
    rw [← history, ← view] at left
    exact left

end DomeHeartbeat
