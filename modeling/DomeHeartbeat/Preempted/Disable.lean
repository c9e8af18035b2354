import DomeHeartbeat.Preempted.Monitor

/-!
# The zero byte under preemption

The zero byte clears the latch first and the countdown last. `Underway` follows
one zero byte through its statements, counting the timer interrupts before the
latch is cleared and those after; `disabled_iff` reads off that the byte takes
effect unless the countdown runs out in between.
-/

namespace DomeHeartbeat

open Reactive

namespace Pc

/-- The statements of the zero byte between the clearing of the latch and the
write of the counter. -/
def disabling : Pc → Bool
  | clearActive | disableRelay | testTriggered _ | storeHeartbeat _ => true
  | _ => false

end Pc

/-- A timer interrupt that preempts a statement of this kind. -/
def timerAt (preempts : Pc → Bool) (point : Point Pc Device)
    (act : Interleaved UsbAnswer Irq) : Bool :=
  act == .interrupt .timer && preempts point.pc

/-- The run takes the handling of the current host byte to its end, and ends there. -/
def Completes (config : Config) (point : Point Pc Device)
    (acts : List (Interleaved UsbAnswer Irq)) : Prop :=
  (interleaved config).Along (fun point _ => point.pc.handling = true) point acts ∧
    ((interleaved config).run point acts).pc.handling = false

instance Completes.decidable (config : Config) (point : Point Pc Device)
    (acts : List (Interleaved UsbAnswer Irq)) : Decidable (Completes config point acts) :=
  instDecidableAnd

/-- What a zero byte is to achieve. -/
def Disabled (device : Device) : Prop :=
  device.triggered = false ∧ device.active = false ∧ device.heartbeat = 0 ∧ device.relay = false

instance Disabled.decidable (device : Device) : Decidable (Disabled device) := instDecidableAnd

/-- The countdown ran out after the first `early` and within the next `late` ticks. -/
def Expires (initial early late : Nat) : Prop := early < initial ∧ initial ≤ early + late

/-- The countdown still runs, and the latch says whether it ran out since the
latch was cleared. -/
def Counting (initial early late : Nat) (device : Device) : Prop :=
  device.heartbeat.toNat = initial - early - late ∧
    (device.triggered = true ↔ Expires initial early late)

/-- The latch says whether the countdown ran out; if it did not, the byte has
cleared everything before the counter. -/
def Cleared (initial early late : Nat) (device : Device) : Prop :=
  (device.triggered = true ↔ Expires initial early late) ∧
    (device.triggered = false → device.active = false ∧ device.relay = false)

/-- What holds at each statement of a zero byte that was read with `initial`
ticks to go, after `early` ticks before and `late` after the latch was cleared. -/
def Underway (initial early late : Nat) : Pc → Device → Prop
  | .clearTriggered, device => late = 0 ∧ device.heartbeat.toNat = initial - early
  | .clearActive, device => Counting initial early late device
  | .disableRelay, device =>
      Counting initial early late device ∧ (device.triggered = false → device.active = false)
  | .testTriggered value, device | .storeHeartbeat value, device =>
      value = 0 ∧ Counting initial early late device ∧ Cleared initial early late device
  | .testHeartbeat, device | .setLedEnabled _, device | .clearLedTriggered, device =>
      Cleared initial early late device ∧ device.heartbeat = 0
  | .startSiren, _ => False
  | _, device =>
      Cleared initial early late device ∧ (device.triggered = false → device.heartbeat = 0)

section Steps

variable {config : Config} {initial early late : Nat} {pc : Pc} {device : Device}

/-- Each statement of the byte leads to what holds at the next. -/
theorem underway_statement (underway : Underway initial early late pc device)
    (handling : pc.handling = true) (answer : UsbAnswer) :
    Underway initial early late (device.pollUsbStatement pc answer).1
      (device.pollUsbStatement pc answer).2 := by
  cases pc with
  | clearTriggered =>
      obtain ⟨rfl, left⟩ := underway
      refine ⟨left, ?_⟩
      simp only [Device.pollUsbStatement, Expires, Bool.false_eq_true, false_iff]
      omega
  | clearActive => exact ⟨underway, fun _ => rfl⟩
  | disableRelay =>
      obtain ⟨counting, cleared⟩ := underway
      exact ⟨rfl, counting, counting.2, fun quiet => ⟨cleared quiet, rfl⟩⟩
  | testTriggered value =>
      obtain ⟨zero, counting, cleared⟩ := underway
      cases triggered : device.triggered with
      | true =>
          rw [Device.pollUsbStatement_testTriggered_latched answer value triggered]
          exact ⟨cleared, fun quiet => absurd (triggered.symm.trans quiet) Bool.noConfusion⟩
      | false =>
          rw [Device.pollUsbStatement_testTriggered_armed answer value triggered]
          exact ⟨zero, counting, cleared⟩
  | storeHeartbeat value =>
      obtain ⟨rfl, _, cleared⟩ := underway
      exact ⟨cleared, rfl⟩
  | testHeartbeat => exact underway
  | setLedEnabled enabled => exact underway
  | clearLedTriggered => exact ⟨underway.1, fun _ => underway.2⟩
  | startSiren => exact underway.elim
  | _ => cases handling

theorem counting_tick (accepted : initial ≤ 240) (counting : Counting initial early late device) :
    Counting initial early (late + 1) (device.isrTimer1Compa config).1 := by
  obtain ⟨left, latched⟩ := counting
  have inRange : device.heartbeat ≤ 240 := by
    rw [UInt8.le_iff_toNat_le, left]
    exact Nat.le_trans (by omega) accepted
  have one : device.triggers = true ↔ initial - early - late = 1 := by
    rw [Device.triggers_iff, ← UInt8.toNat_inj, left]
    rfl
  constructor
  · rw [Device.isrTimer1Compa_heartbeat, Device.countedDown_toNat inRange, left]
    omega
  · rw [Device.isrTimer1Compa_triggered, Bool.or_eq_true, latched, one, Expires, Expires]
    omega

/-- A tick that leaves the latch clear did not trigger and keeps a stopped close stopped. -/
theorem inactive_tick (quiet : (device.isrTimer1Compa config).1.triggered = false)
    (inactive : device.triggered = false → device.active = false) :
    (device.isrTimer1Compa config).1.active = false := by
  rw [Device.isrTimer1Compa_triggered, Bool.or_eq_false_iff] at quiet
  simp [inactive quiet.1, quiet.2]

theorem cleared_tick {now : Nat} (latched : (device.isrTimer1Compa config).1.triggered = true ↔
      Expires initial early now) (cleared : Cleared initial early late device) :
    Cleared initial early now (device.isrTimer1Compa config).1 := by
  refine ⟨latched, fun quiet => ?_⟩
  rw [Device.isrTimer1Compa_triggered, Bool.or_eq_false_iff] at quiet
  obtain ⟨inactive, released⟩ := cleared.2 quiet.1
  simp [inactive, released, quiet.2]

/-- A timer interrupt counts as early before the latch is cleared, as late up to
the write of the counter, and does nothing to the countdown after it. -/
theorem underway_tick (accepted : initial ≤ 240) (underway : Underway initial early late pc device)
    (handling : pc.handling = true) :
    Underway initial (early + if pc = .clearTriggered then 1 else 0)
      (late + if pc.disabling then 1 else 0) pc (device.isrTimer1Compa config).1 := by
  cases pc with
  | clearTriggered =>
      obtain ⟨rfl, left⟩ := underway
      have inRange : device.heartbeat ≤ 240 := by
        rw [UInt8.le_iff_toNat_le, left]
        exact Nat.le_trans (by omega) accepted
      refine ⟨rfl, ?_⟩
      rw [Device.isrTimer1Compa_heartbeat, Device.countedDown_toNat inRange, left]
      exact Nat.sub_sub _ _ _
  | clearActive => exact counting_tick accepted underway
  | disableRelay =>
      exact ⟨counting_tick accepted underway.1, fun quiet => inactive_tick quiet underway.2⟩
  | testTriggered value | storeHeartbeat value =>
      obtain ⟨zero, counting, cleared⟩ := underway
      have counts : Counting initial early (late + 1) (device.isrTimer1Compa config).1 :=
        counting_tick accepted counting
      exact ⟨zero, counts, cleared_tick counts.2 cleared⟩
  | testHeartbeat | setLedEnabled _ | clearLedTriggered =>
      obtain ⟨cleared, stopped⟩ := underway
      have idle : device.triggers = false := by simp [Device.triggers, stopped]
      refine ⟨cleared_tick ?_ cleared, by simp [stopped, Device.countedDown]⟩
      rw [Device.isrTimer1Compa_triggered, idle, Bool.or_false]
      exact cleared.1
  | startSiren => exact underway.elim
  | _ => cases handling

theorem underway_plc {byte : UInt8} (underway : Underway initial early late pc device) :
    Underway initial early late pc (device.isrUsart1Rx byte) := by
  cases pc <;> exact underway

end Steps

/-- One zero byte from any of its statements to its end. -/
theorem underway_run {config : Config} {initial early late : Nat} (accepted : initial ≤ 240)
    {point : Point Pc Device} (underway : Underway initial early late point.pc point.shared)
    {acts : List (Interleaved UsbAnswer Irq)}
    (handling : (interleaved config).Along (fun point _ => point.pc.handling = true) point acts) :
    Underway initial
      (early + (interleaved config).countAlong (timerAt (· = .clearTriggered)) point acts)
      (late + (interleaved config).countAlong (timerAt Pc.disabling) point acts)
      ((interleaved config).run point acts).pc ((interleaved config).run point acts).shared := by
  induction acts generalizing early late point with
  | nil => exact underway
  | cons act acts ih =>
      obtain ⟨now, later⟩ := handling
      rw [Machine.countAlong_cons, Machine.countAlong_cons, Machine.run_cons, ← Nat.add_assoc,
        ← Nat.add_assoc]
      refine ih ?_ later
      cases act with
      | foreground answer =>
          simpa [timerAt] using underway_statement underway now answer
      | interrupt irq =>
          cases irq with
          | timer => simpa [timerAt] using underway_tick accepted underway now
          | plc byte => simpa [timerAt] using underway_plc underway

/-- A zero byte takes effect if and only if the countdown does not run out after
the latch is cleared and before the counter is written. -/
theorem disabled_iff (config : Config) (point : Point Pc Device)
    (acts : List (Interleaved UsbAnswer Irq)) (reachable : (interleaved config).Reachable point)
    (read : point.pc = .clearTriggered) (completes : Completes config point acts) :
    Disabled ((interleaved config).run point acts).shared ↔
      ¬ Expires point.shared.heartbeat.toNat
        ((interleaved config).countAlong (timerAt (· = .clearTriggered)) point acts)
        ((interleaved config).countAlong (timerAt Pc.disabling) point acts) := by
  have accepted : point.shared.heartbeat.toNat ≤ 240 :=
    UInt8.le_iff_toNat_le.mp (inRange_of_reachable reachable).1
  have begins : Underway point.shared.heartbeat.toNat 0 0 point.pc point.shared := by
    rw [read]
    exact ⟨rfl, rfl⟩
  have ends := underway_run accepted begins completes.1
  rw [Nat.zero_add, Nat.zero_add] at ends
  have idle := completes.2
  generalize (interleaved config).run point acts = last at ends idle
  obtain ⟨cleared, stopped⟩ : Cleared point.shared.heartbeat.toNat _ _ last.shared ∧
      (last.shared.triggered = false → last.shared.heartbeat = 0) := by
    obtain ⟨pc, device⟩ := last
    cases pc <;> first | exact ends | cases idle
  rw [← cleared.1, Bool.not_eq_true]
  constructor
  · rintro ⟨quiet, _⟩
    exact quiet
  · intro quiet
    obtain ⟨inactive, released⟩ := cleared.2 quiet
    exact ⟨quiet, inactive, stopped quiet, released⟩

/-- The host has sent 1 and then 0, and `poll_usb` has just read the 0. -/
def zeroRead : Point Pc Device :=
  pointAfter makefileConfig
    (undisturbed ⟨true, some 1⟩ 8 ++ undisturbed ⟨true, some 0⟩ 2)

theorem disabled_undisturbed :
    Disabled ((interleaved makefileConfig).run zeroRead (undisturbed ⟨true, none⟩ 8)).shared :=
  (disabled_iff makefileConfig zeroRead (undisturbed ⟨true, none⟩ 8) ⟨_, rfl⟩ (by decide +kernel)
    (by decide +kernel)).mpr fun expires => absurd expires.2 (by decide +kernel)

/-- The countdown runs out right after the latch is cleared. -/
theorem disable_lost :
    ¬ ∀ point acts, (interleaved makefileConfig).Reachable point → point.pc = .clearTriggered →
      Completes makefileConfig point acts →
      Disabled ((interleaved makefileConfig).run point acts).shared := by
  intro law
  have disabled := law zeroRead
    (.foreground ⟨true, none⟩ :: .interrupt .timer :: undisturbed ⟨true, none⟩ 3) ⟨_, rfl⟩
    (by decide +kernel) (by decide +kernel)
  exact absurd disabled (by decide +kernel)

end DomeHeartbeat
