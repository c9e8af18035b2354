import DomeHeartbeat.Preempted.Monitor

/-!
# The latch under preemption

`poll_usb` tests the latch once and then writes the counter and the heartbeat
LED as later statements. `latched_iff` says at exactly which statements a
trigger is overwritten by the byte it preempts; everywhere else it lasts until
the next zero byte is read.
-/

namespace DomeHeartbeat

open Reactive

namespace Pc

/-- Statements after which the byte being handled still writes the latch, the
counter or the heartbeat LED, whatever the latch says by then. -/
def overwrites : Pc → Bool
  | clearTriggered | storeHeartbeat _ | testHeartbeat | setLedEnabled _
  | clearLedTriggered => true
  | _ => false

end Pc

/-- No statement of the run reads a zero byte. -/
def ReadsNoZero (point : Point Pc Device) (act : Interleaved UsbAnswer Irq) : Prop :=
  ∀ answer, act = .foreground answer → point.pc = .usbRead → answer.read ≠ some 0

theorem readsNoZero_undisturbed (config : Config) (point : Point Pc Device) (canRead : Bool)
    (count : Nat) :
    (interleaved config).Along ReadsNoZero point (undisturbed ⟨canRead, none⟩ count) := by
  induction count generalizing point with
  | zero => trivial
  | succ count ih =>
      refine ⟨?_, ih _⟩
      rintro answer ⟨⟩ _
      simp

/-- The countdown is stopped, no timer interrupt would trigger, and between host
bytes the heartbeat LED shows the triggered pattern. -/
structure Latched (point : Point Pc Device) : Prop where
  stopped : point.shared.heartbeat = 0
  quiet : point.shared.triggers = false
  pattern : point.pc.handling = false →
    point.shared.heartbeatLedEnabled = false ∧ point.shared.heartbeatLedTriggered = true

/-- The latch is set, and the current byte, if any, will not write over it. -/
structure Holding (pc : Pc) (device : Device) : Prop where
  settled : pc.overwrites = false
  stopped : device.heartbeat = 0
  triggered : device.triggered = true
  ledEnabled : device.heartbeatLedEnabled = false
  ledTriggered : device.heartbeatLedTriggered = true

theorem Holding.latched {point : Point Pc Device} (holding : Holding point.pc point.shared) :
    Latched point :=
  ⟨holding.stopped, by simp [Device.triggers, holding.stopped],
    fun _ => ⟨holding.ledEnabled, holding.ledTriggered⟩⟩

theorem overwrites_received {value : UInt8} (nonzero : value ≠ 0) :
    (Pc.received value).overwrites = false := by
  unfold Pc.received
  split_ifs <;> rfl

theorem Holding.statement {pc : Pc} {device : Device} (holding : Holding pc device)
    {answer : UsbAnswer} (nonzero : ReadsNoZero ⟨pc, device⟩ (.foreground answer)) :
    Holding (device.pollUsbStatement pc answer).1 (device.pollUsbStatement pc answer).2 := by
  obtain ⟨settled, stopped, triggered, ledEnabled, ledTriggered⟩ := holding
  cases pc with
  | clearTriggered | storeHeartbeat value | testHeartbeat | setLedEnabled enabled
  | clearLedTriggered => cases settled
  | usbRead =>
      refine ⟨?_, stopped, triggered, ledEnabled, ledTriggered⟩
      cases received : answer.read with
      | none =>
          rw [Device.pollUsbStatement_usbRead_none answer received]
          rfl
      | some value =>
          have other : value ≠ 0 := by
            rintro rfl
            exact nonzero answer rfl rfl received
          rw [Device.pollUsbStatement_usbRead_some answer received]
          exact overwrites_received other
  | testTriggered value =>
      refine ⟨?_, stopped, triggered, ledEnabled, ledTriggered⟩
      rw [Device.pollUsbStatement_testTriggered_latched answer value triggered]
      rfl
  | usbCanRead | testSendStatus | readActive | readTriggered =>
      refine ⟨?_, stopped, triggered, ledEnabled, ledTriggered⟩
      unfold Device.pollUsbStatement
      dsimp only
      split_ifs <;> rfl
  | _ => exact ⟨rfl, stopped, triggered, ledEnabled, ledTriggered⟩

theorem Holding.handler {config : Config} {pc : Pc} {device : Device}
    (holding : Holding pc device) (irq : Irq) :
    Holding pc ((preempted config).handler irq device) := by
  obtain ⟨settled, stopped, triggered, ledEnabled, ledTriggered⟩ := holding
  cases irq with
  | timer =>
      have idle : device.triggers = false := by simp [Device.triggers, stopped]
      refine ⟨settled, ?_, ?_, ?_, ?_⟩
      · simp [stopped, Device.countedDown]
      · simp [triggered]
      · simp [ledEnabled]
      · simp [ledTriggered]
  | plc byte => exact ⟨settled, stopped, triggered, ledEnabled, ledTriggered⟩

/-- A trigger leaves the latch set for every byte that will not write over it. -/
theorem holding_of_triggers {config : Config} {pc : Pc} {device : Device}
    (triggers : device.triggers = true) (settled : pc.overwrites = false) :
    Holding pc (device.isrTimer1Compa config).1 := by
  refine ⟨settled, ?_, ?_, ?_, ?_⟩
  · simp [device.triggers_iff.mp triggers, Device.countedDown]
  · simp [triggers]
  · simp [triggers]
  · simp [triggers]

/-- A byte that writes over a trigger ends with the triggered LED off. -/
theorem not_latched_of_overwrites (config : Config) {pc : Pc} (device : Device)
    (overwrites : pc.overwrites = true) :
    ∃ count, ¬ Latched
      ((interleaved config).run ⟨pc, device⟩ (undisturbed ⟨false, none⟩ count)) := by
  have dark : ∀ point : Point Pc Device, point.pc = .usbCanRead →
      point.shared.heartbeatLedTriggered = false → ¬ Latched point := by
    intro point idle off latched
    have pattern := latched.pattern (by rw [idle]; rfl)
    rw [off] at pattern
    cases pattern.2
  cases pc with
  | clearTriggered => exact ⟨8, dark _ rfl rfl⟩
  | storeHeartbeat value => exact ⟨4, dark _ rfl rfl⟩
  | testHeartbeat => exact ⟨3, dark _ rfl rfl⟩
  | setLedEnabled enabled => exact ⟨2, dark _ rfl rfl⟩
  | clearLedTriggered => exact ⟨1, dark _ rfl rfl⟩
  | _ => cases overwrites

/-- After a trigger the latch lasts, however the run goes on, until the next zero
byte is read, if and only if the statement the trigger preempts is not one after
which the byte still writes over it. -/
theorem latched_iff (config : Config) (point : Point Pc Device)
    (triggers : point.shared.triggers = true) :
    (∀ acts, (interleaved config).Along ReadsNoZero
        ((interleaved config).step point (.interrupt .timer)) acts →
      Latched ((interleaved config).run point (.interrupt .timer :: acts))) ↔
      point.pc.overwrites = false := by
  constructor
  · intro latched
    by_contra overwrites
    rw [Bool.not_eq_false] at overwrites
    obtain ⟨count, overwritten⟩ := not_latched_of_overwrites config
      (point.shared.isrTimer1Compa config).1 overwrites
    exact overwritten (latched (undisturbed ⟨false, none⟩ count)
      (readsNoZero_undisturbed config _ false count))
  · intro settled acts nonzero
    exact (Preemptive.outline Holding
      (fun pc device answer holding nonzero => holding.statement nonzero)
      (fun pc device irq holding _ => holding.handler irq)
      (holding_of_triggers triggers settled) nonzero).latched

theorem latched_between_bytes :
    Latched ((interleaved makefileConfig).run ⟨.usbCanRead, Device.reset.pollUsbByte 1⟩
      [.interrupt .timer]) :=
  (latched_iff makefileConfig ⟨.usbCanRead, Device.reset.pollUsbByte 1⟩ (by decide)).mpr rfl []
    trivial

/-- A second timeout is written over a trigger that comes after the test of the latch. -/
theorem timeout_accepted_while_latched :
    ¬ ∀ point acts, (interleaved makefileConfig).Reachable point →
      point.shared.triggers = true →
      (interleaved makefileConfig).Along ReadsNoZero
        ((interleaved makefileConfig).step point (.interrupt .timer)) acts →
      Latched ((interleaved makefileConfig).run point (.interrupt .timer :: acts)) := by
  intro law
  have latched := law (pointAfter makefileConfig
    (undisturbed ⟨true, some 1⟩ 8 ++ undisturbed ⟨true, some 5⟩ 3))
    (undisturbed ⟨false, none⟩ 1) ⟨_, rfl⟩ (by decide +kernel)
    (readsNoZero_undisturbed makefileConfig _ false 1)
  exact absurd latched.stopped (by decide +kernel)

end DomeHeartbeat
