import DomeHeartbeat.Firmware.Device

/-!
# The timer interrupt

`isrTimer1Compa` runs the blocks of `ISR(TIMER1_COMPA_vect)` in source order.
Each block is followed by the equation that says which fields it changes; the
`isrTimer1Compa_*` equations then give every field after a whole run, and no
later module unfolds a block.
-/

namespace DomeHeartbeat

open Reactive

/-- A byte of the RS232 protocol. -/
abbrev ascii (letter : Char) : UInt8 := letter.toUInt8

/-- A PLC byte that reports the 'A' shutter closed. -/
def closesA (byte : UInt8) : Bool := byte == ascii 'X' || byte == ascii '0'

/-- A PLC byte that reports the 'B' shutter closed. -/
def closesB (byte : UInt8) : Bool := byte == ascii 'Y' || byte == ascii '0'

namespace Device

/-- `if ((led_active ^= true)) BLINKER_LED_ENABLED; else BLINKER_LED_DISABLED;` -/
def toggleBlinker (device : Device) : Device :=
  let device := { device with ledActive := device.ledActive ^^ true }
  if device.ledActive then { device with blinkerLed := true }
  else { device with blinkerLed := false }

theorem toggleBlinker_eq (device : Device) :
    device.toggleBlinker = { device with
      ledActive := !device.ledActive
      blinkerLed := !device.ledActive } := by
  unfold toggleBlinker
  cases device.ledActive <;> rfl

/-- The `switch` on one byte from the dome PLC. -/
def plcByte (device : Device) (byte : UInt8) : Device :=
  if byte = ascii 'X' then { device with shutterACloseSteps := 0 }
  else if byte = ascii 'Y' then { device with shutterBCloseSteps := 0 }
  else if byte = ascii '0' then
    { device with shutterACloseSteps := 0, shutterBCloseSteps := 0 }
  else device

theorem plcByte_eq (device : Device) (byte : UInt8) :
    device.plcByte byte = { device with
      shutterACloseSteps := if closesA byte then 0 else device.shutterACloseSteps
      shutterBCloseSteps := if closesB byte then 0 else device.shutterBCloseSteps } := by
  by_cases x : byte = ascii 'X'
  · subst x
    rfl
  by_cases y : byte = ascii 'Y'
  · subst y
    rfl
  by_cases zero : byte = ascii '0'
  · subst zero
    rfl
  · simp [plcByte, closesA, closesB, x, y, zero]

/-- At most `fuel` rounds of `while (serial_can_read()) switch (serial_read())`. -/
def drainLoop : Nat → Device → Device
  | 0, device => device
  | fuel + 1, device =>
      if device.serialCanRead then
        drainLoop fuel (device.serialRead.2.plcByte device.serialRead.1)
      else device

/-- The whole loop: the indices are at most 255 apart, so the fuel never runs
out while a byte is unread (`serialCanRead_drainPlc`). -/
def drainPlc (device : Device) : Device := drainLoop 256 device

private theorem zeroed_twice (later now : Bool) (steps : UInt8) :
    (if later then 0 else if now then 0 else steps) = if now || later then 0 else steps := by
  cases later <;> cases now <;> rfl

/-- Every unread byte is taken, and exactly the counters some byte reports
closed become zero. -/
theorem drainLoop_eq (fuel : Nat) (device : Device) (enough : device.input.count ≤ fuel) :
    drainLoop fuel device = { device with
      shutterACloseSteps := if device.unread.any closesA then 0 else device.shutterACloseSteps
      shutterBCloseSteps := if device.unread.any closesB then 0 else device.shutterBCloseSteps
      input := device.input.drained } := by
  induction fuel generalizing device with
  | zero =>
      have empty := device.input.isEmpty_iff_count.mpr (Nat.le_zero.mp enough)
      have none : device.unread = [] := device.input.isEmpty_iff_contents.mp empty
      apply Device.ext <;> simp [drainLoop, none, Ring.drained_of_isEmpty empty]
  | succ fuel ih =>
      by_cases ready : device.serialCanRead = true
      · have taken := unread_serialRead ready
        have fewer : (device.serialRead.2.plcByte device.serialRead.1).input.count ≤ fuel := by
          have lengths := congrArg List.length taken
          simp only [unread, List.length_cons, Ring.length_contents] at lengths
          rw [plcByte_eq]
          change device.serialRead.2.input.count ≤ fuel
          omega
        rw [drainLoop, if_pos ready, ih _ fewer, taken, plcByte_eq, List.any_cons, List.any_cons]
        simp only [zeroed_twice]
        rfl
      · have empty : device.input.isEmpty = true := by
          simpa [serialCanRead, Ring.isEmpty] using ready
        have none : device.unread = [] := device.input.isEmpty_iff_contents.mp empty
        apply Device.ext <;> simp [drainLoop, ready, none, Ring.drained_of_isEmpty empty]

theorem drainPlc_eq (device : Device) :
    device.drainPlc = { device with
      shutterACloseSteps := if device.unread.any closesA then 0 else device.shutterACloseSteps
      shutterBCloseSteps := if device.unread.any closesB then 0 else device.shutterBCloseSteps
      input := device.input.drained } :=
  drainLoop_eq 256 device (Nat.le_of_lt device.input.count_lt)

/-- The loop condition is false when the drain returns. -/
theorem serialCanRead_drainPlc (device : Device) : device.drainPlc.serialCanRead = false := by
  simp [drainPlc_eq, serialCanRead, Ring.drained]

/-- The body of `if (--heartbeat == 0)`. -/
def trigger (config : Config) (device : Device) : Device :=
  let device := { device with
    shutterACloseSteps := UInt8.ofNat config.maxShutterCloseSteps
    shutterBCloseSteps := UInt8.ofNat config.maxShutterCloseSteps
    heartbeatLedEnabled := false
    heartbeatLedTriggered := true
    triggered := true
    active := true
    relay := true }
  if config.hasBumperGuard then { device with relayResetSteps := 4 } else device

/-- Count down, start the siren at 10 and trigger at 0. -/
def countdown (config : Config) (device : Device) : Device :=
  if device.heartbeat != 0xFF && device.heartbeat != 0 then
    let device := if device.heartbeat == 10 then { device with enableSirenSteps := 10 } else device
    let device := { device with heartbeat := device.heartbeat - 1 }
    if device.heartbeat == 0 then device.trigger config else device
  else device

/-- The countdown reaches the trigger branch exactly from 1. -/
def triggers (device : Device) : Bool := device.heartbeat == 1

theorem triggers_iff (device : Device) : device.triggers = true ↔ device.heartbeat = 1 := by
  simp [triggers]

/-- The counter after one countdown. -/
def countedDown (heartbeat : UInt8) : UInt8 :=
  if heartbeat = 0xFF ∨ heartbeat = 0 then heartbeat else heartbeat - 1

/-- Without the reserved value the counter goes down to zero and stays there. -/
theorem countedDown_toNat {heartbeat : UInt8} (accepted : heartbeat ≤ 240) :
    (countedDown heartbeat).toNat = heartbeat.toNat - 1 := by
  have notSpecial : heartbeat ≠ 0xFF := Counter.ne_of_bound accepted (by decide)
  by_cases zero : heartbeat = 0
  · simp [countedDown, zero]
  · simp [countedDown, notSpecial, zero, Counter.toNat_pred zero]

theorem countedDown_le {heartbeat : UInt8} (accepted : heartbeat ≤ 240) :
    countedDown heartbeat ≤ 240 := by
  rw [UInt8.le_iff_toNat_le, countedDown_toNat accepted]
  exact Nat.le_trans (Nat.sub_le _ _) (UInt8.le_iff_toNat_le.mp accepted)

theorem countdown_eq (config : Config) (device : Device) :
    device.countdown config = { device with
      heartbeat := countedDown device.heartbeat
      enableSirenSteps := if device.heartbeat = 10 then 10 else device.enableSirenSteps
      active := device.active || device.triggers
      triggered := device.triggered || device.triggers
      relay := device.relay || device.triggers
      shutterACloseSteps := if device.triggers then UInt8.ofNat config.maxShutterCloseSteps
        else device.shutterACloseSteps
      shutterBCloseSteps := if device.triggers then UInt8.ofNat config.maxShutterCloseSteps
        else device.shutterBCloseSteps
      relayResetSteps := if device.triggers && config.hasBumperGuard then 4
        else device.relayResetSteps
      heartbeatLedEnabled := device.heartbeatLedEnabled && !device.triggers
      heartbeatLedTriggered := device.heartbeatLedTriggered || device.triggers } := by
  by_cases one : device.heartbeat = 1
  · cases bumper : config.hasBumperGuard <;>
      simp [countdown, countedDown, trigger, triggers, one, bumper]
  have quiet : device.triggers = false := by simp [triggers, one]
  by_cases stopped : device.heartbeat = 0xFF ∨ device.heartbeat = 0
  · have unchanged : device.countdown config = device := by
      rcases stopped with special | special <;> simp [countdown, special]
    have notTen : device.heartbeat ≠ 10 := by
      rcases stopped with special | special <;> simp [special]
    apply Device.ext <;> simp [unchanged, countedDown, quiet, stopped, notTen]
  · have counting : device.heartbeat ≠ 255 ∧ device.heartbeat ≠ 0 := not_or.mp stopped
    have left : device.heartbeat - 1 ≠ 0 := mt Counter.pred_eq_zero.mp one
    by_cases ten : device.heartbeat = 10
    · simp [countdown, countedDown, ten, quiet]
    · simp [countdown, countedDown, counting, ten, left, quiet]

/-- Pass the next command to `serial_write`, if there is one. -/
def sendStep (config : Config) (device : Device) : Device × List UInt8 :=
  if device.relayResetSteps > 0 then
    ({ device with relayResetSteps := device.relayResetSteps - 1 }, [ascii 'R'])
  else if config.closeBFirst then
    if device.shutterBCloseSteps > 0 then
      ({ device with shutterBCloseSteps := device.shutterBCloseSteps - 1 }, [ascii 'B'])
    else if device.shutterACloseSteps > 0 then
      ({ device with shutterACloseSteps := device.shutterACloseSteps - 1 }, [ascii 'A'])
    else (device, [])
  else
    if device.shutterACloseSteps > 0 then
      ({ device with shutterACloseSteps := device.shutterACloseSteps - 1 }, [ascii 'A'])
    else if device.shutterBCloseSteps > 0 then
      ({ device with shutterBCloseSteps := device.shutterBCloseSteps - 1 }, [ascii 'B'])
    else (device, [])

/-- Only the three step counters change. -/
theorem sendStep_frame (config : Config) (device : Device) :
    ∃ relayReset shutterA shutterB, (device.sendStep config).1 = { device with
      relayResetSteps := relayReset
      shutterACloseSteps := shutterA
      shutterBCloseSteps := shutterB } := by
  unfold sendStep
  split_ifs <;> exact ⟨_, _, _, rfl⟩

theorem sendStep_of_relayReset {config : Config} {device : Device}
    (left : device.relayResetSteps ≠ 0) :
    device.sendStep config =
      ({ device with relayResetSteps := device.relayResetSteps - 1 }, [ascii 'R']) := by
  have positive : 0 < device.relayResetSteps := UInt8.pos_iff_ne_zero.mpr left
  simp [sendStep, positive]

theorem sendStep_relayReset_of_zero {config : Config} {device : Device}
    (none : device.relayResetSteps = 0) : (device.sendStep config).1.relayResetSteps = 0 := by
  unfold sendStep
  split_ifs <;> simp_all

/-- The three step counters of two devices agree. -/
structure SameSteps (device other : Device) : Prop where
  relayReset : device.relayResetSteps = other.relayResetSteps
  shutterA : device.shutterACloseSteps = other.shutterACloseSteps
  shutterB : device.shutterBCloseSteps = other.shutterBCloseSteps

/-- The step counters alone decide what is sent and what is left. -/
theorem SameSteps.sendStep {device other : Device} (same : SameSteps device other)
    (config : Config) :
    (device.sendStep config).2 = (other.sendStep config).2 ∧
      SameSteps (device.sendStep config).1 (other.sendStep config).1 := by
  obtain ⟨relayReset, shutterA, shutterB⟩ := same
  unfold Device.sendStep
  rw [relayReset, shutterA, shutterB]
  split_ifs <;> exact ⟨rfl, by constructor <;> simp [relayReset, shutterA, shutterB]⟩

/-- Neither shutter has close steps left. -/
def closed (device : Device) : Bool :=
  device.shutterACloseSteps == 0 && device.shutterBCloseSteps == 0

/-- Return serial control to the PC after both shutters are closed. -/
def releaseRelay (device : Device) : Device :=
  if device.active && device.shutterACloseSteps == 0 && device.shutterBCloseSteps == 0 then
    { device with relay := false, active := false }
  else device

theorem releaseRelay_eq (device : Device) :
    device.releaseRelay = { device with
      relay := device.relay && !(device.active && device.closed)
      active := device.active && !device.closed } := by
  by_cases done : device.closed = true
  · cases active : device.active <;> cases relay : device.relay <;>
      simp_all [releaseRelay, closed, Device.ext_iff]
  · have open_ : device.closed = false := Bool.eq_false_iff.mpr done
    have kept : device.releaseRelay = device := by
      simp_all [releaseRelay, closed]
    simp [kept, open_]

/-- Sound the siren for one more step. -/
def stepSiren (device : Device) : Device :=
  if device.enableSirenSteps > 0 then
    let device := { device with siren := true }
    let device := { device with enableSirenSteps := device.enableSirenSteps - 1 }
    if device.enableSirenSteps == 0 then { device with siren := false } else device
  else device

theorem stepSiren_eq (device : Device) :
    device.stepSiren = { device with
      siren := if device.enableSirenSteps = 0 then device.siren
        else device.enableSirenSteps != 1
      enableSirenSteps := if device.enableSirenSteps = 0 then 0
        else device.enableSirenSteps - 1 } := by
  by_cases silent : device.enableSirenSteps = 0
  · apply Device.ext <;> simp [stepSiren, silent]
  · by_cases last : device.enableSirenSteps = 1
    · simp [stepSiren, last]
    · have positive : 0 < device.enableSirenSteps := UInt8.pos_iff_ne_zero.mpr silent
      have more : device.enableSirenSteps - 1 ≠ 0 := mt Counter.pred_eq_zero.mp last
      simp [stepSiren, silent, last, positive, more]

/-- `ISR(TIMER1_COMPA_vect)`: the device afterwards and the bytes passed to
`serial_write`. -/
def isrTimer1Compa (config : Config) (device : Device) : Device × List UInt8 :=
  let device := device.toggleBlinker
  let device := device.drainPlc
  let device := device.countdown config
  let sending := device.sendStep config
  let device := sending.1.releaseRelay
  let device := device.stepSiren
  ({ device with sendStatusByte := true }, sending.2)

/-- The device when the step sender is reached. -/
def beforeSend (config : Config) (device : Device) : Device :=
  device.toggleBlinker.drainPlc.countdown config

/-- The device when the step sender is done. -/
def afterSend (config : Config) (device : Device) : Device :=
  ((device.beforeSend config).sendStep config).1

theorem isrTimer1Compa_sent (config : Config) (device : Device) :
    (device.isrTimer1Compa config).2 = ((device.beforeSend config).sendStep config).2 := by
  simp only [isrTimer1Compa, beforeSend]

theorem isrTimer1Compa_device (config : Config) (device : Device) :
    (device.isrTimer1Compa config).1 =
      { (device.afterSend config).releaseRelay.stepSiren with sendStatusByte := true } := by
  simp only [isrTimer1Compa, afterSend, beforeSend]

section Fields

variable (config : Config) (device : Device)

/-- Everything up to the step sender at once. -/
theorem beforeSend_eq :
    device.beforeSend config = { device with
      ledActive := !device.ledActive
      blinkerLed := !device.ledActive
      heartbeat := countedDown device.heartbeat
      enableSirenSteps := if device.heartbeat = 10 then 10 else device.enableSirenSteps
      active := device.active || device.triggers
      triggered := device.triggered || device.triggers
      relay := device.relay || device.triggers
      shutterACloseSteps := if device.triggers then UInt8.ofNat config.maxShutterCloseSteps
        else if device.unread.any closesA then 0 else device.shutterACloseSteps
      shutterBCloseSteps := if device.triggers then UInt8.ofNat config.maxShutterCloseSteps
        else if device.unread.any closesB then 0 else device.shutterBCloseSteps
      relayResetSteps := if device.triggers && config.hasBumperGuard then 4
        else device.relayResetSteps
      heartbeatLedEnabled := device.heartbeatLedEnabled && !device.triggers
      heartbeatLedTriggered := device.heartbeatLedTriggered || device.triggers
      input := device.input.drained } := by
  simp [beforeSend, countdown_eq, drainPlc_eq, toggleBlinker_eq, triggers, unread]

theorem beforeSend_active :
    (device.beforeSend config).active = (device.active || device.triggers) := by
  rw [beforeSend_eq]

theorem beforeSend_shutterACloseSteps :
    (device.beforeSend config).shutterACloseSteps =
      if device.triggers then UInt8.ofNat config.maxShutterCloseSteps
      else if device.unread.any closesA then 0 else device.shutterACloseSteps := by
  rw [beforeSend_eq]

theorem beforeSend_shutterBCloseSteps :
    (device.beforeSend config).shutterBCloseSteps =
      if device.triggers then UInt8.ofNat config.maxShutterCloseSteps
      else if device.unread.any closesB then 0 else device.shutterBCloseSteps := by
  rw [beforeSend_eq]

theorem beforeSend_relayResetSteps :
    (device.beforeSend config).relayResetSteps =
      if device.triggers && config.hasBumperGuard then 4 else device.relayResetSteps := by
  rw [beforeSend_eq]

theorem beforeSend_enableSirenSteps :
    (device.beforeSend config).enableSirenSteps =
      if device.heartbeat = 10 then 10 else device.enableSirenSteps := by
  rw [beforeSend_eq]

/-- A whole run at once; the step counters are those the sender leaves. -/
theorem isrTimer1Compa_eq :
    (device.isrTimer1Compa config).1 = { device with
      ledActive := !device.ledActive
      blinkerLed := !device.ledActive
      heartbeat := countedDown device.heartbeat
      enableSirenSteps :=
        if (device.beforeSend config).enableSirenSteps = 0 then 0
        else (device.beforeSend config).enableSirenSteps - 1
      siren :=
        if (device.beforeSend config).enableSirenSteps = 0 then device.siren
        else (device.beforeSend config).enableSirenSteps != 1
      active := (device.active || device.triggers) && !(device.afterSend config).closed
      triggered := device.triggered || device.triggers
      relay := (device.relay || device.triggers) &&
        !((device.active || device.triggers) && (device.afterSend config).closed)
      shutterACloseSteps := (device.afterSend config).shutterACloseSteps
      shutterBCloseSteps := (device.afterSend config).shutterBCloseSteps
      relayResetSteps := (device.afterSend config).relayResetSteps
      heartbeatLedEnabled := device.heartbeatLedEnabled && !device.triggers
      heartbeatLedTriggered := device.heartbeatLedTriggered || device.triggers
      input := device.input.drained
      sendStatusByte := true } := by
  obtain ⟨relayReset, shutterA, shutterB, after⟩ :=
    sendStep_frame config (device.beforeSend config)
  rw [← afterSend] at after
  rw [isrTimer1Compa_device, stepSiren_eq, releaseRelay_eq, after, beforeSend_eq]

@[simp] theorem isrTimer1Compa_sendStatusByte :
    (device.isrTimer1Compa config).1.sendStatusByte = true := by
  rw [isrTimer1Compa_eq]

@[simp] theorem isrTimer1Compa_heartbeat :
    (device.isrTimer1Compa config).1.heartbeat = countedDown device.heartbeat := by
  rw [isrTimer1Compa_eq]

@[simp] theorem isrTimer1Compa_triggered :
    (device.isrTimer1Compa config).1.triggered = (device.triggered || device.triggers) := by
  rw [isrTimer1Compa_eq]

@[simp] theorem isrTimer1Compa_active :
    (device.isrTimer1Compa config).1.active =
      ((device.active || device.triggers) && !(device.afterSend config).closed) := by
  rw [isrTimer1Compa_eq]

@[simp] theorem isrTimer1Compa_relay :
    (device.isrTimer1Compa config).1.relay =
      ((device.relay || device.triggers) &&
        !((device.active || device.triggers) && (device.afterSend config).closed)) := by
  rw [isrTimer1Compa_eq]

@[simp] theorem isrTimer1Compa_shutterACloseSteps :
    (device.isrTimer1Compa config).1.shutterACloseSteps =
      (device.afterSend config).shutterACloseSteps := by
  rw [isrTimer1Compa_eq]

@[simp] theorem isrTimer1Compa_shutterBCloseSteps :
    (device.isrTimer1Compa config).1.shutterBCloseSteps =
      (device.afterSend config).shutterBCloseSteps := by
  rw [isrTimer1Compa_eq]

@[simp] theorem isrTimer1Compa_relayResetSteps :
    (device.isrTimer1Compa config).1.relayResetSteps =
      (device.afterSend config).relayResetSteps := by
  rw [isrTimer1Compa_eq]

@[simp] theorem isrTimer1Compa_heartbeatLedEnabled :
    (device.isrTimer1Compa config).1.heartbeatLedEnabled =
      (device.heartbeatLedEnabled && !device.triggers) := by
  rw [isrTimer1Compa_eq]

@[simp] theorem isrTimer1Compa_heartbeatLedTriggered :
    (device.isrTimer1Compa config).1.heartbeatLedTriggered =
      (device.heartbeatLedTriggered || device.triggers) := by
  rw [isrTimer1Compa_eq]

theorem isrTimer1Compa_enableSirenSteps :
    (device.isrTimer1Compa config).1.enableSirenSteps =
      if (device.beforeSend config).enableSirenSteps = 0 then 0
      else (device.beforeSend config).enableSirenSteps - 1 := by
  rw [isrTimer1Compa_eq]

theorem isrTimer1Compa_siren :
    (device.isrTimer1Compa config).1.siren =
      if (device.beforeSend config).enableSirenSteps = 0 then device.siren
      else (device.beforeSend config).enableSirenSteps != 1 := by
  rw [isrTimer1Compa_eq]

@[simp] theorem isrTimer1Compa_input :
    (device.isrTimer1Compa config).1.input = device.input.drained := by
  rw [isrTimer1Compa_eq]

@[simp] theorem unread_isrTimer1Compa : (device.isrTimer1Compa config).1.unread = [] := by
  simp [unread]

@[simp] theorem closed_isrTimer1Compa :
    (device.isrTimer1Compa config).1.closed = (device.afterSend config).closed := by
  simp [closed]

end Fields

/-! ## When a tick ends a close -/

/-- The drain of the next tick leaves no close steps for either shutter. -/
def Confirmed (device : Device) : Prop :=
  (device.shutterACloseSteps = 0 ∨ device.unread.any closesA = true) ∧
    (device.shutterBCloseSteps = 0 ∨ device.unread.any closesB = true)

instance Confirmed.decidable (device : Device) : Decidable device.Confirmed :=
  instDecidableAnd

theorem closed_beforeSend {config : Config} {device : Device} (quiet : device.triggers = false) :
    (device.beforeSend config).closed = true ↔ device.Confirmed := by
  simp only [closed, Confirmed, beforeSend_shutterACloseSteps, beforeSend_shutterBCloseSteps,
    quiet, Bool.and_eq_true, beq_iff_eq, Bool.false_eq_true, if_false]
  constructor
  · rintro ⟨shutterA, shutterB⟩
    constructor
    · by_cases reported : device.unread.any closesA = true
      · exact .inr reported
      · exact .inl (by simpa [reported] using shutterA)
    · by_cases reported : device.unread.any closesB = true
      · exact .inr reported
      · exact .inl (by simpa [reported] using shutterB)
  · rintro ⟨shutterA, shutterB⟩
    constructor
    · rcases shutterA with zero | reported
      · simp [zero]
      · simp [reported]
    · rcases shutterB with zero | reported
      · simp [zero]
      · simp [reported]

theorem closed_beforeSend_trigger {config : Config} {device : Device}
    (triggers : device.triggers = true) :
    (device.beforeSend config).closed = true ↔ config.maxShutterCloseSteps % 256 = 0 := by
  have zero : UInt8.ofNat config.maxShutterCloseSteps = 0 ↔
      config.maxShutterCloseSteps % 256 = 0 := by
    rw [← UInt8.toNat_inj, UInt8.toNat_ofNat']
    rfl
  simp [closed, beforeSend_shutterACloseSteps, beforeSend_shutterBCloseSteps, triggers, zero]

/-- A trigger hands the line back at once exactly when it loads no close steps. -/
theorem closed_afterSend_trigger {config : Config} {device : Device}
    (triggers : device.triggers = true) :
    (device.afterSend config).closed = true ↔ config.maxShutterCloseSteps % 256 = 0 := by
  rw [← closed_beforeSend_trigger triggers, afterSend]
  have same : (device.beforeSend config).shutterACloseSteps =
      (device.beforeSend config).shutterBCloseSteps := by
    simp [beforeSend_shutterACloseSteps, beforeSend_shutterBCloseSteps, triggers]
  generalize device.beforeSend config = before at same
  by_cases zero : before.shutterBCloseSteps = 0
  · rw [zero] at same
    by_cases relay : before.relayResetSteps = 0
    · simp [sendStep, closed, same, zero, relay]
    · simp [sendStep_of_relayReset relay, closed]
  · -- At most one of the two equal counters is decremented.
    have positive : 0 < before.shutterBCloseSteps := UInt8.pos_iff_ne_zero.mpr zero
    by_cases relay : before.relayResetSteps = 0
    · cases order : config.closeBFirst <;>
        simp [sendStep, closed, same, relay, positive, zero, order]
    · simp [sendStep_of_relayReset relay, closed]

-- From here on a run of the interrupt is known by the equations above.
attribute [irreducible] isrTimer1Compa beforeSend afterSend

end Device

end DomeHeartbeat
