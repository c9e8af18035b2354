import DomeHeartbeat.Atomic.Siren

/-!
# The warning before a close

The siren is started by the tick that finds exactly ten ticks left, which a
countdown that is set below ten never reaches. `siren_warns` says which timeouts
keep the warning: those of ten ticks and more, of one tick, and those that are
accepted while the siren already sounds for long enough.
-/

namespace DomeHeartbeat

open Reactive

/-- Every tick that leaves an armed device with fewer than ten ticks leaves its siren on. -/
def Warned (config : Config) (history : List Event) : Prop :=
  ∀ earlier later, history = earlier ++ Event.tick :: later →
    let after := (monitor config).run .reset (earlier ++ [Event.tick])
    after.triggered = false → 1 ≤ after.heartbeat → after.heartbeat ≤ 9 → after.siren = true

/-- When a countdown that no host byte has set since the last tick triggers, that
tick left the siren on. -/
def WarnedBeforeTrigger (config : Config) (history : List Event) : Prop :=
  ∀ earlier between later, history = earlier ++ Event.tick :: (between ++ Event.tick :: later) →
    Unrefreshed between → ticks between = 0 →
    ((monitor config).run .reset (earlier ++ Event.tick :: between)).triggers = true →
    ((monitor config).run .reset (earlier ++ [Event.tick])).siren = true

/-- A timeout of two to nine ticks is only accepted while the siren is to sound
for at least as many. -/
def InTime (device : Device) : Event → Prop
  | .host value => device.triggered = false → 2 ≤ value → value ≤ 9 →
      value ≤ device.enableSirenSteps
  | _ => True

instance InTime.decidable (device : Device) : ∀ event, Decidable (InTime device event)
  | .host value => inferInstanceAs (Decidable (device.triggered = false → 2 ≤ value → value ≤ 9 →
      value ≤ device.enableSirenSteps))
  | .tick => .isTrue trivial
  | .plc _ => .isTrue trivial

/-- The siren lasts as long as a countdown below ten. -/
structure Device.Covered (device : Device) : Prop where
  valid : device.CountdownValid
  sound : device.pulse.Sound
  lasts : device.triggered = false → 2 ≤ device.heartbeat.toNat → device.heartbeat.toNat ≤ 9 →
    device.heartbeat.toNat ≤ device.pulse.left

theorem Device.Covered.reset : Device.reset.Covered :=
  ⟨.reset, nofun, fun _ low _ => absurd low (by decide)⟩

/-- What a tick makes of an armed device and its siren. -/
theorem Device.Covered.tick {config : Config} {device : Device} (covered : device.Covered)
    (untriggered : (device.isrTimer1Compa config).1.triggered = false) :
    (2 ≤ device.heartbeat.toNat → device.heartbeat.toNat ≤ 10 →
      (device.isrTimer1Compa config).1.siren = true) ∧
    (3 ≤ device.heartbeat.toNat → device.heartbeat.toNat ≤ 10 →
      device.heartbeat.toNat - 1 ≤ (device.isrTimer1Compa config).1.pulse.left) := by
  have before : device.triggered = false := by
    rw [isrTimer1Compa_triggered, Bool.or_eq_false_iff] at untriggered
    exact untriggered.1
  have loaded : 2 ≤ device.heartbeat.toNat → device.heartbeat.toNat ≤ 10 →
      device.heartbeat.toNat ≤ device.pulse.loaded 10 (device.heartbeat == 10) := by
    intro low high
    by_cases ten : device.heartbeat = 10
    · simp [Pulse.loaded, ten]
    · have notTen : device.heartbeat.toNat ≠ 10 := by simpa [← UInt8.toNat_inj] using ten
      have lasts := covered.lasts before low (by omega)
      simpa [Pulse.loaded, ten] using lasts
  constructor
  · intro low high
    have on : (device.isrTimer1Compa config).1.pulse.on = true := by
      rw [device.pulse_tick]
      exact Pulse.on_tick (Nat.lt_of_lt_of_le low (loaded low high))
    exact on
  · intro low high
    rw [device.pulse_tick, Pulse.left_tick]
    exact Nat.sub_le_sub_right (loaded (by omega) high) 1

theorem Device.Covered.step {config : Config} {device : Device} (covered : device.Covered)
    {event : Event} (inTime : InTime device event) :
    ((monitor config).step device event).Covered := by
  refine ⟨covered.valid.step config event, sound_step config covered.sound event, ?_⟩
  cases event with
  | host value =>
      rw [monitor_step_host]
      rcases pollUsbByte_cases value with ignored | rfl | ⟨positive, accepted⟩
      · intro untriggered low high
        rw [pulse_host]
        rw [pollUsbByte_ignored device value ignored] at untriggered low high ⊢
        have lasts := covered.lasts untriggered low high
        split
        · exact Nat.le_succ_of_le high
        · exact lasts
      · intro _ low _
        exact absurd low (by simp [pollUsbByte_zero])
      · have notSiren : value ≠ 0xFF := Counter.ne_of_bound accepted (by decide)
        rw [pulse_host, if_neg notSiren, pollUsbByte_timeout device value positive accepted]
        cases triggered : device.triggered with
        | true => exact fun untriggered => absurd untriggered (by simp [triggered])
        | false =>
            intro _ low high
            exact UInt8.le_iff_toNat_le.mp (inTime triggered (UInt8.le_iff_toNat_le.mpr low)
              (UInt8.le_iff_toNat_le.mpr high))
  | tick =>
      intro untriggered low high
      have counted : (device.isrTimer1Compa config).1.heartbeat.toNat =
          device.heartbeat.toNat - 1 := by
        rw [isrTimer1Compa_heartbeat]
        exact countedDown_toNat covered.valid.accepted
      rw [monitor_step_tick] at untriggered low high ⊢
      have lasts := (covered.tick untriggered).2 (by omega) (by omega)
      rwa [counted]
  | plc byte => exact covered.lasts

theorem covered_run {config : Config} {history : List Event}
    (inTime : (monitor config).Along InTime .reset history) :
    ((monitor config).run .reset history).Covered :=
  Machine.run_induction (fun _ _ covered inTime => covered.step inTime) Device.Covered.reset inTime

theorem warned_run {config : Config} {history : List Event}
    (inTime : (monitor config).Along InTime .reset history) : Warned config history := by
  rintro earlier later rfl
  dsimp only
  have covered := covered_run ((Machine.along_append _ _ _ _ _).mp inTime).1
  rw [Machine.run_append]
  generalize (monitor config).run .reset earlier = device at covered
  change (device.isrTimer1Compa config).1.triggered = false →
    1 ≤ (device.isrTimer1Compa config).1.heartbeat →
    (device.isrTimer1Compa config).1.heartbeat ≤ 9 → (device.isrTimer1Compa config).1.siren = true
  intro untriggered low high
  have counted := Device.countedDown_toNat covered.valid.accepted
  rw [Device.isrTimer1Compa_heartbeat, UInt8.le_iff_toNat_le, counted] at low high
  have least : 1 ≤ device.heartbeat.toNat - 1 := low
  have most : device.heartbeat.toNat - 1 ≤ 9 := high
  exact (covered.tick untriggered).1 (by omega) (by omega)

theorem warnedBeforeTrigger_of_warned {config : Config} {history : List Event}
    (warned : Warned config history) : WarnedBeforeTrigger config history := by
  rintro earlier between later rfl unrefreshed noTick triggers
  have valid := Device.CountdownValid.reset.run config (earlier ++ [Event.tick])
  have reached : (monitor config).run .reset (earlier ++ Event.tick :: between) =
      (monitor config).run ((monitor config).run .reset (earlier ++ [Event.tick])) between := by
    rw [← Machine.run_append, List.append_assoc]
    rfl
  have kept : latch ((monitor config).run ((monitor config).run .reset (earlier ++ [Event.tick]))
      between) = _ := latch_run valid between
  rw [watchdogActs_of_unrefreshed unrefreshed, noTick, ← reached] at kept
  have one := (Device.triggers_iff _).mp triggers
  have untriggered : ((monitor config).run .reset (earlier ++ Event.tick :: between)).triggered =
      false := by
    by_contra triggered
    have counting := Device.CountdownValid.reset.run config (earlier ++ Event.tick :: between)
    have stopped := counting.stopped (Bool.not_eq_false _ ▸ triggered)
    rw [one] at stopped
    exact absurd stopped (by decide)
  have waiting : latch ((monitor config).run .reset (earlier ++ [Event.tick])) = .waiting 1 :=
    kept.symm.trans (latch_eq_waiting.mpr ⟨untriggered, by rw [one]; rfl⟩)
  obtain ⟨armed, left⟩ := latch_eq_waiting.mp waiting
  exact warned earlier _ rfl armed (UInt8.le_iff_toNat_le.mpr (Nat.le_of_eq left.symm))
    (UInt8.le_iff_toNat_le.mpr (left ▸ by decide))

theorem unrequested_ticks {config : Config} {device : Device} (valid : device.CountdownValid)
    (low : device.heartbeat.toNat ≤ 9) (count : Nat) :
    (monitor config).Along Unrequested device (List.replicate count Event.tick) := by
  induction count generalizing device with
  | zero => trivial
  | succ count ih =>
      have notTen : device.heartbeat ≠ 10 := by
        intro ten
        rw [ten] at low
        exact absurd low (by decide)
      have counted : ((monitor config).step device .tick).heartbeat.toNat =
          device.heartbeat.toNat - 1 := by
        rw [monitor_step_tick, Device.isrTimer1Compa_heartbeat]
        exact Device.countedDown_toNat valid.accepted
      exact ⟨beq_false_of_ne notTen, ih (valid.step config .tick) (by omega)⟩

/-- A countdown that outlasts the siren is left without it. -/
theorem silent_after_ticks (config : Config) {device : Device} (valid : device.CountdownValid)
    (sound : device.pulse.Sound) (untriggered : device.triggered = false)
    (low : device.heartbeat.toNat ≤ 9) {count : Nat} (outlasted : device.pulse.left ≤ count + 1)
    (running : count + 1 < device.heartbeat.toNat) :
    let after := (monitor config).run device (List.replicate (count + 1) Event.tick)
    after.triggered = false ∧ 1 ≤ after.heartbeat ∧ after.heartbeat ≤ 9 ∧ after.siren = false := by
  intro after
  have armed : device.heartbeat ≠ 0 := by
    intro zero
    rw [zero] at running
    exact absurd running (by simp)
  have counted : latch after = _ :=
    armed_run valid untriggered armed (unrefreshed_ticks (count + 1))
  rw [ticks_replicate, if_neg (by omega), latch_eq_waiting] at counted
  have view : after.pulse = _ := pulse_run config device _
  rw [trace_of_unrequested (unrequested_ticks valid low _), ticks_replicate,
    Pulse.run_ticks 10 sound] at view
  have off : after.siren = decide (count + 1 < device.pulse.left) := congrArg Pulse.on view
  refine ⟨counted.1, ?_, ?_, ?_⟩
  · exact UInt8.le_iff_toNat_le.mpr (by rw [counted.2]; exact Nat.sub_pos_of_lt running)
  · exact UInt8.le_iff_toNat_le.mpr (by rw [counted.2]; exact Nat.le_trans (Nat.sub_le _ _) low)
  · rw [off, decide_eq_false_iff_not]
    omega

/-- An untriggered device takes a short timeout over. -/
theorem pollUsbByte_low {device : Device} {value : UInt8} (untriggered : device.triggered = false)
    (low : 2 ≤ value) (high : value ≤ 9) :
    device.pollUsbByte value = { device with
      heartbeat := value
      heartbeatLedEnabled := true
      heartbeatLedTriggered := false } := by
  have accepted : value ≤ 240 := UInt8.le_trans high (by decide)
  have positive : value ≠ 0 := (Counter.two_le_iff.mp low).1
  rw [device.pollUsbByte_timeout value positive accepted, untriggered]
  rfl

/-- After a timeout that outlasts the siren some tick is left without it. -/
theorem not_warned {config : Config} {history : List Event} {event : Event}
    (inTime : (monitor config).Along InTime .reset history)
    (late : ¬ InTime ((monitor config).run .reset history) event) :
    ∃ rest, ¬ Warned config (history ++ event :: rest) := by
  have covered := covered_run inTime
  cases event with
  | tick => exact absurd trivial late
  | plc byte => exact absurd trivial late
  | host value =>
      have reached : ∀ later, (monitor config).run .reset (history ++ Event.host value :: later) =
          (monitor config).run (((monitor config).run .reset history).pollUsbByte value) later := by
        intro later
        rw [Machine.run_append]
        rfl
      generalize (monitor config).run .reset history = device at covered late reached
      simp only [InTime, Classical.not_imp] at late
      obtain ⟨untriggered, low, high, short⟩ := late
      have armed := pollUsbByte_low untriggered low high
      have fewer : device.enableSirenSteps.toNat < value.toNat :=
        UInt8.lt_iff_toNat_lt.mp (UInt8.not_le.mp short)
      have atLeast : 2 ≤ value.toNat := UInt8.le_iff_toNat_le.mp low
      have atMost : value.toNat ≤ 9 := UInt8.le_iff_toNat_le.mp high
      -- One tick if the siren is silent, otherwise as many as it still sounds for.
      obtain ⟨count, outlasted, running⟩ : ∃ count,
          device.enableSirenSteps.toNat ≤ count + 1 ∧ count + 1 < value.toNat :=
        ⟨device.enableSirenSteps.toNat - 1, by omega, by omega⟩
      have valid := covered.valid.step config (.host value)
      have sound := sound_step config covered.sound (.host value)
      rw [monitor_step_host, armed] at valid sound
      obtain ⟨armedAfter, least, most, off⟩ :=
        silent_after_ticks config valid sound untriggered atMost outlasted running
      refine ⟨List.replicate (count + 1) Event.tick, fun warned => ?_⟩
      have split : history ++ Event.host value :: List.replicate (count + 1) Event.tick =
          (history ++ Event.host value :: List.replicate count Event.tick) ++ [Event.tick] := by
        rw [List.replicate_succ', List.append_assoc]
        rfl
      have on := warned _ _ split
      rw [← split, reached, armed] at on
      exact absurd (on armedAfter least most) (Bool.eq_false_iff.mp off)

/-- Along every run in which each accepted timeout of two to nine ticks finds the
siren sounding for at least as many, the siren warns of every close. The first
timeout that does not can be continued to a tick without the warning. -/
theorem siren_warns (config : Config) (history : List Event)
    (inTime : (monitor config).Along InTime .reset history) :
    Warned config history ∧ WarnedBeforeTrigger config history ∧
      ∀ event, ¬ InTime ((monitor config).run .reset history) event →
        ∃ rest, ¬ Warned config (history ++ event :: rest) := by
  have warned := warned_run inTime
  exact ⟨warned, warnedBeforeTrigger_of_warned warned, fun event late => not_warned inTime late⟩

theorem siren_warns_from_ten : Warned makefileConfig [.host 10, .tick, .tick] :=
  (siren_warns makefileConfig [.host 10, .tick, .tick] (by decide +kernel)).1

/-- A timeout of five ticks runs out without the siren. -/
theorem close_without_siren : ¬ ∀ history, Warned makefileConfig history := by
  intro law
  have warned := law [.host 5, .tick] [.host 5] [] rfl (by decide +kernel) (by decide +kernel)
    (by decide +kernel)
  exact absurd warned (by decide +kernel)

end DomeHeartbeat
