import DomeHeartbeat.Atomic.CloseCycle
import DomeHeartbeat.Preempted.Serialization

/-!
# A main loop that makes no progress

`usb_read` and `usb_write` may keep the main loop for any length of time.
`blocked_run` says that until a further byte is read the device does what the
atomic monitor does on the interrupts alone, from whatever point the main loop
is kept at; `closes_while_blocked` follows a countdown that is running there to
the end of the close.
-/

namespace DomeHeartbeat

open Reactive

/-- The step reads no byte from the host. -/
def ReadsNothing (point : Point Pc Device) (act : Interleaved UsbAnswer Irq) : Prop :=
  readByte point act = none

instance ReadsNothing.decidable (point : Point Pc Device) (act : Interleaved UsbAnswer Irq) :
    Decidable (ReadsNothing point act) :=
  inferInstanceAs (Decidable (readByte point act = none))

/-- The event an interrupt is to the monitor. -/
def Irq.event : Irq → Event
  | .timer => .tick
  | .plc byte => .plc byte

/-- The interrupts of a run as a history of their own. -/
def irqHistory (acts : List (Interleaved UsbAnswer Irq)) : List Event :=
  (interrupts acts).map Irq.event

/-- The number of timer interrupts in a run. -/
def timers (acts : List (Interleaved UsbAnswer Irq)) : Nat := (interrupts acts).count .timer

theorem irqHistory_append (first second : List (Interleaved UsbAnswer Irq)) :
    irqHistory (first ++ second) = irqHistory first ++ irqHistory second := by
  simp [irqHistory, interrupts]

theorem ticks_irqHistory (acts : List (Interleaved UsbAnswer Irq)) :
    ticks (irqHistory acts) = timers acts := by
  rw [ticks, irqHistory, timers]
  induction interrupts acts with
  | nil => rfl
  | cons irq irqs ih => cases irq <;> simpa [Irq.event] using ih

theorem host_not_mem_irqHistory (value : UInt8) (acts : List (Interleaved UsbAnswer Irq)) :
    .host value ∉ irqHistory acts := by
  intro member
  obtain ⟨irq, _, same⟩ := List.mem_map.mp member
  cases irq <;> cases same

theorem plc_mem_irqHistory {byte : UInt8} {acts : List (Interleaved UsbAnswer Irq)} :
    .plc byte ∈ irqHistory acts ↔ Irq.plc byte ∈ interrupts acts := by
  rw [irqHistory, List.mem_map]
  constructor
  · rintro ⟨irq, member, same⟩
    cases irq with
    | timer => cases same
    | plc other =>
        cases same
        exact member
  · intro member
    exact ⟨.plc byte, member, rfl⟩

/-- A main loop that reads no byte does not begin to handle one. -/
theorem settled_statement {pc : Pc} (settled : pc.handling = false) (device : Device)
    {answer : UsbAnswer} (unread : ReadsNothing ⟨pc, device⟩ (.foreground answer)) :
    (device.pollUsbStatement pc answer).1.handling = false := by
  cases pc with
  | usbRead =>
      rw [Device.pollUsbStatement_usbRead_none answer unread]
      rfl
  | usbCanRead | testSendStatus | readActive | readTriggered =>
      unfold Device.pollUsbStatement
      dsimp only
      split_ifs <;> rfl
  | outside | readHeartbeat | usbWrite byte | clearSendStatus => rfl
  | _ => cases settled

theorem settled_run {config : Config} {point : Point Pc Device}
    (settled : point.pc.handling = false) {acts : List (Interleaved UsbAnswer Irq)}
    (unread : (interleaved config).Along ReadsNothing point acts) :
    ((interleaved config).run point acts).pc.handling = false ∧
      (interleaved config).Along Undivided point acts := by
  induction acts generalizing point with
  | nil => exact ⟨settled, trivial⟩
  | cons act acts ih =>
      have next : ((interleaved config).step point act).pc.handling = false := by
        cases act with
        | foreground answer => exact settled_statement settled point.shared unread.1
        | interrupt irq => exact settled
      obtain ⟨last, later⟩ := ih next unread.2
      refine ⟨last, fun _ midway => ?_, later⟩
      rw [Pc.handling_of_midway midway] at settled
      cases settled

theorem bytesRead_of_readsNothing {config : Config} {point : Point Pc Device}
    {acts : List (Interleaved UsbAnswer Irq)}
    (unread : (interleaved config).Along ReadsNothing point acts) :
    bytesRead config point acts = [] := by
  induction acts generalizing point with
  | nil => rfl
  | cons act acts ih =>
      have nothing : readByte point act = none := unread.1
      rw [bytesRead, Machine.labels_cons, nothing]
      exact ih unread.2

theorem irqs_of_no_hosts {history : List Event} (none : history.filterMap Event.hostByte = []) :
    history = (history.filterMap Event.irq).map Irq.event := by
  induction history with
  | nil => rfl
  | cons event history ih =>
      cases event with
      | host value => simp [Event.hostByte] at none
      | tick => exact congrArg (Event.tick :: ·) (ih none)
      | plc byte => exact congrArg (Event.plc byte :: ·) (ih none)

theorem serialHistory_of_readsNothing {config : Config} {point : Point Pc Device}
    (settled : point.pc.handling = false) {acts : List (Interleaved UsbAnswer Irq)}
    (unread : (interleaved config).Along ReadsNothing point acts) :
    serialHistory config point acts = irqHistory acts := by
  have counted := hostBytes_serialHistory config point acts
  rw [bytesRead_of_readsNothing unread, begun_of_settled settled] at counted
  have only := irqs_of_no_hosts (List.append_eq_nil_iff.mp counted).1
  rwa [interrupts_serialHistory] at only

/-- Until a byte is read the program does what the atomic monitor does with the
interrupts alone. -/
theorem serialized_of_readsNothing {config : Config} {point : Point Pc Device}
    (settled : point.pc.handling = false) {acts : List (Interleaved UsbAnswer Irq)}
    (unread : (interleaved config).Along ReadsNothing point acts) :
    Serialized ((interleaved config).run point acts)
        ((monitor config).run point.shared (irqHistory acts)) ∧
      (commanded config).outputs point acts =
        (monitor config).outputs point.shared (irqHistory acts) := by
  rw [← serialHistory_of_readsNothing settled unread]
  exact serialized_run config point settled (settled_run settled unread).2

/-- From any point between host bytes, however the main loop is kept there and
whatever else it does, until it reads a byte the device is the atomic monitor's
after the interrupts alone, and passes the same commands on. -/
theorem blocked_run (config : Config) (point : Point Pc Device)
    (settled : point.pc.handling = false) (acts : List (Interleaved UsbAnswer Irq))
    (unread : (interleaved config).Along ReadsNothing point acts) :
    ((interleaved config).run point acts).shared =
        { (monitor config).run point.shared (irqHistory acts) with
          sendStatusByte := ((interleaved config).run point acts).shared.sendStatusByte } ∧
      (commanded config).outputs point acts =
        (monitor config).outputs point.shared (irqHistory acts) := by
  obtain ⟨ends, sent⟩ := serialized_of_readsNothing settled unread
  exact ⟨(ends.same (settled_run settled unread).1).eq, sent⟩

theorem blocked_run_in_usbWrite :
    (commanded makefileConfig).outputs ⟨.usbWrite 1, Device.reset.pollUsbByte 1⟩
        [.interrupt .timer, .interrupt (.plc (ascii 'X')), .interrupt .timer] =
      (monitor makefileConfig).outputs (Device.reset.pollUsbByte 1)
        [Event.tick, Event.plc (ascii 'X'), Event.tick] :=
  (blocked_run makefileConfig ⟨.usbWrite 1, Device.reset.pollUsbByte 1⟩ rfl
    [.interrupt .timer, .interrupt (.plc (ascii 'X')), .interrupt .timer] (by decide)).2

/-! ## A countdown that runs out -/

section Monitor

variable {config : Config} {device : Device} {history : List Event}

/-- Without a host byte the counter loses one for every tick. -/
theorem heartbeat_run_irqs (accepted : device.heartbeat ≤ 240)
    (silent : ∀ value, .host value ∉ history) :
    ((monitor config).run device history).heartbeat.toNat =
      device.heartbeat.toNat - ticks history := by
  induction history generalizing device with
  | nil => rfl
  | cons event history ih =>
      have rest : ∀ value, .host value ∉ history :=
        fun value member => silent value (List.mem_cons_of_mem _ member)
      cases event with
      | host value => exact absurd List.mem_cons_self (silent value)
      | tick =>
          have less := Device.countedDown_toNat accepted
          have later := @ih (device.isrTimer1Compa config).1
            (by simpa using Device.countedDown_le accepted) rest
          rw [Device.isrTimer1Compa_heartbeat, less] at later
          rw [Machine.run_cons, monitor_step_tick, later]
          simp only [ticks, List.count_cons_self]
          omega
      | plc byte =>
          have counted : ticks (.plc byte :: history) = ticks history := by simp [ticks]
          rw [counted]
          exact @ih (device.isrUsart1Rx byte) accepted rest

theorem unguarded_run (unguarded : Unguarded config device) (history : List Event) :
    Unguarded config ((monitor config).run device history) := by
  have preserved : ∀ device event, Unguarded config device → True →
      Unguarded config ((monitor config).step device event) :=
    fun _ event holds _ => unguarded_step holds event
  exact Machine.run_induction preserved unguarded (Machine.along_true device history)

/-- What is unread was unread before or has been received since. -/
theorem mem_unread_run {byte : UInt8}
    (unread : byte ∈ ((monitor config).run device history).unread) :
    byte ∈ device.unread ∨ .plc byte ∈ history := by
  induction history generalizing device with
  | nil => exact .inl unread
  | cons event history ih =>
      rcases ih unread with before | later
      · cases event with
        | host value => exact .inl (by simpa [Device.unread] using before)
        | tick => simp at before
        | plc received =>
            rw [monitor_step_plc, Device.unread_isrUsart1Rx] at before
            split_ifs at before with full
            · cases before
            · rcases List.mem_append.mp before with kept | now
              · exact .inl kept
              · rw [List.mem_singleton.mp now]
                exact .inr List.mem_cons_self
      · exact .inr (List.mem_cons_of_mem _ later)

/-- A report drained in a cycle has been received in it. -/
theorem exists_plc_of_drainedIn {test : UInt8 → Bool}
    (drained : DrainedIn config (device.isrTimer1Compa config).1 history test) :
    ∃ byte, .plc byte ∈ history ∧ test byte = true := by
  obtain ⟨earlier, later, rfl, seen⟩ := drained
  obtain ⟨byte, unread, passes⟩ := List.any_eq_true.mp seen
  rcases mem_unread_run unread with before | received
  · simp at before
  · exact ⟨byte, List.mem_append_left _ received, passes⟩

theorem closed_sendStep (closed : device.closed = true) :
    (device.sendStep config).1.closed = true := by
  rw [Device.closed, Bool.and_eq_true, beq_iff_eq, beq_iff_eq] at closed
  by_cases relay : device.relayResetSteps = 0
  · simp [Device.sendStep, Device.closed, relay, closed]
  · simp [Device.sendStep_of_relayReset relay, Device.closed, closed]

/-- Until the next trigger no shutter gets new close steps. -/
theorem closed_run (quiet : (monitor config).Along NoTrigger device history)
    (closed : device.closed = true) : ((monitor config).run device history).closed = true := by
  have kept : ∀ device event, device.closed = true → NoTrigger device event →
      ((monitor config).step device event).closed = true := by
    intro device event closed quiet
    cases event with
    | host value => simpa [Device.closed] using closed
    | tick =>
        rw [monitor_step_tick, Device.closed_isrTimer1Compa, Device.afterSend]
        rw [Device.closed, Bool.and_eq_true, beq_iff_eq, beq_iff_eq] at closed
        exact closed_sendStep
          ((Device.closed_beforeSend (quiet rfl)).mpr ⟨.inl closed.1, .inl closed.2⟩)
    | plc byte => exact closed
  exact Machine.run_induction kept closed quiet

/-- A cycle that no host byte disturbs: the relay follows the close flag, both
are off once the plan's ticks are spent, and by then each shutter was reported
closed or was sent every step. -/
theorem undisturbed_cycle (bounded : config.maxShutterCloseSteps ≤ 255)
    (unguarded : Unguarded config device) (triggers : device.triggers = true)
    (silent : ∀ value, .host value ∉ history) :
    ((monitor config).run device (.tick :: history)).triggered = true ∧
      ((monitor config).run device (.tick :: history)).relay =
        ((monitor config).run device (.tick :: history)).active ∧
      (relayResets config + 2 * config.maxShutterCloseSteps ≤ ticks history + 1 →
        ((monitor config).run device (.tick :: history)).active = false) ∧
      (((monitor config).run device (.tick :: history)).active = false →
        ∀ shutter, shutter = ascii 'A' ∨ shutter = ascii 'B' →
          (∃ byte, .plc byte ∈ history ∧ closes shutter byte = true) ∨
            ((monitor config).outputs device (.tick :: history)).count shutter =
              config.maxShutterCloseSteps) := by
  have stopped : (device.isrTimer1Compa config).1.heartbeat = 0 := by
    simp [device.triggers_iff.mp triggers, Device.countedDown]
  have valid : (device.isrTimer1Compa config).1.CountdownValid :=
    ⟨by rw [stopped]; exact UInt8.zero_le, fun _ => stopped⟩
  obtain ⟨latched, quiet⟩ := triggered_run valid (by simp [triggers]) (silent 0)
  obtain ⟨active, relay⟩ := active_iff_not_closedIn triggers quiet (silent 0)
  refine ⟨latched, relay, fun enough => ?_, fun inactive shutter letter => ?_⟩
  · have spent : relayResets config + 2 * config.maxShutterCloseSteps ≤
        ticks (.tick :: history) := by simpa [ticks] using enough
    have closedIn := closedIn_of_closed (closed_of_ticks bounded unguarded triggers quiet spent)
    exact Bool.eq_false_iff.mpr fun on => active.mp on closedIn
  · have ended : ClosedIn config device (.tick :: history) := by
      by_contra unclosed
      exact Bool.noConfusion ((active.mpr unclosed).symm.trans inactive)
    obtain ⟨first, rest, rfl, closed⟩ := exists_prefix_of_closedIn ended
    have still : ((monitor config).run device (.tick :: (first ++ rest))).closed = true := by
      rw [← List.cons_append, Machine.run_append]
      exact closed_run ((Machine.along_append _ _ _ _ _).mp quiet).2 closed
    rcases drainedIn_or_count bounded unguarded triggers quiet letter still with drained | sent
    · exact .inl (exists_plc_of_drainedIn drained)
    · exact .inr sent

end Monitor

theorem unguarded_step_point {config : Config} {point : Point Pc Device}
    (unguarded : Unguarded config point.shared) (act : Interleaved UsbAnswer Irq) :
    Unguarded config ((interleaved config).step point act).shared := by
  obtain ⟨pc, device⟩ := point
  cases act with
  | foreground answer =>
      have kept : (device.pollUsbStatement pc answer).2.relayResetSteps =
          device.relayResetSteps := by
        cases pc <;> rfl
      exact fun none => kept.trans (unguarded none)
  | interrupt irq =>
      cases irq with
      | timer => exact unguarded_step unguarded .tick
      | plc byte => exact unguarded

theorem unguarded_of_reachable_point {config : Config} {point : Point Pc Device}
    (reachable : (interleaved config).Reachable point) : Unguarded config point.shared := by
  refine @Machine.Reachable.induction _ _ _ (interleaved config)
    (fun point => Unguarded config point.shared) _ reachable (fun _ => rfl) ?_
  exact fun point act unguarded => unguarded_step_point unguarded act

theorem timers_append (first second : List (Interleaved UsbAnswer Irq)) :
    timers (first ++ second) = timers first + timers second := by
  simp [timers, interrupts]

/-- A running countdown loses one at every timer interrupt while nothing is read. -/
theorem heartbeat_while_blocked {config : Config} {point : Point Pc Device}
    (reachable : (interleaved config).Reachable point) (settled : point.pc.handling = false)
    {acts : List (Interleaved UsbAnswer Irq)}
    (unread : (interleaved config).Along ReadsNothing point acts) :
    ((interleaved config).run point acts).shared.heartbeat.toNat =
      point.shared.heartbeat.toNat - timers acts := by
  have accepted := (inRange_of_reachable reachable).1
  have left := @heartbeat_run_irqs config _ _ accepted
    (fun value => host_not_mem_irqHistory value acts)
  rw [ticks_irqHistory] at left
  have ends := (serialized_of_readsNothing settled unread).1
  rw [(ends.same (settled_run settled unread).1).eq]
  exact left

/-- A running countdown is due at the timer interrupt its count says. -/
theorem triggers_when_due {config : Config} {point : Point Pc Device}
    (reachable : (interleaved config).Reachable point) (settled : point.pc.handling = false)
    {acts : List (Interleaved UsbAnswer Irq)}
    (unread : (interleaved config).Along ReadsNothing point acts)
    (expires : timers acts + 1 = point.shared.heartbeat.toNat) :
    ((interleaved config).run point acts).shared.triggers = true := by
  rw [Device.triggers_iff, ← UInt8.toNat_inj, heartbeat_while_blocked reachable settled unread]
  change point.shared.heartbeat.toNat - timers acts = 1
  omega

/-- The close that a trigger starts runs to its end while nothing is read. -/
theorem cycle_while_blocked {config : Config} (bounded : config.maxShutterCloseSteps ≤ 255)
    {start : Point Pc Device} (unguarded : Unguarded config start.shared)
    (settled : start.pc.handling = false) (due : start.shared.triggers = true)
    {after : List (Interleaved UsbAnswer Irq)}
    (unread : (interleaved config).Along ReadsNothing start (.interrupt .timer :: after)) :
    ((interleaved config).run start (.interrupt .timer :: after)).shared.triggered = true ∧
      ((interleaved config).run start (.interrupt .timer :: after)).shared.relay =
        ((interleaved config).run start (.interrupt .timer :: after)).shared.active ∧
      (relayResets config + 2 * config.maxShutterCloseSteps ≤ timers after + 1 →
        ((interleaved config).run start (.interrupt .timer :: after)).shared.active = false) ∧
      (((interleaved config).run start (.interrupt .timer :: after)).shared.active = false →
        ∀ shutter, shutter = ascii 'A' ∨ shutter = ascii 'B' →
          (∃ byte, .plc byte ∈ interrupts after ∧ closes shutter byte = true) ∨
            ((commanded config).outputs start (.interrupt .timer :: after)).count shutter =
              config.maxShutterCloseSteps) := by
  obtain ⟨ends, sent⟩ := serialized_of_readsNothing settled unread
  have last := (ends.same (settled_run settled unread).1).eq
  have cycle := @undisturbed_cycle config _ _ bounded unguarded due
    (fun value => host_not_mem_irqHistory value after)
  have history : irqHistory (.interrupt .timer :: after) = .tick :: irqHistory after := rfl
  rw [last, sent, ← ticks_irqHistory, history]
  simpa only [plc_mem_irqHistory] using cycle

/-- A timeout that is running when the main loop is kept runs out on time, at
the timer interrupt its count says and not before, and the close it starts runs
to its end: the relay follows the close flag, both are off after the plan's
ticks, and by then each shutter was reported closed or was sent every step. -/
theorem closes_while_blocked (config : Config) (bounded : config.maxShutterCloseSteps ≤ 255)
    (point : Point Pc Device) (reachable : (interleaved config).Reachable point)
    (settled : point.pc.handling = false) (before after : List (Interleaved UsbAnswer Irq))
    (unread : (interleaved config).Along ReadsNothing point
      (before ++ .interrupt .timer :: after))
    (expires : timers before + 1 = point.shared.heartbeat.toNat) :
    (∀ earlier later, before = earlier ++ .interrupt .timer :: later →
        ((interleaved config).run point earlier).shared.triggers = false) ∧
      ((interleaved config).run point before).shared.triggers = true ∧
      ((interleaved config).run point (before ++ .interrupt .timer :: after)).shared.triggered =
        true ∧
      ((interleaved config).run point (before ++ .interrupt .timer :: after)).shared.relay =
        ((interleaved config).run point (before ++ .interrupt .timer :: after)).shared.active ∧
      (relayResets config + 2 * config.maxShutterCloseSteps ≤ timers after + 1 →
        ((interleaved config).run point (before ++ .interrupt .timer :: after)).shared.active =
          false) ∧
      (((interleaved config).run point (before ++ .interrupt .timer :: after)).shared.active =
          false → ∀ shutter, shutter = ascii 'A' ∨ shutter = ascii 'B' →
        (∃ byte, .plc byte ∈ interrupts after ∧ closes shutter byte = true) ∨
          ((commanded config).outputs ((interleaved config).run point before)
            (.interrupt .timer :: after)).count shutter = config.maxShutterCloseSteps) := by
  obtain ⟨unreadBefore, unreadAfter⟩ := (Machine.along_append _ _ _ _ _).mp unread
  have due := triggers_when_due reachable settled unreadBefore expires
  refine ⟨?_, due, ?_⟩
  · rintro earlier later rfl
    have left := heartbeat_while_blocked reachable settled
      ((Machine.along_append _ _ _ _ _).mp unreadBefore).1
    have more : timers (earlier ++ .interrupt .timer :: later) =
        timers earlier + timers later + 1 := by
      rw [timers_append]
      simp [timers, interrupts, Nat.add_assoc]
    refine Bool.eq_false_iff.mpr fun early => ?_
    rw [Device.triggers_iff, ← UInt8.toNat_inj, left] at early
    change point.shared.heartbeat.toNat - timers earlier = 1 at early
    omega
  · have dueReachable : (interleaved config).Reachable ((interleaved config).run point before) := by
      obtain ⟨acts, rfl⟩ := reachable
      exact ⟨acts ++ before, Machine.run_append _ _ _ _⟩
    rw [Machine.run_append]
    exact cycle_while_blocked bounded (unguarded_of_reachable_point dueReachable)
      (settled_run settled unreadBefore).1 due unreadAfter

/-- A timeout of 2 is running and `usb_write` has been called with its count. -/
def keptInUsbWrite : Point Pc Device :=
  pointAfter makefileConfig
    (Interleaved.interrupt .timer :: undisturbed ⟨true, some 2⟩ 8 ++ undisturbed ⟨false, none⟩ 5)

theorem closes_while_kept_in_usbWrite :
    ((interleaved makefileConfig).run keptInUsbWrite
      [.interrupt .timer, .interrupt .timer]).shared.triggered = true :=
  (closes_while_blocked makefileConfig (by decide) keptInUsbWrite ⟨_, rfl⟩ (by decide +kernel)
    [.interrupt .timer] [] (by decide +kernel) (by decide +kernel)).2.2.1

end DomeHeartbeat
