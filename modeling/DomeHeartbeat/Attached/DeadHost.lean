import DomeHeartbeat.Attached.PollLoop
import DomeHeartbeat.Preempted.Blocked

/-!
# A host that falls silent

The dead man's switch from the bus to the latch: a countdown that is running when
the host stops sending runs out, however the main loop is kept and whatever the
bus does meanwhile. What is still in the bank can put it off by one timeout for
each byte, and only a zero byte could stop it (`silent_host_triggers`). Once all
bytes have been handled it runs out on time, and the dome is closed
(`silent_host_closes`).
-/

namespace DomeHeartbeat

open Reactive

/-- The bytes of the host that have not taken effect yet, read or not. -/
def AttachedPoint.unhandled (state : AttachedPoint) : List UInt8 :=
  state.point.pc.begun ++ state.port.received

/-- The byte an action makes count. -/
def AttachedPoint.handles (state : AttachedPoint) (act : AttachedAct) : List UInt8 :=
  (state.programAct act).elim [] fun act =>
    ((serialEvent state.point act).bind Event.hostByte).toList

/-- The way of a host byte from its packet to the statement that decides about it. -/
def byteChannel (config : Config) : Channel (attached config) UInt8 where
  taken := AttachedPoint.accepts
  held := AttachedPoint.unhandled
  passed := AttachedPoint.handles

/-- The host sends no zero byte. -/
def SendsNoZero (state : AttachedPoint) (act : AttachedAct) : Prop := 0 ∉ state.accepts act

instance SendsNoZero.decidable (state : AttachedPoint) (act : AttachedAct) :
    Decidable (SendsNoZero state act) :=
  inferInstanceAs (Decidable (0 ∉ state.accepts act))

theorem HostPauses.sendsNoZero {state : AttachedPoint} {act : AttachedAct}
    (pauses : HostPauses state act) : SendsNoZero state act := by
  rw [SendsNoZero, pauses]
  exact List.not_mem_nil

section Steps

variable {config : Config} {state : AttachedPoint}

/-- What counts and is begun afterwards was begun before or is read. -/
theorem handles_append_begun (config : Config) (state : AttachedPoint) (act : AttachedAct) :
    state.handles act ++ ((attached config).step state act).point.pc.begun =
      state.point.pc.begun ++ state.reads act := by
  rw [attached_step_point, AttachedPoint.handles, AttachedPoint.reads]
  cases state.programAct act with
  | none => exact (List.append_nil _).symm
  | some act => exact counted_or_begun config state.point act

theorem byteChannel_lossy (config : Config) : (byteChannel config).Lossy := by
  intro state act
  have read := (outChannel_lossy config state act).append_left state.point.pc.begun
  rw [← List.append_assoc, ← List.append_assoc] at read
  change List.Sublist (state.handles act ++
      (((attached config).step state act).point.pc.begun ++
        ((attached config).step state act).port.received))
    (state.point.pc.begun ++ state.port.received ++ state.accepts act)
  rw [← List.append_assoc, handles_append_begun]
  exact read

theorem byteChannel_lossless (config : Config) : (byteChannel config).Lossless KeepsBanks := by
  intro state act keeps
  have read := congrArg (state.point.pc.begun ++ ·) (outChannel_lossless config state act keeps)
  rw [← List.append_assoc, ← List.append_assoc] at read
  change state.handles act ++ (((attached config).step state act).point.pc.begun ++
      ((attached config).step state act).port.received) =
    state.point.pc.begun ++ state.port.received ++ state.accepts act
  rw [← List.append_assoc, handles_append_begun]
  exact read

/-- While the host pauses, what is unhandled was so before. -/
theorem unhandled_step {act : AttachedAct} (pauses : HostPauses state act) :
    List.Sublist (state.handles act ++ ((attached config).step state act).unhandled)
      state.unhandled := by
  have lossy := byteChannel_lossy config state act
  have nothing : (byteChannel config).taken state act = [] := pauses
  rwa [nothing, List.append_nil] at lossy

/-- The counter changes with a tick and with the store of a byte that counts. -/
theorem heartbeat_step (config : Config) (state : AttachedPoint) (act : AttachedAct)
    (ticks : act ≠ .interrupt .timer) :
    ((attached config).step state act).point.shared.heartbeat = state.point.shared.heartbeat ∨
      ∃ value, state.point.pc = .storeHeartbeat value ∧ state.handles act = [value] ∧
        ((attached config).step state act).point.shared.heartbeat = value := by
  obtain ⟨⟨pc, device⟩, port, writePc⟩ := state
  cases act with
  | foreground answer =>
      cases pc with
      | storeHeartbeat value => exact .inr ⟨value, rfl, rfl, rfl⟩
      | usbWrite byte =>
          refine .inl ?_
          cases goes : (port.usbWrite byte writePc answer).1 <;>
            simp [AttachedPoint.programAct, AttachedPoint.call, Device.pollUsbStatement, goes]
      | _ => exact .inl rfl
  | interrupt irq =>
      cases irq with
      | timer => exact absurd rfl ticks
      | plc byte => exact .inl rfl
  | usb event => exact .inl rfl

/-- The latch is released by a zero byte only. -/
theorem triggered_step {act : AttachedAct} (triggered : state.point.shared.triggered = true)
    (nonzero : 0 ∉ state.unhandled) :
    ((attached config).step state act).point.shared.triggered = true := by
  obtain ⟨⟨pc, device⟩, port, writePc⟩ := state
  dsimp only at triggered
  cases act with
  | foreground answer =>
      cases pc with
      | clearTriggered => exact absurd List.mem_cons_self nonzero
      | usbWrite byte =>
          cases goes : (port.usbWrite byte writePc answer).1 <;>
            simp [AttachedPoint.programAct, AttachedPoint.call, Device.pollUsbStatement, goes,
              triggered]
      | _ => exact triggered
  | interrupt irq =>
      cases irq with
      | timer => simp [AttachedPoint.programAct, triggered]
      | plc byte => exact triggered
  | usb event => exact triggered

end Steps

/-- The countdown runs and no zero byte is on its way. -/
structure Doomed (config : Config) (state : AttachedPoint) : Prop where
  reachable : (interleaved config).Reachable state.point
  running : state.point.shared.heartbeat ≠ 0
  nonzero : 0 ∉ state.unhandled

/-- The latch is set and no zero byte is on its way. -/
def Tripped (state : AttachedPoint) : Prop :=
  state.point.shared.triggered = true ∧ 0 ∉ state.unhandled

/-- The ticks until the countdown runs out, if every unhandled byte restarts it. -/
def AttachedPoint.ticksLeft (state : AttachedPoint) : Nat :=
  state.point.shared.heartbeat.toNat - 1 + 240 * state.unhandled.length

section Doom

variable {config : Config} {state : AttachedPoint}

theorem reachable_step (reachable : (interleaved config).Reachable state.point)
    (act : AttachedAct) :
    (interleaved config).Reachable ((attached config).step state act).point := by
  rw [attached_step_point]
  cases state.programAct act with
  | none => exact reachable
  | some act =>
      obtain ⟨acts, same⟩ := reachable
      refine ⟨acts ++ [act], ?_⟩
      rw [Machine.run_append, same]
      rfl

theorem nonzero_step {act : AttachedAct} (sends : SendsNoZero state act)
    (nonzero : 0 ∉ state.unhandled) : 0 ∉ ((attached config).step state act).unhandled := by
  intro zero
  have lossy := byteChannel_lossy config state act
  rcases List.mem_append.mp (lossy.subset (List.mem_append_right _ zero)) with before | sent
  · exact nonzero before
  · exact sends sent

theorem Tripped.step (tripped : Tripped state) {act : AttachedAct}
    (sends : SendsNoZero state act) : Tripped ((attached config).step state act) :=
  ⟨triggered_step tripped.1 tripped.2, nonzero_step sends tripped.2⟩

/-- A tick trips the latch or uses up one of the ticks left. -/
theorem Doomed.tick (doomed : Doomed config state) :
    Tripped ((attached config).step state (.interrupt .timer)) ∨
      Doomed config ((attached config).step state (.interrupt .timer)) ∧
        ((attached config).step state (.interrupt .timer)).ticksLeft + 1 ≤ state.ticksLeft := by
  have accepted := (inRange_of_reachable doomed.reachable).1
  have running := mt UInt8.toNat_inj.mp doomed.running
  have counted : ((attached config).step state (.interrupt .timer)).point.shared.heartbeat =
      Device.countedDown state.point.shared.heartbeat :=
    Device.isrTimer1Compa_heartbeat config state.point.shared
  have less := Device.countedDown_toNat accepted
  by_cases last : state.point.shared.heartbeat = 1
  · refine .inl ⟨?_, doomed.nonzero⟩
    have latched := Device.isrTimer1Compa_triggered config state.point.shared
    rw [(Device.triggers_iff _).mpr last, Bool.or_true] at latched
    exact latched
  · have more := mt UInt8.toNat_inj.mp last
    change state.point.shared.heartbeat.toNat ≠ 0 at running
    change state.point.shared.heartbeat.toNat ≠ 1 at more
    refine .inr ⟨⟨reachable_step doomed.reachable _, ?_, doomed.nonzero⟩, ?_⟩
    · rw [counted]
      intro zero
      rw [zero] at less
      change 0 = _ at less
      omega
    · have same : ((attached config).step state (.interrupt .timer)).unhandled =
          state.unhandled := rfl
      rw [AttachedPoint.ticksLeft, AttachedPoint.ticksLeft, counted, less, same]
      omega

/-- A byte that counts pays for the countdown it restarts. -/
theorem Doomed.step (doomed : Doomed config state) {act : AttachedAct}
    (pauses : HostPauses state act) :
    Tripped ((attached config).step state act) ∨
      Doomed config ((attached config).step state act) ∧
        ((attached config).step state act).ticksLeft +
            (if act == .interrupt .timer then 1 else 0) ≤ state.ticksLeft := by
  by_cases tick : act = .interrupt .timer
  · subst tick
    exact doomed.tick
  · have fewer := (@unhandled_step config state act pauses).length_le
    have reachable := reachable_step doomed.reachable act
    have nonzero := @nonzero_step config state act pauses.sendsNoZero doomed.nonzero
    rw [List.length_append] at fewer
    rw [if_neg (mt eq_of_beq tick), Nat.add_zero]
    refine .inr ?_
    rcases heartbeat_step config state act tick with same | ⟨value, stores, counts, stored⟩
    · refine ⟨⟨reachable, same ▸ doomed.running, nonzero⟩, ?_⟩
      rw [AttachedPoint.ticksLeft, AttachedPoint.ticksLeft, same]
      omega
    · have accepted := (inRange_of_reachable doomed.reachable).2 value (.inr stores)
      have mine : value ∈ state.unhandled := by
        rw [AttachedPoint.unhandled, stores]
        exact List.mem_cons_self
      refine ⟨⟨reachable, ?_, nonzero⟩, ?_⟩
      · rw [stored]
        rintro rfl
        exact doomed.nonzero mine
      · have bound : value.toNat ≤ 240 := UInt8.le_iff_toNat_le.mp accepted
        rw [counts, List.length_singleton] at fewer
        rw [AttachedPoint.ticksLeft, AttachedPoint.ticksLeft, stored]
        omega

end Doom

/-- The rank of a countdown without a host. -/
def towardsTrigger (config : Config) : Progress (attached config) HostPauses where
  within := Doomed config
  done := Tripped
  rank := AttachedPoint.ticksLeft
  counts _ act := act == .interrupt .timer
  step _ _ doomed pauses := doomed.step pauses

theorem reachable_point {config : Config} {state : AttachedPoint}
    (reachable : (attached config).Reachable state) :
    (interleaved config).Reachable state.point := by
  obtain ⟨acts, rfl⟩ := reachable
  exact ⟨_, (point_run config (attached config).initial acts).symm⟩

/-- From the moment the host falls silent a running countdown trips the latch, at
the latest after the ticks it has left and 240 for each byte that is still
unhandled, none of which may be zero; the latch then stays set. This holds
wherever the main loop is kept and whatever happens on the bus. -/
theorem silent_host_triggers (config : Config) (state : AttachedPoint)
    (reachable : (attached config).Reachable state)
    (running : state.point.shared.heartbeat ≠ 0) (nonzero : 0 ∉ state.unhandled)
    (acts : List AttachedAct) (silent : (attached config).Along HostPauses state acts)
    (enough : state.point.shared.heartbeat.toNat + 240 * state.unhandled.length ≤
      acts.count (.interrupt .timer)) :
    ((attached config).run state acts).point.shared.triggered = true := by
  have positive : 0 < state.point.shared.heartbeat.toNat :=
    Nat.pos_of_ne_zero fun zero => running (UInt8.toNat_inj.mp zero)
  have counted := (attached config).countAlong_const (· == .interrupt .timer) state acts
  have rank : (towardsTrigger config).rank state <
      (attached config).countAlong (towardsTrigger config).counts state acts := by
    change state.point.shared.heartbeat.toNat - 1 + 240 * state.unhandled.length <
      (attached config).countAlong (fun _ act => act == .interrupt .timer) state acts
    rw [counted, ← List.count_eq_countP]
    omega
  obtain ⟨earlier, later, rfl, tripped⟩ :=
    (towardsTrigger config).run ⟨reachable_point reachable, running, nonzero⟩ silent rank
  have preserved : ∀ state act, Tripped state → HostPauses state act →
      Tripped ((attached config).step state act) :=
    fun _ _ tripped pauses => tripped.step pauses.sendsNoZero
  rw [Machine.run_append]
  exact (Machine.run_induction preserved tripped
    ((Machine.along_append _ _ _ _ _).mp silent).2).1

/-- A timeout of 3 has been stored when the cable is pulled. -/
def cablePulled : List AttachedAct :=
  plugIn ++ .usb (.outPacket [3]) :: loopRounds 10 ++ [AttachedAct.usb (.vbus false)]

theorem pulled_cable_triggers :
    ((attached makefileConfig).run ((attached makefileConfig).run .reset cablePulled)
      [.interrupt .timer, .interrupt .timer, .foreground ⟨0, false⟩,
        .interrupt .timer]).point.shared.triggered = true :=
  silent_host_triggers makefileConfig ((attached makefileConfig).run .reset cablePulled)
    ⟨cablePulled, rfl⟩ (by decide +kernel) (by decide +kernel)
    [.interrupt .timer, .interrupt .timer, .foreground ⟨0, false⟩, .interrupt .timer]
    (by decide +kernel) (by decide +kernel)

/-! ## The close -/

section Close

variable {config : Config} {state : AttachedPoint}

/-- A silent host whose bytes have all taken effect has nothing read. -/
theorem unread_programTrace (handled : state.unhandled = []) {acts : List AttachedAct}
    (silent : (attached config).Along HostPauses state acts) :
    (interleaved config).Along ReadsNothing state.point (programTrace config state acts) := by
  induction acts generalizing state with
  | nil => trivial
  | cons act acts ih =>
      have kept := @unhandled_step config state act silent.1
      rw [handled] at kept
      have later := ih (List.append_eq_nil_iff.mp (List.sublist_nil.mp kept)).2 silent.2
      have empty := (List.append_eq_nil_iff.mp handled).2
      have read := outChannel_lossy config state act
      have nothing : (outChannel config).held state ++ (outChannel config).taken state act = [] :=
        List.append_eq_nil_iff.mpr ⟨empty, silent.1⟩
      rw [nothing] at read
      have unread : state.reads act = [] :=
        (List.append_eq_nil_iff.mp (List.sublist_nil.mp read)).1
      change (interleaved config).Along ReadsNothing state.point
        ((state.programAct act).toList ++
          programTrace config ((attached config).step state act) acts)
      rw [AttachedPoint.reads] at unread
      rw [attached_step_point] at later
      cases finished : state.programAct act with
      | none =>
          rw [finished] at later
          exact later
      | some step =>
          rw [finished] at later unread
          exact ⟨Option.toList_eq_nil_iff.mp unread, later⟩

theorem timers_programTrace (config : Config) (state : AttachedPoint) (acts : List AttachedAct) :
    timers (programTrace config state acts) = acts.count (.interrupt .timer) := by
  rw [timers, interrupts_programTrace]
  induction acts with
  | nil => rfl
  | cons act acts ih =>
      cases act with
      | interrupt irq =>
          change (irq :: attachedIrqs acts).count .timer = _
          rw [List.count_cons, List.count_cons, ih]
          cases irq <;> rfl
      | foreground answer =>
          have other : AttachedAct.foreground answer ≠ .interrupt .timer := by
            rintro ⟨⟩
          rw [List.count_cons_of_ne other]
          exact ih
      | usb event =>
          have other : AttachedAct.usb event ≠ .interrupt .timer := by
            rintro ⟨⟩
          rw [List.count_cons_of_ne other]
          exact ih

theorem interrupt_mem_of_attachedIrqs {irq : Irq} {acts : List AttachedAct}
    (member : irq ∈ attachedIrqs acts) : .interrupt irq ∈ acts := by
  obtain ⟨act, mine, same⟩ := List.mem_filterMap.mp member
  cases act with
  | interrupt other =>
      cases same
      exact mine
  | foreground answer => cases same
  | usb event => cases same

/-- A run with enough ticks splits at the tick with a given number. -/
theorem exists_tick {acts : List AttachedAct} {number : Nat} (positive : 0 < number)
    (enough : number ≤ acts.count (.interrupt .timer)) :
    ∃ before after, acts = before ++ .interrupt .timer :: after ∧
      before.count (.interrupt .timer) + 1 = number := by
  induction acts generalizing number with
  | nil => exact absurd enough (Nat.not_le.mpr positive)
  | cons act acts ih =>
      by_cases tick : act = .interrupt .timer
      · subst tick
        by_cases first : number = 1
        · exact ⟨[], acts, rfl, first.symm⟩
        · rw [List.count_cons_self] at enough
          obtain ⟨before, after, rfl, counted⟩ := @ih (number - 1) (by omega) (by omega)
          refine ⟨.interrupt .timer :: before, after, rfl, ?_⟩
          rw [List.count_cons_self]
          omega
      · rw [List.count_cons_of_ne tick] at enough
        obtain ⟨before, after, rfl, counted⟩ := ih positive enough
        exact ⟨act :: before, after, rfl, by rwa [List.count_cons_of_ne tick]⟩

end Close

/-- A host that falls silent between two bytes leaves a running countdown to
trigger at the tick its count says; after the ticks of the plan the close is over,
the relay is released, and each shutter was reported closed since the trigger or
was sent every step. Nothing is assumed about the main loop and the bus. -/
theorem silent_host_closes (config : Config) (bounded : config.maxShutterCloseSteps ≤ 255)
    (state : AttachedPoint) (reachable : (attached config).Reachable state)
    (running : state.point.shared.heartbeat ≠ 0) (settled : state.point.pc.handling = false)
    (handled : state.port.received = []) (acts : List AttachedAct)
    (silent : (attached config).Along HostPauses state acts)
    (enough : state.point.shared.heartbeat.toNat +
        (relayResets config + 2 * config.maxShutterCloseSteps) ≤
      acts.count (.interrupt .timer)) :
    ∃ before after, acts = before ++ .interrupt .timer :: after ∧
      before.count (.interrupt .timer) + 1 = state.point.shared.heartbeat.toNat ∧
      ((attached config).run state before).point.shared.triggers = true ∧
      ((attached config).run state acts).point.shared.triggered = true ∧
      ((attached config).run state acts).point.shared.active = false ∧
      ((attached config).run state acts).point.shared.relay = false ∧
      ∀ shutter, shutter = ascii 'A' ∨ shutter = ascii 'B' →
        (∃ byte, .interrupt (.plc byte) ∈ after ∧ closes shutter byte = true) ∨
          ((commanded config).outputs ((attached config).run state before).point
            (programTrace config ((attached config).run state before)
              (.interrupt .timer :: after))).count shutter = config.maxShutterCloseSteps := by
  have positive : 0 < state.point.shared.heartbeat.toNat :=
    Nat.pos_of_ne_zero fun zero => running (UInt8.toNat_inj.mp zero)
  obtain ⟨before, after, rfl, expires⟩ :=
    exists_tick positive ((Nat.le_add_right _ _).trans enough)
  obtain ⟨silentBefore, silentAfter⟩ := (Machine.along_append _ _ _ _ _).mp silent
  have nothing : state.unhandled = [] := by
    rw [AttachedPoint.unhandled, begun_of_settled settled, handled]
    rfl
  have unread := unread_programTrace nothing silent
  have start := reachable_point reachable
  rw [programTrace_append] at unread
  obtain ⟨unreadBefore, unreadAfter⟩ := (Machine.along_append _ _ _ _ _).mp unread
  rw [← point_run] at unreadAfter
  have due : ((attached config).run state before).point.shared.triggers = true := by
    rw [point_run]
    refine triggers_when_due start settled unreadBefore ?_
    rw [timers_programTrace]
    exact expires
  have kept : ((attached config).run state before).point.pc.handling = false := by
    rw [point_run]
    exact (settled_run settled unreadBefore).1
  have between : (attached config).Reachable ((attached config).run state before) := by
    obtain ⟨earlier, rfl⟩ := reachable
    exact ⟨earlier ++ before, Machine.run_append _ _ _ _⟩
  have unguarded := unguarded_of_reachable_point (reachable_point between)
  have tick : programTrace config ((attached config).run state before)
      (.interrupt .timer :: after) = .interrupt .timer ::
        programTrace config
          ((attached config).step ((attached config).run state before) (.interrupt .timer))
          after := rfl
  have last := point_run config ((attached config).run state before) (.interrupt .timer :: after)
  rw [tick] at unreadAfter last
  obtain ⟨triggered, relay, spent, closed⟩ :=
    cycle_while_blocked bounded unguarded kept due unreadAfter
  rw [← last] at triggered relay spent closed
  rw [timers_programTrace] at spent
  have inactive := spent (by
    rw [List.count_append, List.count_cons_self] at enough
    omega)
  rw [Machine.run_append]
  refine ⟨before, after, rfl, expires, due, triggered, inactive, relay.trans inactive, ?_⟩
  intro shutter letter
  rcases closed inactive shutter letter with ⟨byte, received, closes⟩ | sent
  · refine .inl ⟨byte, ?_, closes⟩
    rw [interrupts_programTrace] at received
    exact interrupt_mem_of_attachedIrqs received
  · exact .inr (tick ▸ sent)

theorem pulled_cable_closes :
    ∃ before after, List.replicate 134 (.interrupt .timer) =
        before ++ AttachedAct.interrupt .timer :: after ∧
      before.count (.interrupt .timer) + 1 = 3 ∧
      ((attached makefileConfig).run ((attached makefileConfig).run .reset cablePulled)
        (List.replicate 134 (.interrupt .timer))).point.shared.relay = false := by
  obtain ⟨before, after, split, expires, _, _, _, relay, _⟩ :=
    silent_host_closes makefileConfig (by decide)
      ((attached makefileConfig).run .reset cablePulled) ⟨cablePulled, rfl⟩ (by decide +kernel)
      (by decide +kernel) (by decide +kernel) (List.replicate 134 (.interrupt .timer))
      (by decide +kernel) (by decide +kernel)
  exact ⟨before, after, split, expires, relay⟩

end DomeHeartbeat
