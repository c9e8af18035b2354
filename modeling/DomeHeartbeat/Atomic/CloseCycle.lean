import DomeHeartbeat.Atomic.Commands

/-!
# Close cycles

`command_stream` gives the shape of what one cycle sends and `handed_back` when
the cycle ends. Both read a cycle off its plan: the shape is `Stages.stream`,
the bound `Stages.total_run`, and a shutter that is not reported closed keeps
all its steps by `Stages.count_add_remaining`.
-/

namespace DomeHeartbeat

open Reactive

theorem noTrigger_of_append {config : Config} {device : Device} {first second : List Event}
    (quiet : (monitor config).Along NoTrigger device (first ++ second)) :
    (monitor config).Along NoTrigger ((monitor config).run device first) second :=
  ((Machine.along_append _ _ _ _ _).mp quiet).2

/-- Before the first trigger nothing is sent. -/
theorem silent_before_trigger {config : Config} {history : List Event}
    (quiet : (monitor config).Along NoTrigger .reset history) :
    (monitor config).outputs .reset history = [] := by
  rw [(planSimulation config).outputs_run
    (fun device event _ => planSimulation_emits config device event) trivial quiet]
  apply Stages.outputs_of_exhausted
  change Stages.total (stages config .reset) = 0
  cases order : config.closeBFirst <;>
    simp [stages, shutterStages, Stages.total, Device.reset, order]

/-- One tick passes at most one byte on. -/
theorem length_sent_le (config : Config) (device : Device) :
    (device.isrTimer1Compa config).2.length ≤ 1 := by
  have sent := Stages.length_send_le (stages config (device.beforeSend config))
  rwa [send_beforeSend] at sent

/-- After a tick that sends nothing, nothing is sent until the next trigger. -/
theorem silent_after_silence {config : Config} {device : Device} {later : List Event}
    (silent : (device.isrTimer1Compa config).2 = [])
    (quiet : (monitor config).Along NoTrigger (device.isrTimer1Compa config).1 later) :
    (monitor config).outputs (device.isrTimer1Compa config).1 later = [] := by
  have sent := send_beforeSend config device
  have empty := (Stages.send_eq_nil_iff _).mp ((congrArg Prod.fst sent).trans silent)
  have left := Stages.total_send (stages config (device.beforeSend config))
  rw [sent] at left
  rw [(planSimulation config).outputs_run
    (fun device event _ => planSimulation_emits config device event) trivial quiet]
  apply Stages.outputs_of_exhausted
  change Stages.total (stages config (device.isrTimer1Compa config).1) = 0
  dsimp only at left
  omega

section Cycle

variable {config : Config} {device : Device} {rest : List Event}

theorem not_cancelled_of_mem {cancelled : UInt8 → Bool} {label : UInt8}
    (member : cancelled ∈ cycleActs config device rest) (cancels : cancelled label = true) :
    DrainedIn config ((monitor config).step device .tick) rest (closes label) := by
  rcases List.mem_cons.mp member with first | later
  · rw [first] at cancels
    cases cancels
  · exact drainedIn_of_mem_trace later cancels

theorem not_drainedIn_relay (device : Device) (acts : List Event) :
    ¬ DrainedIn config device acts (closes (ascii 'R')) := by
  rintro ⟨earlier, later, rfl, seen⟩
  obtain ⟨byte, _, closed⟩ := List.any_eq_true.mp seen
  exact absurd closed Bool.false_ne_true

/-- What a cycle sends is a stream of its plan, cut only by drained reports. -/
theorem cycle_stream (bounded : config.maxShutterCloseSteps ≤ 255)
    (unguarded : Unguarded config device) (triggers : device.triggers = true)
    (quiet : (monitor config).Along NoTrigger ((monitor config).step device .tick) rest) :
    Stages.Stream
      (fun label => DrainedIn config ((monitor config).step device .tick) rest (closes label))
      (fullPlan config) ((monitor config).outputs device (.tick :: rest)) := by
  rw [cycle_outputs bounded unguarded triggers quiet]
  exact Stages.stream _ _ fun act member label cancels => not_cancelled_of_mem member cancels

end Cycle

/-- Nothing is sent before the first trigger. From a trigger to the next the
bytes are relay resets, then steps of the first shutter, then steps of the
second, at most one a tick and none after a tick without one; the second shutter
is only reached once the resets are complete and the first shutter is complete
or reported closed. -/
theorem command_stream (config : Config) (bounded : config.maxShutterCloseSteps ≤ 255) :
    (∀ history, (monitor config).Along NoTrigger .reset history →
      (monitor config).outputs .reset history = []) ∧
    ∀ device rest, (monitor config).Reachable device → device.triggers = true →
      (monitor config).Along NoTrigger ((monitor config).step device .tick) rest →
      (∃ resets first second,
        (monitor config).outputs device (.tick :: rest) =
          List.replicate resets (ascii 'R') ++ List.replicate first (firstShutter config) ++
            List.replicate second (secondShutter config) ∧
        resets ≤ relayResets config ∧ first ≤ config.maxShutterCloseSteps ∧
        second ≤ config.maxShutterCloseSteps ∧
        (0 < second → resets = relayResets config ∧
          (first < config.maxShutterCloseSteps →
            DrainedIn config ((monitor config).step device .tick) rest
              (closes (firstShutter config))))) ∧
      ∀ earlier later, .tick :: rest = earlier ++ .tick :: later →
        ((monitor config).emit ((monitor config).run device earlier) .tick).length ≤ 1 ∧
        ((monitor config).emit ((monitor config).run device earlier) .tick = [] →
          (monitor config).outputs ((monitor config).run device (earlier ++ [.tick])) later =
            []) := by
  refine ⟨fun history quiet => silent_before_trigger quiet, ?_⟩
  intro device rest reachable triggers quiet
  constructor
  · obtain ⟨resets, tail, shape, resetsLe, resetsDone, first, tail', rfl, firstLe, firstDone,
      second, tail'', rfl, secondLe, _, rfl⟩ :=
      cycle_stream bounded (unguarded_of_reachable reachable) triggers quiet
    refine ⟨resets, first, second, ?_, resetsLe, firstLe, secondLe, fun reached => ⟨?_, ?_⟩⟩
    · rw [shape, List.append_nil, List.append_assoc]
    · have more : List.replicate first (firstShutter config) ++
          (List.replicate second (secondShutter config) ++ []) ≠ [] := by
        simp only [List.append_nil, Ne, List.append_eq_nil_iff, List.replicate_eq_nil_iff]
        omega
      exact (resetsDone more).resolve_right (not_drainedIn_relay _ _)
    · intro short
      have more : List.replicate second (secondShutter config) ++ [] ≠ [] := by
        simp only [List.append_nil, Ne, List.replicate_eq_nil_iff]
        omega
      exact (firstDone more).resolve_left (by omega)
  · intro earlier later split
    refine ⟨?_, fun silent => ?_⟩
    · rw [monitor_emit_tick]
      exact length_sent_le config _
    · rw [monitor_emit_tick] at silent
      have after : (monitor config).Along NoTrigger
          ((((monitor config).run device earlier).isrTimer1Compa config).1) later := by
        cases earlier with
        | nil =>
            cases split
            exact quiet
        | cons event earlier =>
            injection split with head tail
            subst head tail
            exact (noTrigger_of_append quiet).2
      rw [Machine.run_append]
      exact silent_after_silence silent after

theorem command_stream_at_reset :
    (monitor makefileConfig).outputs .reset [] = [] ∧
      ∃ resets first second,
        (monitor makefileConfig).outputs (Device.reset.pollUsbByte 1) [.tick] =
          List.replicate resets (ascii 'R') ++ List.replicate first (ascii 'B') ++
            List.replicate second (ascii 'A') ∧
        resets ≤ 4 ∧ first ≤ 62 ∧ second ≤ 62 ∧
        (0 < second → resets = 4 ∧
          (first < 62 → DrainedIn makefileConfig
            ((monitor makefileConfig).step (Device.reset.pollUsbByte 1) .tick) []
            (closes (ascii 'B')))) :=
  ⟨(command_stream makefileConfig (by decide)).1 [] trivial,
    ((command_stream makefileConfig (by decide)).2 (Device.reset.pollUsbByte 1) []
      ⟨[.host 1], rfl⟩ (by decide) trivial).1⟩

/-- Some tick of the run ends with no close steps left for either shutter. -/
def ClosedIn (config : Config) (device : Device) (acts : List Event) : Prop :=
  ∃ earlier later, acts = earlier ++ .tick :: later ∧
    ((monitor config).run device (earlier ++ [.tick])).closed = true

theorem closedIn_append_singleton {config : Config} {device : Device} {acts : List Event}
    {event : Event} :
    ClosedIn config device (acts ++ [event]) ↔
      ClosedIn config device acts ∨
        event = .tick ∧ ((monitor config).run device (acts ++ [.tick])).closed = true := by
  constructor
  · rintro ⟨earlier, later, split, closed⟩
    rcases List.eq_nil_or_concat later with rfl | ⟨rest, last, rfl⟩
    · obtain ⟨rfl, same⟩ := List.append_inj' split rfl
      cases same
      exact .inr ⟨rfl, closed⟩
    · have same : acts ++ [event] = (earlier ++ .tick :: rest) ++ [last] := by simpa using split
      obtain ⟨rfl, _⟩ := List.append_inj' same rfl
      exact .inl ⟨earlier, rest, rfl, closed⟩
  · rintro (⟨earlier, later, rfl, closed⟩ | ⟨rfl, closed⟩)
    · exact ⟨earlier, later ++ [event], by simp, closed⟩
    · exact ⟨acts, [], rfl, closed⟩

theorem not_closedIn_nil {config : Config} {device : Device} : ¬ ClosedIn config device [] := by
  rintro ⟨earlier, later, split, _⟩
  simp at split

/-- While no zero byte is handled, a triggered device stays triggered, and no
tick triggers again. -/
theorem triggered_run {config : Config} {device : Device} {acts : List Event}
    (valid : device.CountdownValid) (triggered : device.triggered = true)
    (enabled : .host 0 ∉ acts) :
    ((monitor config).run device acts).triggered = true ∧
      (monitor config).Along NoTrigger device acts := by
  induction acts generalizing device with
  | nil => exact ⟨triggered, trivial⟩
  | cons event acts ih =>
      have still : ((monitor config).step device event).triggered = true := by
        cases event with
        | host value =>
            have nonzero : value ≠ 0 := fun zero => enabled (zero ▸ List.mem_cons_self)
            simp [triggered, nonzero]
        | tick => simp [triggered]
        | plc byte => exact triggered
      obtain ⟨last, quiet⟩ := ih (valid.step config event) still
        (fun member => enabled (List.mem_cons_of_mem _ member))
      exact ⟨last, fun _ => valid.triggers_false triggered, quiet⟩

/-- The close flag and the relay are on exactly until a tick ends closed. -/
theorem active_iff_not_closedIn {config : Config} {device : Device} {acts : List Event}
    (triggers : device.triggers = true)
    (quiet : (monitor config).Along NoTrigger ((monitor config).step device .tick) acts)
    (enabled : .host 0 ∉ acts) :
    (((monitor config).run device (.tick :: acts)).active = true ↔
        ¬ ClosedIn config device (.tick :: acts)) ∧
      ((monitor config).run device (.tick :: acts)).relay =
        ((monitor config).run device (.tick :: acts)).active := by
  induction acts using List.reverseRecOn with
  | nil =>
      rw [← List.nil_append [Event.tick], closedIn_append_singleton]
      simp [not_closedIn_nil, triggers]
  | append_singleton acts event ih =>
      obtain ⟨before, last⟩ := (Machine.along_append _ _ _ _ _).mp quiet
      obtain ⟨active, relay⟩ := ih before fun member => enabled (List.mem_append_left _ member)
      rw [← List.cons_append, closedIn_append_singleton]
      simp only [Machine.run_append]
      rw [← Machine.run_cons] at last
      generalize (monitor config).run device (.tick :: acts) = current at active relay last
      cases event with
      | host value =>
          have nonzero : value ≠ 0 := fun zero =>
            enabled (zero ▸ List.mem_append_right _ List.mem_cons_self)
          simpa [nonzero, relay] using active
      | tick =>
          have idle : current.triggers = false := last.1 rfl
          rw [not_or, ← active]
          cases active : current.active <;> simp [idle, relay, active]
      | plc byte => simpa [relay] using ⟨active, relay⟩

/-- Only ticks change the step counters, so a run that ends closed has a tick
that did. -/
theorem closedIn_of_closed {config : Config} {device : Device} {acts : List Event}
    (closed : ((monitor config).run device (.tick :: acts)).closed = true) :
    ClosedIn config device (.tick :: acts) := by
  induction acts using List.reverseRecOn with
  | nil => exact ⟨[], [], rfl, closed⟩
  | append_singleton acts event ih =>
      rw [← List.cons_append, closedIn_append_singleton]
      cases event with
      | host value =>
          refine .inl (ih ?_)
          rw [← List.cons_append, Machine.run_append] at closed
          simpa [Device.closed] using closed
      | tick => exact .inr ⟨rfl, closed⟩
      | plc byte =>
          refine .inl (ih ?_)
          rw [← List.cons_append, Machine.run_append] at closed
          exact closed

theorem exists_prefix_of_closedIn {config : Config} {device : Device} {acts : List Event}
    (closedIn : ClosedIn config device (.tick :: acts)) :
    ∃ first later, acts = first ++ later ∧
      ((monitor config).run device (.tick :: first)).closed = true := by
  obtain ⟨earlier, later, split, closed⟩ := closedIn
  cases earlier with
  | nil => exact ⟨[], acts, rfl, closed⟩
  | cons event earlier =>
      injection split with head tail
      subst head
      exact ⟨earlier ++ [Event.tick], later, by simpa using tail, closed⟩

/-- Without a trigger an inactive device stays inactive and its relay off. -/
theorem inactive_run {config : Config} {device : Device} {acts : List Event}
    (quiet : (monitor config).Along NoTrigger device acts)
    (inactive : device.active = false) (released : device.relay = false) :
    ((monitor config).run device acts).active = false ∧
      ((monitor config).run device acts).relay = false := by
  have kept : ∀ device event, device.active = false ∧ device.relay = false →
      NoTrigger device event →
      ((monitor config).step device event).active = false ∧
        ((monitor config).step device event).relay = false := by
    rintro device event ⟨inactive, released⟩ quiet
    cases event with
    | host value => simp [inactive, released]
    | tick => simp [inactive, released, quiet rfl]
    | plc byte => exact ⟨inactive, released⟩
  exact Machine.run_induction kept ⟨inactive, released⟩ quiet

theorem length_outputs_le (config : Config) (device : Device) (acts : List Event) :
    ((monitor config).outputs device acts).length ≤ ticks acts := by
  induction acts generalizing device with
  | nil => exact Nat.le_refl 0
  | cons event acts ih =>
      have rest := ih ((monitor config).step device event)
      have sent := length_sent_le config device
      cases event <;> simp [ticks] at rest ⊢ <;> omega

theorem length_trace (config : Config) (device : Device) (acts : List Event) :
    ((planSimulation config).trace device acts).length = ticks acts := by
  induction acts generalizing device with
  | nil => rfl
  | cons event acts ih =>
      have rest := ih ((monitor config).step device event)
      rw [Simulation.trace, List.length_append, rest]
      cases event <;> simp [planSimulation, ticks, Nat.add_comm]

theorem total_fullPlan (config : Config) :
    Stages.total (fullPlan config) = relayResets config + 2 * config.maxShutterCloseSteps := by
  simp only [Stages.total, fullPlan, List.map_cons, List.map_nil, List.sum_cons, List.sum_nil]
  omega

theorem remaining_fullPlan {config : Config} {shutter : UInt8}
    (letter : shutter = ascii 'A' ∨ shutter = ascii 'B') :
    Stages.remaining shutter (fullPlan config) = config.maxShutterCloseSteps := by
  rcases letter with rfl | rfl <;> cases order : config.closeBFirst <;>
    simp [Stages.remaining, Stages.total, fullPlan, firstShutter, secondShutter, order, ascii,
      Char.toUInt8]

theorem remaining_of_closed {config : Config} {device : Device} (closed : device.closed = true)
    {shutter : UInt8} (letter : shutter = ascii 'A' ∨ shutter = ascii 'B') :
    Stages.remaining shutter (stages config device) = 0 := by
  rw [Device.closed, Bool.and_eq_true, beq_iff_eq, beq_iff_eq] at closed
  rcases letter with rfl | rfl <;> cases order : config.closeBFirst <;>
    simp [Stages.remaining, Stages.total, stages, shutterStages, order, closed, ascii,
      Char.toUInt8]

section Cycle

variable {config : Config} {device : Device} {acts : List Event}
  (bounded : config.maxShutterCloseSteps ≤ 255) (unguarded : Unguarded config device)
  (triggers : device.triggers = true)
  (quiet : (monitor config).Along NoTrigger ((monitor config).step device .tick) acts)

include bounded unguarded triggers quiet

/-- A shutter without steps left was reported closed or was sent all its steps. -/
theorem drainedIn_or_count {shutter : UInt8} (letter : shutter = ascii 'A' ∨ shutter = ascii 'B')
    (closed : ((monitor config).run device (.tick :: acts)).closed = true) :
    DrainedIn config ((monitor config).step device .tick) acts (closes shutter) ∨
      ((monitor config).outputs device (.tick :: acts)).count shutter =
        config.maxShutterCloseSteps := by
  by_cases drained : DrainedIn config ((monitor config).step device .tick) acts (closes shutter)
  · exact .inl drained
  · right
    have kept : ∀ act ∈ cycleActs config device acts, act shutter = false := by
      intro act member
      cases cancels : act shutter with
      | true => exact absurd (not_cancelled_of_mem member cancels) drained
      | false => rfl
    have balance := Stages.count_add_remaining (fullPlan config) (fullPlan config) kept
    rw [← cycle_outputs bounded unguarded triggers quiet,
      ← cycle_stages bounded unguarded triggers quiet, remaining_of_closed closed letter,
      remaining_fullPlan letter] at balance
    exact balance

/-- A full plan's worth of ticks leaves no steps. -/
theorem closed_of_ticks
    (enough : relayResets config + 2 * config.maxShutterCloseSteps ≤ ticks (.tick :: acts)) :
    ((monitor config).run device (.tick :: acts)).closed = true := by
  have left := Stages.total_run (fullPlan config) (fullPlan config) (cycleActs config device acts)
  rw [← cycle_stages bounded unguarded triggers quiet, total_fullPlan, cycleActs, List.length_cons,
    length_trace] at left
  have counted : ticks (.tick :: acts) = ticks acts + 1 := by simp [ticks]
  rw [closed_iff_stages config]
  rw [stages, Stages.total, List.map_cons, List.sum_cons] at left
  rw [Stages.total]
  omega

/-- Without reports from the PLC a cycle ends no earlier than a full plan does. -/
theorem ticks_of_closed (positive : 1 ≤ config.maxShutterCloseSteps)
    (unreported : ∀ shutter,
      ¬ DrainedIn config ((monitor config).step device .tick) acts (closes shutter))
    (closed : ((monitor config).run device (.tick :: acts)).closed = true) :
    relayResets config + 2 * config.maxShutterCloseSteps ≤ ticks (.tick :: acts) := by
  have sent : ∀ shutter, shutter = ascii 'A' ∨ shutter = ascii 'B' →
      ((monitor config).outputs device (.tick :: acts)).count shutter =
        config.maxShutterCloseSteps := fun shutter letter =>
    (drainedIn_or_count bounded unguarded triggers quiet letter closed).resolve_left
      (unreported shutter)
  obtain ⟨resets, tail, shape, _, resetsDone, first, tail', rfl, _, _, second, tail'', rfl, _, _,
    rfl⟩ := cycle_stream bounded unguarded triggers quiet
  have lengths := length_outputs_le config device (.tick :: acts)
  have countA := sent _ (.inl rfl)
  have countB := sent _ (.inr rfl)
  rw [shape] at lengths countA countB
  have counts : first = config.maxShutterCloseSteps ∧ second = config.maxShutterCloseSteps := by
    cases order : config.closeBFirst <;>
      simp [firstShutter, secondShutter, order, List.count_replicate, ascii, Char.toUInt8]
        at countA countB <;>
      omega
  have more : List.replicate first (firstShutter config) ++
      (List.replicate second (secondShutter config) ++ []) ≠ [] := by
    simp only [List.append_nil, Ne, List.append_eq_nil_iff, List.replicate_eq_nil_iff]
    omega
  have complete := (resetsDone more).resolve_right (not_drainedIn_relay _ _)
  simp only [List.length_append, List.length_replicate, List.length_nil] at lengths
  omega

end Cycle

theorem unread_run_nil {config : Config} {device : Device} {acts : List Event}
    (empty : device.unread = []) (silent : ∀ byte, .plc byte ∉ acts) :
    ((monitor config).run device acts).unread = [] := by
  induction acts generalizing device with
  | nil => exact empty
  | cons event acts ih =>
      have rest : ∀ byte, .plc byte ∉ acts :=
        fun byte member => silent byte (List.mem_cons_of_mem _ member)
      cases event with
      | host value => exact ih (by simpa [Device.unread] using empty) rest
      | tick => exact ih (Device.unread_isrTimer1Compa config device) rest
      | plc byte => exact absurd List.mem_cons_self (silent byte)

theorem not_drainedIn_of_silent {config : Config} {device : Device} {acts : List Event}
    (empty : device.unread = []) (silent : ∀ byte, .plc byte ∉ acts) (test : UInt8 → Bool) :
    ¬ DrainedIn config device acts test := by
  rintro ⟨earlier, later, rfl, seen⟩
  rw [unread_run_nil empty fun byte member => silent byte (List.mem_append_left _ member)] at seen
  cases seen

/-- From a trigger on, and while the host sends no zero byte, the device is
active and holds the relay exactly until the first tick that leaves both
shutters without steps. By then each shutter was reported closed or was sent
every step, which takes at most as many ticks as the full plan has commands and
exactly as many if the PLC stays silent; the relay is not taken again before
another trigger. -/
theorem handed_back (config : Config) (positive : 1 ≤ config.maxShutterCloseSteps)
    (bounded : config.maxShutterCloseSteps ≤ 255) (device : Device)
    (reachable : (monitor config).Reachable device) (triggers : device.triggers = true)
    (acts : List Event) (enabled : .host 0 ∉ acts) :
    (((monitor config).run device (.tick :: acts)).active = true ↔
      ¬ ClosedIn config device (.tick :: acts)) ∧
    (((monitor config).run device (.tick :: acts)).relay = true ↔
      ¬ ClosedIn config device (.tick :: acts)) ∧
    (((monitor config).run device (.tick :: acts)).closed = true →
      ∀ shutter, shutter = ascii 'A' ∨ shutter = ascii 'B' →
        DrainedIn config ((monitor config).step device .tick) acts (closes shutter) ∨
          ((monitor config).outputs device (.tick :: acts)).count shutter =
            config.maxShutterCloseSteps) ∧
    (relayResets config + 2 * config.maxShutterCloseSteps ≤ ticks (.tick :: acts) →
      ClosedIn config device (.tick :: acts)) ∧
    ((∀ byte, .plc byte ∉ acts) → ClosedIn config device (.tick :: acts) →
      relayResets config + 2 * config.maxShutterCloseSteps ≤ ticks (.tick :: acts)) ∧
    (ClosedIn config device (.tick :: acts) → ∀ later,
      (monitor config).Along NoTrigger ((monitor config).run device (.tick :: acts)) later →
        ((monitor config).run device (.tick :: acts ++ later)).active = false ∧
          ((monitor config).run device (.tick :: acts ++ later)).relay = false) := by
  have unguarded := unguarded_of_reachable reachable
  have valid := Device.CountdownValid.of_reachable reachable
  have quiet : (monitor config).Along NoTrigger ((monitor config).step device .tick) acts :=
    (triggered_run (valid.step config .tick) (by simp [triggers]) enabled).2
  obtain ⟨active, relay⟩ := active_iff_not_closedIn triggers quiet enabled
  refine ⟨active, relay ▸ active, fun closed shutter letter => ?_, fun enough => ?_,
    fun silent closedIn => ?_, fun closedIn later still => ?_⟩
  · exact drainedIn_or_count bounded unguarded triggers quiet letter closed
  · exact closedIn_of_closed (closed_of_ticks bounded unguarded triggers quiet enough)
  · obtain ⟨first, later, rfl, closed⟩ := exists_prefix_of_closedIn closedIn
    have silentFirst : ∀ byte, .plc byte ∉ first :=
      fun byte member => silent byte (List.mem_append_left _ member)
    have least := ticks_of_closed bounded unguarded triggers
      ((Machine.along_append _ _ _ _ _).mp quiet).1 positive
      (fun shutter => not_drainedIn_of_silent (device.unread_isrTimer1Compa config) silentFirst _)
      closed
    simp only [ticks, List.count_cons, List.count_append] at least ⊢
    omega
  · rw [Machine.run_append]
    have inactive : ((monitor config).run device (.tick :: acts)).active = false :=
      Bool.eq_false_iff.mpr fun on => active.mp on closedIn
    exact inactive_run still inactive (relay.trans inactive)

theorem handed_back_at_one :
    ((Device.reset.pollUsbByte 1).isrTimer1Compa makefileConfig).1.active = true ↔
      ¬ ClosedIn makefileConfig (Device.reset.pollUsbByte 1) [.tick] :=
  (handed_back makefileConfig (by decide) (by decide) (Device.reset.pollUsbByte 1)
    ⟨[.host 1], rfl⟩ (by decide) [] (by decide)).1

end DomeHeartbeat
