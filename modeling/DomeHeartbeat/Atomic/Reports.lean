import DomeHeartbeat.Atomic.Commands

/-!
# Close reports from the PLC

The receive buffer has no full test: of the bytes received since the last tick
the drain finds the last `n % 256`. `report_obeyed` shows that a report which
survives this stops its shutter's commands for the rest of the cycle, and
`report_lost` is a run in which one does not survive.
-/

namespace DomeHeartbeat

open Reactive

/-- The bytes received since the last tick of a run, oldest first. -/
def receivedSinceTick (acts : List Event) : List UInt8 :=
  acts.foldl (fun bytes event =>
    match event with
    | .tick => []
    | .plc byte => bytes ++ [byte]
    | .host _ => bytes) []

theorem receivedSinceTick_append_singleton (acts : List Event) (event : Event) :
    receivedSinceTick (acts ++ [event]) =
      match event with
      | .tick => []
      | .plc byte => receivedSinceTick acts ++ [byte]
      | .host _ => receivedSinceTick acts := by
  rw [receivedSinceTick, List.foldl_append]
  cases event <;> rfl

/-- What is unread is the last `n % 256` of the bytes received since the last tick. -/
theorem unread_run {config : Config} {device : Device} (empty : device.unread = [])
    (acts : List Event) :
    ((monitor config).run device acts).unread = Ring.latest 256 (receivedSinceTick acts) := by
  induction acts using List.reverseRecOn with
  | nil => exact empty
  | append_singleton acts event ih =>
      rw [Machine.run_append, receivedSinceTick_append_singleton]
      cases event with
      | host value => simpa [Device.unread] using ih
      | tick => simp [Ring.latest]
      | plc byte => exact Ring.contents_put_latest _ ih byte

theorem length_receivedSinceTick_le (acts : List Event) :
    (receivedSinceTick acts).length ≤ acts.length := by
  induction acts using List.reverseRecOn with
  | nil => exact Nat.le_refl 0
  | append_singleton acts event ih =>
      rw [receivedSinceTick_append_singleton, List.length_append, List.length_singleton]
      cases event with
      | host value => exact Nat.le_succ_of_le ih
      | tick => exact Nat.zero_le _
      | plc byte =>
          rw [List.length_append, List.length_singleton]
          exact Nat.succ_le_succ ih

theorem mem_receivedSinceTick {acts between : List Event} {byte : UInt8}
    (quiet : .tick ∉ between) :
    byte ∈ receivedSinceTick (acts ++ .plc byte :: between) := by
  induction between using List.reverseRecOn with
  | nil =>
      rw [receivedSinceTick_append_singleton]
      exact List.mem_append_right _ List.mem_cons_self
  | append_singleton between event ih =>
      have seen := ih fun member => quiet (List.mem_append_left _ member)
      have split : acts ++ .plc byte :: (between ++ [event]) =
          (acts ++ .plc byte :: between) ++ [event] := by simp
      rw [split, receivedSinceTick_append_singleton]
      cases event with
      | host value => exact seen
      | tick => exact absurd (List.mem_append_right _ List.mem_cons_self) quiet
      | plc later => exact List.mem_append_left _ seen

/-- At every tick of the run, a shutter that some byte received since the tick
before reports closed is also reported closed by one of the last `n % 256` of them. -/
def ReportsSurvive (acts : List Event) : Prop :=
  ∀ earlier later, acts = earlier ++ .tick :: later → ∀ shutter,
    (receivedSinceTick earlier).any (closes shutter) = true →
      (Ring.latest 256 (receivedSinceTick earlier)).any (closes shutter) = true

/-- Fewer than 256 bytes between consecutive ticks always survive. -/
theorem reportsSurvive_of_length_lt {acts : List Event}
    (few : ∀ earlier later, acts = earlier ++ .tick :: later →
      (receivedSinceTick earlier).length < 256) : ReportsSurvive acts := by
  intro earlier later split shutter reported
  rwa [Ring.latest_of_length_lt (few earlier later split)]

theorem outputs_of_no_tick {config : Config} {device : Device} {acts : List Event}
    (quiet : .tick ∉ acts) : (monitor config).outputs device acts = [] := by
  induction acts generalizing device with
  | nil => rfl
  | cons event acts ih =>
      have rest : .tick ∉ acts := fun member => quiet (List.mem_cons_of_mem _ member)
      cases event with
      | host value => exact ih rest
      | tick => exact absurd List.mem_cons_self quiet
      | plc byte => exact ih rest

/-- From a tick that drains a report on, its shutter is sent no command until
the next trigger. -/
theorem not_mem_of_drained {config : Config} {device : Device} {rest : List Event}
    {shutter : UInt8} (reported : device.unread.any (closes shutter) = true)
    (quiet : (monitor config).Along NoTrigger device (.tick :: rest)) :
    shutter ∉ (monitor config).outputs device (.tick :: rest) := by
  rw [(planSimulation config).outputs_run
    (fun device event _ => planSimulation_emits config device event) trivial quiet]
  have cancels : confirmed device.unread shutter = true := reported
  exact Stages.not_mem_of_cancelled _ _ cancels _

theorem exists_first_tick {acts : List Event} (member : .tick ∈ acts) :
    ∃ between rest, acts = between ++ .tick :: rest ∧ .tick ∉ between := by
  induction acts with
  | nil => cases member
  | cons event acts ih =>
      by_cases now : event = .tick
      · exact ⟨[], acts, by rw [now]; rfl, by simp⟩
      · obtain ⟨between, rest, rfl, absent⟩ :=
          ih (List.mem_of_ne_of_mem (Ne.symm now) member)
        exact ⟨event :: between, rest, rfl, by simp [absent, Ne.symm now]⟩

/-- A report received after a trigger stops its shutter's commands from the next
tick to the next trigger, in every run whose reports survive in the buffer. -/
theorem report_obeyed (config : Config) (device : Device)
    (earlier later : List Event) (byte shutter : UInt8) (report : closes shutter byte = true)
    (quiet : (monitor config).Along NoTrigger ((monitor config).step device .tick)
      (earlier ++ .plc byte :: later))
    (survive : ReportsSurvive (earlier ++ .plc byte :: later)) :
    shutter ∉ (monitor config).outputs
      ((monitor config).run device (.tick :: (earlier ++ [.plc byte]))) later := by
  by_cases ticked : .tick ∈ later
  · obtain ⟨between, rest, rfl, absent⟩ := exists_first_tick ticked
    have split : earlier ++ .plc byte :: (between ++ .tick :: rest) =
        (earlier ++ .plc byte :: between) ++ .tick :: rest := by simp
    rw [split] at quiet survive
    have kept := survive _ _ rfl shutter
      (List.any_eq_true.mpr ⟨byte, mem_receivedSinceTick absent, report⟩)
    rw [← unread_run (Device.unread_isrTimer1Compa config device)] at kept
    have stopped := not_mem_of_drained kept ((Machine.along_append _ _ _ _ _).mp quiet).2
    have state : (monitor config).run device (.tick :: (earlier ++ [.plc byte]) ++ between) =
        (monitor config).run ((device.isrTimer1Compa config).1)
          (earlier ++ .plc byte :: between) := by simp
    rw [Machine.outputs_append, outputs_of_no_tick absent, List.nil_append, ← Machine.run_append,
      state]
    exact stopped
  · simp [outputs_of_no_tick ticked]

theorem report_obeyed_at_first_tick :
    ascii 'B' ∉ (monitor makefileConfig).outputs
      ((monitor makefileConfig).run (Device.reset.pollUsbByte 1) [.tick, .plc (ascii 'Y')])
      [.tick, .tick] :=
  report_obeyed makefileConfig (Device.reset.pollUsbByte 1) [] [.tick, .tick] (ascii 'Y')
    (ascii 'B') (by decide) (by decide +kernel)
    (reportsSurvive_of_length_lt fun earlier later split => by
      have short := length_receivedSinceTick_le earlier
      have whole := congrArg List.length split
      simp only [List.length_append, List.length_cons, List.length_nil] at whole
      omega)

/-- A report followed by 255 more bytes before the next tick is gone from the
buffer when that tick drains it, and its shutter is sent another command. -/
theorem report_lost :
    ¬ ∀ device earlier later byte shutter, (monitor makefileConfig).Reachable device →
      device.triggers = true → closes shutter byte = true →
      (monitor makefileConfig).Along NoTrigger ((monitor makefileConfig).step device .tick)
        (earlier ++ .plc byte :: later) →
      shutter ∉ (monitor makefileConfig).outputs
        ((monitor makefileConfig).run device (.tick :: (earlier ++ [.plc byte]))) later := by
  intro obeyed
  have refused := obeyed (Device.reset.pollUsbByte 1) [.tick, .tick, .tick]
    (List.replicate 255 (.plc 0) ++ [.tick]) (ascii 'Y') (ascii 'B') ⟨[.host 1], rfl⟩ (by decide)
    (by decide) (by decide +kernel)
  exact refused (by decide +kernel)

end DomeHeartbeat
