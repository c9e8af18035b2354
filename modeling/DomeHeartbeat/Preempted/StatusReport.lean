import DomeHeartbeat.Preempted.Monitor
import Mathlib.Data.List.Induction

/-!
# Status reports under preemption

The status byte is put together from up to three reads of variables that a
trigger changes together. `reports_truly` names the instant each byte describes
as long as no trigger falls between the reads of an untriggered device, and
shows that such a trigger makes the byte describe no instant at all.
-/

namespace DomeHeartbeat

open Reactive

namespace Pc

/-- The statements of one status report up to the call of `usb_write`. -/
def reporting : Pc → Bool
  | readActive | readTriggered | readHeartbeat | usbWrite _ => true
  | _ => false

end Pc

/-- The device was in this state between the first and the last volatile read of
the report the run ends in: when the first read was taken, or after it with
another read to come. -/
def ReadDuring (config : Config) (acts : List (Interleaved UsbAnswer Irq)) (device : Device) :
    Prop :=
  ∃ earlier later, acts = earlier ++ later ∧
    (pointAfter config earlier).shared = device ∧
    ((pointAfter config earlier).pc = .readActive ∧
        (∃ answer rest, later = .foreground answer :: rest) ∨
      (pointAfter config earlier).pc = .readTriggered ∨
      (pointAfter config earlier).pc = .readHeartbeat) ∧
    (interleaved config).Along (fun point _ => point.pc.reporting = true)
      (pointAfter config earlier) later

/-- Whatever is passed to `usb_write` after the run is the status of the device
at an instant of the report. -/
def ReportsTruly (config : Config) (acts : List (Interleaved UsbAnswer Irq)) : Prop :=
  ∀ act byte,
    byte ∈ (interleaved config).emit (pointAfter config acts) act →
      ∃ device, ReadDuring config acts device ∧ device.status = byte ∧
        (byte = 255 → device.triggered = true ∧ device.active = false) ∧
        (byte = 0 → device.triggered = false ∧ device.heartbeat = 0)

/-- No untriggered device triggers between the reads of a report. A trigger that
hands the line back at once may still come before the latch is read. -/
def Untorn (config : Config) (point : Point Pc Device) (act : Interleaved UsbAnswer Irq) : Prop :=
  act = .interrupt .timer → point.shared.triggered = false → point.shared.triggers = true →
    (point.pc = .readTriggered → config.maxShutterCloseSteps % 256 = 0) ∧
      point.pc ≠ .readHeartbeat

instance Untorn.decidable (config : Config) (point : Point Pc Device)
    (act : Interleaved UsbAnswer Irq) : Decidable (Untorn config point act) :=
  inferInstanceAs (Decidable (_ → _ → _ → _))

theorem status_eq_255 {device : Device} (accepted : device.heartbeat ≤ 240) :
    device.status = 255 ↔ device.triggered = true ∧ device.active = false := by
  have inRange : device.heartbeat ≠ 255 := Counter.ne_of_bound accepted (by decide)
  cases active : device.active <;> cases triggered : device.triggered <;>
    simp [Device.status, active, triggered, inRange]

theorem status_eq_zero {device : Device} :
    device.status = 0 ↔
      device.active = false ∧ device.triggered = false ∧ device.heartbeat = 0 := by
  cases active : device.active <;> cases triggered : device.triggered <;>
    simp [Device.status, active, triggered]

section Window

variable {config : Config} {acts : List (Interleaved UsbAnswer Irq)} {device : Device}

theorem ReadDuring.append (read : ReadDuring config acts device)
    (act : Interleaved UsbAnswer Irq)
    (reporting : (pointAfter config acts).pc.reporting = true) :
    ReadDuring config (acts ++ [act]) device := by
  obtain ⟨earlier, later, rfl, state, first, along⟩ := read
  rw [pointAfter_append] at reporting
  refine ⟨earlier, later ++ [act], List.append_assoc _ _ _, state, ?_, ?_⟩
  · rcases first with ⟨active, answer, rest, rfl⟩ | other
    · exact .inl ⟨active, answer, rest ++ [act], rfl⟩
    · exact .inr other
  · exact (Machine.along_append _ _ _ _ _).mpr ⟨along, reporting, trivial⟩

/-- The instant at which the next read is taken. -/
theorem readDuring_now (answer : UsbAnswer)
    (reading : (pointAfter config acts).pc = .readActive ∨
      (pointAfter config acts).pc = .readTriggered ∨
      (pointAfter config acts).pc = .readHeartbeat) :
    ReadDuring config (acts ++ [Interleaved.foreground answer])
      (pointAfter config acts).shared := by
  refine ⟨acts, [Interleaved.foreground answer], rfl, rfl, ?_, ?_, trivial⟩
  · rcases reading with active | other
    · exact .inl ⟨active, answer, [], rfl⟩
    · exact .inr other
  · rcases reading with pc | pc | pc <;> rw [pc] <;> rfl

/-- The instant reached with the latch still to be read. -/
theorem readDuring_here
    (reading : (pointAfter config acts).pc = .readTriggered) :
    ReadDuring config acts (pointAfter config acts).shared :=
  ⟨acts, [], (List.append_nil _).symm, rfl, .inr (.inl reading), trivial⟩

end Window

/-- What the reads taken so far say about the instants seen so far. -/
def Reported (seen : Device → Prop) : Pc → Device → Prop
  | .readTriggered, device =>
      (device.triggered = true → ∃ past, seen past ∧ past.status = 255) ∧
        (device.triggered = false → device.active = false)
  | .readHeartbeat, device => device.triggered = false ∧ device.active = false
  | .usbWrite byte, _ => ∃ past, seen past ∧ past.status = byte
  | _, _ => True

theorem reported_outside {seen : Device → Prop} {pc : Pc} {device : Device}
    (outside : pc.reporting = false) : Reported seen pc device := by
  cases pc <;> trivial

theorem reporting_received (value : UInt8) : (Pc.received value).reporting = false := by
  unfold Pc.received
  split_ifs <;> rfl

section Steps

variable {config : Config} {acts : List (Interleaved UsbAnswer Irq)} {pc : Pc} {device : Device}

theorem reported_statement (answer : UsbAnswer)
    (reached : pointAfter config acts = ⟨pc, device⟩)
    (reported : Reported (ReadDuring config acts) pc device) :
    Reported (ReadDuring config (acts ++ [Interleaved.foreground answer]))
      (device.pollUsbStatement pc answer).1 (device.pollUsbStatement pc answer).2 := by
  have now : pc = .readActive ∨ pc = .readTriggered ∨ pc = .readHeartbeat →
      ReadDuring config (acts ++ [Interleaved.foreground answer]) device := by
    intro reading
    have seen := @readDuring_now config acts answer (by rw [reached]; exact reading)
    rwa [reached] at seen
  cases pc with
  | readActive =>
      have seen := now (.inl rfl)
      cases active : device.active with
      | true =>
          rw [Device.pollUsbStatement_readActive_closing answer active]
          exact ⟨device, seen, by simp [Device.status, active]⟩
      | false =>
          rw [Device.pollUsbStatement_readActive_inactive answer active]
          refine ⟨fun (triggered : device.triggered = true) => ⟨device, seen, ?_⟩, fun _ => active⟩
          simp [Device.status, active, triggered]
  | readTriggered =>
      obtain ⟨described, inactive⟩ := reported
      cases triggered : device.triggered with
      | true =>
          rw [Device.pollUsbStatement_readTriggered_latched answer triggered]
          obtain ⟨past, seen, status⟩ := described triggered
          exact ⟨past, seen.append _ (by rw [reached]; rfl), status⟩
      | false =>
          rw [Device.pollUsbStatement_readTriggered_armed answer triggered]
          exact ⟨triggered, inactive triggered⟩
  | readHeartbeat =>
      obtain ⟨untriggered, inactive⟩ := reported
      exact ⟨device, now (.inr (.inr rfl)), by simp [Device.status, untriggered, inactive]⟩
  | usbRead =>
      refine reported_outside ?_
      cases received : answer.read with
      | none =>
          rw [Device.pollUsbStatement_usbRead_none answer received]
          rfl
      | some value =>
          rw [Device.pollUsbStatement_usbRead_some answer received]
          exact reporting_received value
  | usbCanRead | testTriggered value =>
      refine reported_outside ?_
      unfold Device.pollUsbStatement
      dsimp only
      split_ifs <;> rfl
  | testSendStatus => cases send : device.sendStatusByte <;>
      simp [Device.pollUsbStatement, Reported, send]
  | _ => trivial

theorem reported_handler (irq : Irq)
    (reached : pointAfter config acts = ⟨pc, device⟩)
    (reported : Reported (ReadDuring config acts) pc device)
    (untorn : Untorn config ⟨pc, device⟩ (.interrupt irq)) :
    Reported (ReadDuring config (acts ++ [Interleaved.interrupt irq])) pc
      ((preempted config).handler irq device) := by
  have after : pointAfter config (acts ++ [Interleaved.interrupt irq]) =
      ⟨pc, (preempted config).handler irq device⟩ := by
    rw [pointAfter_append, reached]
    rfl
  have kept : pc.reporting = true → ∀ past, ReadDuring config acts past →
      ReadDuring config (acts ++ [Interleaved.interrupt irq]) past := by
    intro reporting past seen
    exact seen.append _ (by rw [reached]; exact reporting)
  cases pc with
  | readTriggered =>
      obtain ⟨described, inactive⟩ := reported
      cases irq with
      | plc byte =>
          refine ⟨fun triggered => ?_, inactive⟩
          obtain ⟨past, seen, status⟩ := described triggered
          exact ⟨past, kept rfl past seen, status⟩
      | timer =>
          rw [preempted_handler_timer] at after ⊢
          cases triggered : device.triggered with
          | true =>
              obtain ⟨past, seen, status⟩ := described triggered
              exact ⟨fun _ => ⟨past, kept rfl past seen, status⟩, fun quiet => by
                simp [triggered] at quiet⟩
          | false =>
              cases triggers : device.triggers with
              | false =>
                  refine ⟨fun latched => ?_, fun _ => ?_⟩
                  · simp [triggered, triggers] at latched
                  · simp [inactive triggered, triggers]
              | true =>
                  -- The trigger hands the line back at once, so 255 is already true.
                  have closed := (Device.closed_afterSend_trigger triggers).mpr
                    ((untorn rfl triggered triggers).1 rfl)
                  have seen := @readDuring_here config (acts ++ [Interleaved.interrupt .timer])
                    (by rw [after])
                  rw [after] at seen
                  refine ⟨fun _ => ⟨_, seen, ?_⟩, fun _ => ?_⟩
                  · simp [Device.status, closed, triggers]
                  · simp [closed]
  | readHeartbeat =>
      obtain ⟨untriggered, inactive⟩ := reported
      cases irq with
      | plc byte => exact ⟨untriggered, inactive⟩
      | timer =>
          have idle : device.triggers = false := by
            by_contra triggers
            exact (untorn rfl untriggered (Bool.not_eq_false _ ▸ triggers)).2 rfl
          constructor
          · simp [untriggered, idle]
          · simp [inactive, idle]
  | usbWrite byte =>
      obtain ⟨past, seen, status⟩ := reported
      exact ⟨past, kept rfl past seen, status⟩
  | _ => trivial

theorem reported_run (untorn : (interleaved config).Along (Untorn config)
      (interleaved config).initial acts) :
    Reported (ReadDuring config acts)
      (pointAfter config acts).pc
      (pointAfter config acts).shared := by
  induction acts using List.reverseRecOn with
  | nil => trivial
  | append_singleton acts act ih =>
      obtain ⟨before, next⟩ := (Machine.along_append _ _ _ _ _).mp untorn
      have now : Untorn config (pointAfter config acts) act := next.1
      have reported := ih before
      rw [pointAfter_append]
      cases reached : pointAfter config acts with
      | mk pc device =>
          rw [reached] at reported now
          cases act with
          | foreground answer => exact reported_statement answer reached reported
          | interrupt irq => exact reported_handler irq reached reported now

end Steps

section Torn

variable {config : Config} {acts : List (Interleaved UsbAnswer Irq)}

/-- While a report is under way the latch is not cleared and the countdown not restarted. -/
theorem reporting_run {point : Point Pc Device}
    (reporting : (interleaved config).Along (fun point _ => point.pc.reporting = true) point acts) :
    (point.shared.triggered = true →
        ((interleaved config).run point acts).shared.triggered = true) ∧
      (point.shared.heartbeat = 0 →
        ((interleaved config).run point acts).shared.heartbeat = 0) := by
  induction acts generalizing point with
  | nil => exact ⟨id, id⟩
  | cons act acts ih =>
      obtain ⟨now, later⟩ := reporting
      obtain ⟨latched, stopped⟩ := ih later
      obtain ⟨pc, device⟩ := point
      have kept : (device.triggered = true →
            ((interleaved config).step ⟨pc, device⟩ act).shared.triggered = true) ∧
          (device.heartbeat = 0 →
            ((interleaved config).step ⟨pc, device⟩ act).shared.heartbeat = 0) := by
        cases act with
        | foreground answer => cases pc <;> first | exact ⟨id, id⟩ | cases now
        | interrupt irq =>
            cases irq with
            | timer =>
                exact ⟨fun on => by simp [on], fun zero => by simp [zero, Device.countedDown]⟩
            | plc byte => exact ⟨id, id⟩
      exact ⟨fun on => latched (kept.1 on), fun zero => stopped (kept.2 zero)⟩

/-- No instant of a report on a device that is still armed looks closed or disabled. -/
theorem status_while_armed {device : Device} (seen : ReadDuring config acts device)
    (untriggered :
      (pointAfter config acts).shared.triggered = false)
    (running : (pointAfter config acts).shared.heartbeat ≠ 0) :
    device.status ≠ 255 ∧ device.status ≠ 0 := by
  obtain ⟨earlier, later, rfl, rfl, _, along⟩ := seen
  rw [pointAfter_append] at untriggered running
  obtain ⟨latched, stopped⟩ := reporting_run along
  have accepted := (inRange_pointAfter config earlier).1
  constructor
  · rw [Ne, status_eq_255 accepted]
    rintro ⟨on, _⟩
    rw [latched on] at untriggered
    cases untriggered
  · rw [Ne, status_eq_zero]
    rintro ⟨_, _, zero⟩
    exact running (stopped zero)

/-- The instants of a report after one more step. -/
theorem ReadDuring.last {device : Device} {act : Interleaved UsbAnswer Irq}
    (seen : ReadDuring config (acts ++ [act]) device)
    (begun : (pointAfter config acts).pc ≠ .readActive) :
    ReadDuring config acts device ∨
      ((pointAfter config (acts ++ [act])).pc.reporting = true ∧
        (∀ byte, (pointAfter config (acts ++ [act])).pc ≠
          .usbWrite byte) ∧
        (pointAfter config (acts ++ [act])).shared = device) := by
  obtain ⟨earlier, later, split, state, first, along⟩ := seen
  rcases List.eq_nil_or_concat later with rfl | ⟨rest, final, rfl⟩
  · right
    rw [List.append_nil] at split
    subst split
    rcases first with ⟨_, _, _, none⟩ | pc | pc
    · cases none
    · exact ⟨by rw [pc]; rfl, fun byte => by rw [pc]; nofun, state⟩
    · exact ⟨by rw [pc]; rfl, fun byte => by rw [pc]; nofun, state⟩
  · left
    rw [List.concat_eq_append] at split along first
    rw [← List.append_assoc] at split
    obtain ⟨rfl, same⟩ := List.append_inj' split rfl
    refine ⟨earlier, rest, rfl, state, ?_, ((Machine.along_append _ _ _ _ _).mp along).1⟩
    rcases first with ⟨active, answer, others, head⟩ | other
    · cases rest with
      | nil =>
          rw [List.append_nil] at begun
          exact absurd active begun
      | cons act rest =>
          injection head with head
          exact .inl ⟨active, answer, rest, by rw [head]⟩
    · exact .inr other

/-- A tick between the reads of an armed device, followed by a byte that the
device it leaves does not have either. -/
theorem not_reportsTruly_of_status {pc : Pc} {device : Device} {byte : UInt8}
    (reached : pointAfter config acts = ⟨pc, device⟩)
    (begun : pc ≠ .readActive) (untriggered : device.triggered = false)
    (running : device.heartbeat ≠ 0)
    (writes : (device.isrTimer1Compa config).1.pollUsbStatement pc ⟨false, none⟩ =
      (.usbWrite byte, (device.isrTimer1Compa config).1))
    (special : byte = 255 ∨ byte = 0) (wrong : (device.isrTimer1Compa config).1.status ≠ byte) :
    ¬ ReportsTruly config
      (acts ++ [Interleaved.interrupt .timer] ++ [Interleaved.foreground ⟨false, none⟩]) := by
  have ticked : pointAfter config (acts ++ [Interleaved.interrupt .timer]) =
      ⟨pc, (device.isrTimer1Compa config).1⟩ := by
    rw [pointAfter_append, reached]
    rfl
  have written : pointAfter config
      (acts ++ [Interleaved.interrupt .timer] ++ [Interleaved.foreground ⟨false, none⟩]) =
      ⟨.usbWrite byte, (device.isrTimer1Compa config).1⟩ := by
    rw [pointAfter_append, ticked]
    simp [writes]
  intro truly
  have emitted : byte ∈ (interleaved config).emit
      (pointAfter config
        (acts ++ [Interleaved.interrupt .timer] ++ [Interleaved.foreground ⟨false, none⟩]))
      (.foreground ⟨false, none⟩) := by
    rw [written]
    exact List.mem_cons_self
  obtain ⟨past, seen, status, _⟩ := truly _ byte emitted
  rcases seen.last (by rw [ticked]; exact begun) with earlier | ⟨_, reading, _⟩
  · rcases earlier.last (by rw [reached]; exact begun) with before | ⟨_, _, same⟩
    · have armed := status_while_armed before (by rw [reached]; exact untriggered)
        (by rw [reached]; exact running)
      rcases special with rfl | rfl
      · exact armed.1 status
      · exact armed.2 status
    · rw [ticked] at same
      exact wrong ((congrArg Device.status same).trans status)
  · exact reading byte (by rw [written])

/-- A trigger between the reads makes the report describe no instant. -/
theorem not_reportsTruly {act : Interleaved UsbAnswer Irq}
    (torn : ¬ Untorn config (pointAfter config acts) act) :
    ∃ later, ¬ ReportsTruly config (acts ++ act :: later) := by
  rw [Untorn, Classical.not_imp, Classical.not_imp, Classical.not_imp] at torn
  obtain ⟨rfl, untriggered, triggers, torn⟩ := torn
  have one := (Device.triggers_iff _).mp triggers
  have running : (pointAfter config acts).shared.heartbeat ≠ 0 := by
    rw [one]
    decide
  refine ⟨[Interleaved.foreground ⟨false, none⟩], ?_⟩
  rw [← List.singleton_append, ← List.append_assoc]
  cases reached : pointAfter config acts with
  | mk pc device =>
      rw [reached] at untriggered triggers torn one running
      dsimp only at untriggered triggers torn one running
      by_cases last : pc = .readHeartbeat
      · subst last
        refine not_reportsTruly_of_status reached (by simp) untriggered running ?_ (.inr rfl) ?_
        · simp [Device.pollUsbStatement, one, Device.countedDown]
        · rw [Ne, status_eq_zero]
          simp [triggers]
      · obtain ⟨rfl, loaded⟩ : pc = .readTriggered ∧ config.maxShutterCloseSteps % 256 ≠ 0 :=
          Classical.not_imp.mp fun safe => torn ⟨safe, last⟩
        have closing : (device.afterSend config).closed = false := by
          rw [← Bool.not_eq_true, Device.closed_afterSend_trigger triggers]
          exact loaded
        refine not_reportsTruly_of_status reached (by simp) untriggered running ?_ (.inl rfl) ?_
        · simp [Device.pollUsbStatement, triggers]
        · simp [Device.status, triggers, closing]

end Torn

/-- Every report describes an instant of its own evaluation in every run in which
no untriggered device triggers between the reads, and a trigger that does fall
there can be continued to a report that describes none. -/
theorem reports_truly (config : Config) (acts : List (Interleaved UsbAnswer Irq))
    (untorn : (interleaved config).Along (Untorn config) (interleaved config).initial acts) :
    ReportsTruly config acts ∧
      ∀ act, ¬ Untorn config (pointAfter config acts) act →
        ∃ later, ¬ ReportsTruly config (acts ++ act :: later) := by
  refine ⟨fun act byte written => ?_, fun act torn => not_reportsTruly torn⟩
  have reported := reported_run untorn
  cases reached : pointAfter config acts with
  | mk pc device =>
      rw [reached] at reported written
      obtain rfl : pc = .usbWrite byte := by
        cases act with
        | interrupt irq => cases written
        | foreground answer =>
            cases pc with
            | usbWrite other => rw [List.mem_singleton.mp written]
            | _ => cases written
      obtain ⟨past, seen, status⟩ := reported
      have accepted : past.heartbeat ≤ 240 := by
        obtain ⟨earlier, _, _, rfl, _⟩ := seen
        exact (inRange_pointAfter config earlier).1
      refine ⟨past, seen, status, ?_, ?_⟩
      · rintro rfl
        exact (status_eq_255 accepted).mp status
      · rintro rfl
        exact (status_eq_zero.mp status).2

theorem reports_truly_at_first_report :
    ∃ device, ReadDuring makefileConfig
        (.interrupt .timer :: undisturbed ⟨false, none⟩ 6) device ∧ device.status = 0 := by
  obtain ⟨device, seen, status, _⟩ := (reports_truly makefileConfig
    (.interrupt .timer :: undisturbed ⟨false, none⟩ 6) (by decide +kernel)).1
    (.foreground ⟨false, none⟩) 0 (by decide +kernel)
  exact ⟨device, seen, status⟩

/-- A report that has found the device inactive and is about to read the latch,
with one tick to go. -/
def aboutToReadLatch : List (Interleaved UsbAnswer Irq) :=
  .interrupt .timer :: (undisturbed ⟨true, some 1⟩ 8 ++ undisturbed ⟨false, none⟩ 3)

/-- A trigger between the reads of `active` and `triggered` makes a device that
has just started to close report that it is closed. -/
theorem report_of_no_instant : ¬ ∀ acts, ReportsTruly makefileConfig acts := by
  intro law
  have reached : ∀ point : Point Pc Device, point.pc = .readTriggered →
      point = ⟨.readTriggered, point.shared⟩ := by
    rintro ⟨pc, device⟩ rfl
    rfl
  refine not_reportsTruly_of_status (reached _ ?_) (by simp) ?_ ?_ ?_ (.inl rfl) ?_
    (law (aboutToReadLatch ++ [Interleaved.interrupt .timer] ++
      [Interleaved.foreground ⟨false, none⟩]))
  · decide +kernel
  · decide +kernel
  · decide +kernel
  · simp only [Device.pollUsbStatement]
    rw [if_pos (by decide +kernel)]
  · decide +kernel

end DomeHeartbeat
