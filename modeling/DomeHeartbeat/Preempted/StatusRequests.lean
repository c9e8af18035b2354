import DomeHeartbeat.Preempted.StatusReport

/-!
# Status requests under preemption

The timer interrupt asks for a status report by setting a flag, and `poll_usb`
clears the flag only once the report is written. A tick that falls between the
first read of a report and that clear is answered with a report from before it:
`request_served_iff` shows that these requests are lost and that no other is.
-/

namespace DomeHeartbeat

open Reactive

namespace Pc

/-- A report is under way whose first read has been taken and whose request has
not been cleared. -/
def overtaken : Pc → Bool
  | readTriggered | readHeartbeat | usbWrite _ | clearSendStatus => true
  | _ => false

end Pc

/-- Since that point a report has been begun, and it is still under way. -/
def BegunSince (config : Config) (point : Point Pc Device)
    (acts : List (Interleaved UsbAnswer Irq)) : Prop :=
  ∃ before report, acts = before ++ report ∧
    ((interleaved config).run point before).pc = .readActive ∧
    (interleaved config).Along (fun point _ => point.pc.reporting = true)
      ((interleaved config).run point before) report

/-- Since that point all of a report has been read, and `usb_write` called with it. -/
def ReportedSince (config : Config) (point : Point Pc Device)
    (acts : List (Interleaved UsbAnswer Irq)) : Prop :=
  ∃ report byte answer rest, acts = report ++ Interleaved.foreground answer :: rest ∧
    BegunSince config point report ∧
    ((interleaved config).run point report).pc = .usbWrite byte

/-- What holds at each statement after a tick that found no report under way. -/
def Answered (config : Config) (point : Point Pc Device)
    (acts : List (Interleaved UsbAnswer Irq)) : Pc → Device → Prop
  | .readTriggered, _ | .readHeartbeat, _ | .usbWrite _, _ => BegunSince config point acts
  | .clearSendStatus, _ => ReportedSince config point acts
  | _, device => device.sendStatusByte = false → ReportedSince config point acts

/-- What holds at each statement after a tick that overtook a report, until the
next tick: that report is finished and no other is begun. -/
def Overtaken (pc : Pc) (device : Device) : Prop :=
  pc.overtaken = false → pc.reporting = false ∧ device.sendStatusByte = false

section Since

variable {config : Config} {point : Point Pc Device} {acts : List (Interleaved UsbAnswer Irq)}

theorem ReportedSince.append (reported : ReportedSince config point acts)
    (act : Interleaved UsbAnswer Irq) : ReportedSince config point (acts ++ [act]) := by
  obtain ⟨report, byte, answer, rest, rfl, begun, writing⟩ := reported
  exact ⟨report, byte, answer, rest ++ [act], List.append_assoc _ _ _, begun, writing⟩

theorem BegunSince.append (begun : BegunSince config point acts)
    (act : Interleaved UsbAnswer Irq)
    (reporting : ((interleaved config).run point acts).pc.reporting = true) :
    BegunSince config point (acts ++ [act]) := by
  obtain ⟨before, report, rfl, active, along⟩ := begun
  rw [Machine.run_append] at reporting
  refine ⟨before, report ++ [act], List.append_assoc _ _ _, active, ?_⟩
  exact (Machine.along_append _ _ _ _ _).mpr ⟨along, reporting, trivial⟩

/-- The next statement begins a report. -/
theorem begunSince_now (act : Interleaved UsbAnswer Irq)
    (active : ((interleaved config).run point acts).pc = .readActive) :
    BegunSince config point (acts ++ [act]) :=
  ⟨acts, [act], rfl, active, congrArg Pc.reporting active, trivial⟩

/-- The next statement writes the report. -/
theorem BegunSince.written (begun : BegunSince config point acts) (answer : UsbAnswer)
    {byte : UInt8} (writing : ((interleaved config).run point acts).pc = .usbWrite byte) :
    ReportedSince config point (acts ++ [Interleaved.foreground answer]) :=
  ⟨acts, byte, answer, [], rfl, begun, writing⟩

end Since

section Statements

variable {pc : Pc}

theorem eq_readActive (reporting : pc.reporting = true) (clear : pc.overtaken = false) :
    pc = .readActive := by
  cases pc with
  | readActive => rfl
  | readTriggered | readHeartbeat | usbWrite byte => cases clear
  | _ => cases reporting

theorem overtaken_received (value : UInt8) : (Pc.received value).overtaken = false := by
  unfold Pc.received
  split_ifs <;> rfl

/-- A read of the report is followed by another read of it, or by its write. -/
theorem pollUsbStatement_reads (device : Device) (reporting : pc.reporting = true)
    (unwritten : ∀ byte, pc ≠ .usbWrite byte) (answer : UsbAnswer) :
    (device.pollUsbStatement pc answer).1.reporting = true ∧
      (device.pollUsbStatement pc answer).1.overtaken = true := by
  cases pc with
  | readActive | readTriggered =>
      unfold Device.pollUsbStatement
      dsimp only
      split_ifs <;> exact ⟨rfl, rfl⟩
  | readHeartbeat => exact ⟨rfl, rfl⟩
  | usbWrite byte => exact absurd rfl (unwritten byte)
  | _ => cases reporting

/-- No statement outside a report answers the request, and only a request begins one. -/
theorem pollUsbStatement_elsewhere (device : Device) (clear : pc.overtaken = false)
    (idle : pc.reporting = false) (answer : UsbAnswer) :
    (device.pollUsbStatement pc answer).1.overtaken = false ∧
      (device.pollUsbStatement pc answer).2.sendStatusByte = device.sendStatusByte ∧
      (device.sendStatusByte = false →
        (device.pollUsbStatement pc answer).1.reporting = false) := by
  cases pc with
  | usbCanRead | testTriggered value =>
      unfold Device.pollUsbStatement
      dsimp only
      split_ifs <;> exact ⟨rfl, rfl, fun _ => rfl⟩
  | usbRead =>
      cases received : answer.read with
      | none =>
          rw [Device.pollUsbStatement_usbRead_none answer received]
          exact ⟨rfl, rfl, fun _ => rfl⟩
      | some value =>
          rw [Device.pollUsbStatement_usbRead_some answer received]
          exact ⟨overtaken_received value, rfl, fun _ => reporting_received value⟩
  | testSendStatus =>
      cases send : device.sendStatusByte with
      | true =>
          rw [Device.pollUsbStatement_testSendStatus_requested answer send]
          exact ⟨rfl, send, fun quiet => absurd quiet (by decide)⟩
      | false =>
          rw [Device.pollUsbStatement_testSendStatus_served answer send]
          exact ⟨rfl, send, fun _ => rfl⟩
  | clearSendStatus => cases clear
  | readActive | readTriggered | readHeartbeat | usbWrite byte => cases idle
  | _ => exact ⟨rfl, rfl, fun _ => rfl⟩

end Statements

section Steps

variable {config : Config} {point : Point Pc Device} {acts : List (Interleaved UsbAnswer Irq)}
  {pc : Pc} {device : Device}

theorem answered_elsewhere (clear : pc.overtaken = false) :
    Answered config point acts pc device =
      (device.sendStatusByte = false → ReportedSince config point acts) := by
  cases pc <;> first | rfl | cases clear

theorem answered_reporting (reporting : pc.reporting = true) (overtaken : pc.overtaken = true) :
    Answered config point acts pc device = BegunSince config point acts := by
  cases pc with
  | readTriggered | readHeartbeat | usbWrite byte => rfl
  | clearSendStatus => cases reporting
  | _ => cases overtaken

theorem answered_read (answer : UsbAnswer)
    (begun : BegunSince config point (acts ++ [Interleaved.foreground answer]))
    (reporting : pc.reporting = true) (unwritten : ∀ byte, pc ≠ .usbWrite byte) :
    Answered config point (acts ++ [Interleaved.foreground answer])
      (device.pollUsbStatement pc answer).1 (device.pollUsbStatement pc answer).2 := by
  obtain ⟨still, next⟩ := pollUsbStatement_reads device reporting unwritten answer
  rw [answered_reporting still next]
  exact begun

theorem answered_statement (answer : UsbAnswer)
    (reached : (interleaved config).run point acts = ⟨pc, device⟩)
    (answered : Answered config point acts pc device) :
    Answered config point (acts ++ [Interleaved.foreground answer])
      (device.pollUsbStatement pc answer).1 (device.pollUsbStatement pc answer).2 := by
  have current : ((interleaved config).run point acts).pc = pc := congrArg Point.pc reached
  cases clear : pc.overtaken with
  | false =>
      cases idle : pc.reporting with
      | true =>
          obtain rfl := eq_readActive idle clear
          exact answered_read answer (begunSince_now _ current) rfl nofun
      | false =>
          obtain ⟨elsewhere, kept, _⟩ := pollUsbStatement_elsewhere device clear idle answer
          rw [answered_elsewhere clear] at answered
          rw [answered_elsewhere elsewhere, kept]
          exact fun quiet => (answered quiet).append _
  | true =>
      cases pc with
      | readTriggered | readHeartbeat =>
          have begun := BegunSince.append answered (.foreground answer)
            (congrArg Pc.reporting current)
          exact answered_read answer begun rfl nofun
      | usbWrite byte => exact BegunSince.written answered answer current
      | clearSendStatus => exact fun _ => ReportedSince.append answered (.foreground answer)
      | _ => cases clear

theorem answered_handler (irq : Irq) (kept : irq ≠ .timer)
    (reached : (interleaved config).run point acts = ⟨pc, device⟩)
    (answered : Answered config point acts pc device) :
    Answered config point (acts ++ [Interleaved.interrupt irq]) pc
      ((preempted config).handler irq device) := by
  have current : ((interleaved config).run point acts).pc = pc := congrArg Point.pc reached
  cases irq with
  | timer => exact absurd rfl kept
  | plc byte =>
      cases pc with
      | readTriggered | readHeartbeat | usbWrite _ =>
          exact BegunSince.append answered _ (congrArg Pc.reporting current)
      | clearSendStatus => exact ReportedSince.append answered _
      | _ => exact fun quiet => (answered quiet).append _

/-- Until the next tick the request of a tick that overtook no report is answered. -/
theorem answered_run (clear : point.pc.overtaken = false)
    (requested : point.shared.sendStatusByte = true) (untimed : .interrupt .timer ∉ acts) :
    Answered config point acts ((interleaved config).run point acts).pc
      ((interleaved config).run point acts).shared := by
  induction acts using List.reverseRecOn with
  | nil =>
      rw [Machine.run_nil, answered_elsewhere clear]
      exact fun served => absurd (requested.symm.trans served) Bool.noConfusion
  | append_singleton acts act ih =>
      rw [List.mem_append, not_or] at untimed
      have answered := ih untimed.1
      rw [Machine.run_append]
      cases reached : (interleaved config).run point acts with
      | mk pc device =>
          rw [reached] at answered
          cases act with
          | foreground answer => exact answered_statement answer reached answered
          | interrupt irq =>
              refine answered_handler irq ?_ reached answered
              rintro rfl
              exact untimed.2 List.mem_cons_self

theorem overtaken_statement (answer : UsbAnswer) (overtaken : Overtaken pc device) :
    Overtaken (device.pollUsbStatement pc answer).1 (device.pollUsbStatement pc answer).2 := by
  cases clear : pc.overtaken with
  | false =>
      obtain ⟨idle, served⟩ := overtaken clear
      obtain ⟨_, kept, unbegun⟩ := pollUsbStatement_elsewhere device clear idle answer
      exact fun _ => ⟨unbegun served, kept.trans served⟩
  | true =>
      have read : pc.reporting = true → (∀ byte, pc ≠ .usbWrite byte) →
          Overtaken (device.pollUsbStatement pc answer).1
            (device.pollUsbStatement pc answer).2 := by
        intro reporting unwritten elsewhere
        have next := (pollUsbStatement_reads device reporting unwritten answer).2
        exact absurd (next.symm.trans elsewhere) Bool.noConfusion
      cases pc with
      | readTriggered | readHeartbeat => exact read rfl nofun
      | usbWrite byte => exact fun elsewhere => by cases elsewhere
      | clearSendStatus => exact fun _ => ⟨rfl, rfl⟩
      | _ => cases clear

theorem overtaken_handler (irq : Irq) (kept : irq ≠ .timer) (overtaken : Overtaken pc device) :
    Overtaken pc ((preempted config).handler irq device) := by
  cases irq with
  | timer => exact absurd rfl kept
  | plc byte => exact overtaken

/-- Until the next tick no report is begun after a tick that overtook one. -/
theorem not_begunSince (overtaken : point.pc.overtaken = true)
    (untimed : .interrupt .timer ∉ acts) : ¬ BegunSince config point acts := by
  rintro ⟨before, report, rfl, active, _⟩
  have admitted : ∀ act ∈ before, act ≠ .interrupt .timer := by
    rintro act member rfl
    exact untimed (List.mem_append_left report member)
  have along : (interleaved config).Along (fun _ act => act ≠ .interrupt .timer) point before :=
    Machine.along_of_mem (fun act member _ => admitted act member) point
  have holds := Preemptive.outline Overtaken
    (fun pc device answer holds _ => overtaken_statement answer holds)
    (fun pc device irq holds kept =>
      overtaken_handler irq (fun timed => kept (congrArg Interleaved.interrupt timed)) holds)
    (fun clear => absurd (overtaken.symm.trans clear) Bool.noConfusion) along
  rw [active] at holds
  exact Bool.noConfusion (holds rfl).1

theorem not_reportedSince (overtaken : point.pc.overtaken = true)
    (untimed : .interrupt .timer ∉ acts) : ¬ ReportedSince config point acts := by
  rintro ⟨report, byte, answer, rest, rfl, begun, _⟩
  exact not_begunSince overtaken (fun member => untimed (List.mem_append_left _ member)) begun

end Steps

/-- When `poll_usb` is not executing and no request is pending, a report has been
read and written since the last tick if and only if that tick did not fall between
the first read of a report and the clear that follows its write. -/
theorem request_served_iff (config : Config) (earlier later : List (Interleaved UsbAnswer Irq))
    (untimed : .interrupt .timer ∉ later)
    (idle : (pointAfter config (earlier ++ .interrupt .timer :: later)).pc = .outside)
    (served : (pointAfter config (earlier ++ .interrupt .timer :: later)).shared.sendStatusByte =
      false) :
    ReportedSince config (pointAfter config (earlier ++ [Interleaved.interrupt .timer])) later ↔
      (pointAfter config earlier).pc.overtaken = false := by
  have reached : pointAfter config (earlier ++ .interrupt .timer :: later) =
      (interleaved config).run (pointAfter config (earlier ++ [Interleaved.interrupt .timer]))
        later := by
    rw [pointAfter_append, pointAfter_append]
    rfl
  have ticked : pointAfter config (earlier ++ [Interleaved.interrupt .timer]) =
      ⟨(pointAfter config earlier).pc,
        ((pointAfter config earlier).shared.isrTimer1Compa config).1⟩ := pointAfter_append _ _ _
  rw [reached] at idle served
  constructor
  · intro reported
    by_contra overtaken
    rw [Bool.not_eq_false] at overtaken
    refine not_reportedSince ?_ untimed reported
    rw [ticked]
    exact overtaken
  · intro clear
    have still : (pointAfter config (earlier ++ [Interleaved.interrupt .timer])).pc.overtaken =
        false := by
      rw [ticked]
      exact clear
    have requested : (pointAfter config
        (earlier ++ [Interleaved.interrupt .timer])).shared.sendStatusByte = true := by
      rw [ticked]
      exact Device.isrTimer1Compa_sendStatusByte _ _
    have answered := @answered_run config _ later still requested untimed
    rw [idle] at answered
    exact answered served

theorem request_served_at_once :
    ReportedSince makefileConfig (pointAfter makefileConfig [.interrupt .timer])
      (undisturbed ⟨false, none⟩ 8) :=
  (request_served_iff makefileConfig [] (undisturbed ⟨false, none⟩ 8) (by decide +kernel)
    (by decide +kernel) (by decide +kernel)).mpr rfl

/-- A tick during the write of a report is cleared together with the request it repeats. -/
theorem request_lost : ¬ ∀ earlier later, .interrupt .timer ∉ later →
    (pointAfter makefileConfig (earlier ++ .interrupt .timer :: later)).pc = .outside →
    (pointAfter makefileConfig (earlier ++ .interrupt .timer :: later)).shared.sendStatusByte =
      false →
    ReportedSince makefileConfig
      (pointAfter makefileConfig (earlier ++ [Interleaved.interrupt .timer])) later := by
  intro law
  refine not_reportedSince ?_ ?_ (law (.interrupt .timer :: undisturbed ⟨false, none⟩ 7)
    (undisturbed ⟨false, none⟩ 1) ?_ ?_ ?_)
  · decide +kernel
  · decide +kernel
  · decide +kernel
  · decide +kernel
  · decide +kernel

end DomeHeartbeat
