import DomeHeartbeat.Attached.Reports
import DomeHeartbeat.Preempted.StatusReport

/-!
# The statuses the host sees

A report is read statement by statement, written round by round and taken when
the host likes. As long as no trigger tears one, what the host takes is still a
history of the device: the statuses at instants that come one after the other
(`host_reads_statuses`).
-/

namespace DomeHeartbeat

open Reactive

/-- The status after the first steps of a run. -/
def statusAt (config : Config) (acts : List (Interleaved UsbAnswer Irq)) (instant : Nat) : UInt8 :=
  (pointAfter config (acts.take instant)).shared.status

/-- The reports of a run are the statuses at increasing instants. Unless one is
being written, each instant lies before a statement outside the reports. -/
structure Reflected (config : Config) (acts : List (Interleaved UsbAnswer Irq))
    (instants : List Nat) : Prop where
  increasing : instants.Pairwise (· < ·)
  within : ∀ instant ∈ instants, instant ≤ acts.length
  reports : (interleaved config).outputs (interleaved config).initial acts ++
      Device.pollUsbWritten (pointAfter config acts).pc = instants.map (statusAt config acts)
  ended : Device.pollUsbWritten (pointAfter config acts).pc = [] →
    ∀ instant ∈ instants, ∃ later, instant ≤ later ∧ later ≤ acts.length ∧
      (pointAfter config (acts.take later)).pc.reporting = false

section Steps

variable {config : Config} {acts : List (Interleaved UsbAnswer Irq)} {instants : List Nat}

/-- A step passes on the report being written or leaves it alone, or it begins
to write a new one. -/
theorem written_cases (config : Config) (point : Point Pc Device)
    (act : Interleaved UsbAnswer Irq) :
    (interleaved config).emit point act ++
            Device.pollUsbWritten ((interleaved config).step point act).pc =
          Device.pollUsbWritten point.pc ∧
        (Device.pollUsbWritten ((interleaved config).step point act).pc = [] →
          Device.pollUsbWritten point.pc ≠ [] →
            ((interleaved config).step point act).pc.reporting = false) ∨
      (interleaved config).emit point act = [] ∧ Device.pollUsbWritten point.pc = [] ∧
        ∃ byte, ((interleaved config).step point act).pc = .usbWrite byte := by
  obtain ⟨pc, device⟩ := point
  cases act with
  | interrupt irq => exact .inl ⟨rfl, fun none some_ => absurd none some_⟩
  | foreground answer =>
      by_cases writes : ∃ byte, pc = .usbWrite byte
      · obtain ⟨byte, rfl⟩ := writes
        exact .inl ⟨rfl, fun _ _ => rfl⟩
      · have none : Device.pollUsbWritten pc = [] := by
          cases pc with
          | usbWrite byte => exact absurd ⟨byte, rfl⟩ writes
          | _ => rfl
        have silent : (interleaved config).emit ⟨pc, device⟩ (.foreground answer) = [] := none
        by_cases begins : ∃ byte,
            ((interleaved config).step ⟨pc, device⟩ (.foreground answer)).pc = .usbWrite byte
        · exact .inr ⟨silent, none, begins⟩
        · have still : Device.pollUsbWritten
              ((interleaved config).step ⟨pc, device⟩ (.foreground answer)).pc = [] := by
            cases next : ((interleaved config).step ⟨pc, device⟩ (.foreground answer)).pc with
            | usbWrite byte => exact absurd ⟨byte, next⟩ begins
            | _ => rfl
          refine .inl ⟨?_, fun _ some_ => absurd none some_⟩
          rw [silent, still, none]
          rfl

/-- Later steps leave the statuses of earlier instants as they are. -/
theorem statusAt_append (act : Interleaved UsbAnswer Irq)
    (within : ∀ instant ∈ instants, instant ≤ acts.length) :
    instants.map (statusAt config (acts ++ [act])) = instants.map (statusAt config acts) := by
  refine List.map_congr_left fun instant member => ?_
  rw [statusAt, statusAt, List.take_append_of_le_length (within instant member)]

/-- A report that is begun was read after every report that is finished. -/
theorem Reflected.before (reflected : Reflected config acts instants)
    (finished : Device.pollUsbWritten (pointAfter config acts).pc = [])
    {act : Interleaved UsbAnswer Irq} {earlier later : List (Interleaved UsbAnswer Irq)}
    (split : acts ++ [act] = earlier ++ later)
    (reporting : (interleaved config).Along (fun point _ => point.pc.reporting = true)
      (pointAfter config earlier) later) :
    ∀ instant ∈ instants, instant < earlier.length := by
  intro instant member
  obtain ⟨moment, after, within, outside⟩ := reflected.ended finished instant member
  refine Nat.lt_of_not_le fun inside => ?_
  have lengths := congrArg List.length split
  rw [List.length_append, List.length_singleton, List.length_append] at lengths
  have bound : moment - earlier.length < later.length := by omega
  have during := (interleaved config).along_getElem reporting bound
  have same : acts.take moment = earlier ++ later.take (moment - earlier.length) := by
    rw [← List.take_append_of_le_length within, split, List.take_append,
      List.take_of_length_le (inside.trans after)]
  rw [same, pointAfter_append] at outside
  exact Bool.noConfusion (during.symm.trans outside)

theorem Reflected.step (reflected : Reflected config acts instants)
    (act : Interleaved UsbAnswer Irq)
    (untorn : (interleaved config).Along (Untorn config) (interleaved config).initial
      (acts ++ [act])) :
    ∃ instants, Reflected config (acts ++ [act]) instants := by
  have reached : pointAfter config (acts ++ [act]) =
      (interleaved config).step (pointAfter config acts) act :=
    pointAfter_append config acts [act]
  have passed : (interleaved config).outputs (interleaved config).initial (acts ++ [act]) =
      (interleaved config).outputs (interleaved config).initial acts ++
        (interleaved config).emit (pointAfter config acts) act := by
    rw [Machine.outputs_append, Machine.outputs_cons, Machine.outputs_nil, List.append_nil]
    rfl
  have longer : ∀ instant ∈ instants, instant ≤ (acts ++ [act]).length := by
    intro instant member
    rw [List.length_append]
    exact Nat.le_add_right_of_le (reflected.within instant member)
  rcases written_cases config (pointAfter config acts) act with
    ⟨same, leaves⟩ | ⟨silent, finished, byte, writing⟩
  · refine ⟨instants, reflected.increasing, longer, ?_, ?_⟩
    · rw [passed, reached, List.append_assoc, same, statusAt_append act reflected.within]
      exact reflected.reports
    · intro none instant member
      by_cases finished : Device.pollUsbWritten (pointAfter config acts).pc = []
      · obtain ⟨later, after, within, outside⟩ := reflected.ended finished instant member
        refine ⟨later, after, ?_, ?_⟩
        · rw [List.length_append]
          exact Nat.le_add_right_of_le within
        · rwa [List.take_append_of_le_length within]
      · refine ⟨(acts ++ [act]).length, longer instant member, Nat.le_refl _, ?_⟩
        rw [List.take_length, reached]
        rw [reached] at none
        exact leaves none finished
  · have reported := reported_run untorn
    rw [reached, writing] at reported
    obtain ⟨past, ⟨earlier, later, split, state, _, reporting⟩, status⟩ := reported
    have here : statusAt config (acts ++ [act]) earlier.length = byte := by
      rw [statusAt, split, List.take_left, state, status]
    have inside : earlier.length ≤ (acts ++ [act]).length := by
      rw [split, List.length_append]
      exact Nat.le_add_right _ _
    refine ⟨instants ++ [earlier.length], ?_, ?_, ?_, ?_⟩
    · refine List.pairwise_append.mpr ⟨reflected.increasing, List.pairwise_singleton _ _, ?_⟩
      intro instant member last lastMember
      rw [List.mem_singleton.mp lastMember]
      exact reflected.before finished split reporting instant member
    · intro instant member
      rcases List.mem_append.mp member with old | new
      · exact longer instant old
      · rw [List.mem_singleton.mp new]
        exact inside
    · have reports := reflected.reports
      rw [finished, List.append_nil] at reports
      rw [passed, silent, List.append_nil, reached, writing, List.map_append,
        statusAt_append act reflected.within, reports, List.map_singleton, here]
      rfl
    · intro none
      rw [reached, writing] at none
      cases none

end Steps

/-- Every run in which no report is torn is reflected by some instants. -/
theorem exists_reflected (config : Config) {acts : List (Interleaved UsbAnswer Irq)}
    (untorn : (interleaved config).Along (Untorn config) (interleaved config).initial acts) :
    ∃ instants, Reflected config acts instants := by
  induction acts using List.reverseRecOn with
  | nil => exact ⟨[], .nil, nofun, rfl, nofun⟩
  | append_singleton acts act ih =>
      obtain ⟨instants, reflected⟩ := ih ((Machine.along_append _ _ _ _ _).mp untorn).1
      exact reflected.step act untorn

theorem underWay_sublist (state : AttachedPoint) :
    List.Sublist (state.writing WritePc.underWay) (Device.pollUsbWritten state.point.pc) := by
  obtain ⟨⟨pc, device⟩, port, writePc⟩ := state
  cases pc with
  | usbWrite byte =>
      cases writePc with
      | testDtr => exact List.nil_sublist _
      | _ => exact List.Sublist.refl _
  | _ => exact List.nil_sublist _

/-- From reset the host takes only what has been passed to `usb_write` or is being
written. -/
theorem outputs_sublist_written (config : Config) (acts : List AttachedAct) :
    List.Sublist ((attached config).outputs (attached config).initial acts)
      ((interleaved config).outputs (interleaved config).initial
          (programTrace config (attached config).initial acts) ++
        Device.pollUsbWritten
          (pointAfter config (programTrace config (attached config).initial acts)).pc) := by
  have between : ∀ byte, (attached config).initial.point.pc ≠ .usbWrite byte := by
    rintro byte ⟨⟩
  have taken : List.Sublist
      ((attached config).collect (attached config).emit (attached config).initial acts ++
        (inChannel config).held ((attached config).run (attached config).initial acts))
      ((inChannel config).held (attached config).initial ++
        (attached config).collect AttachedPoint.begunBy (attached config).initial acts) :=
    (inChannel_lossy config).run (attached config).initial acts
  rw [Machine.collect_emit, inChannel_held config between, collect_begunBy config between]
    at taken
  have written := underWay_sublist ((attached config).run (attached config).initial acts)
  rw [point_run] at written
  exact ((List.sublist_append_left _ _).trans taken).trans (written.append_left _)

/-- As long as no untriggered device triggers between the reads of a report, the
bytes the host takes are statuses of the device, at instants of the run that come
one after the other. -/
theorem host_reads_statuses (config : Config) (acts : List AttachedAct)
    (untorn : (interleaved config).Along (Untorn config) (interleaved config).initial
      (programTrace config (attached config).initial acts)) :
    ∃ instants : List Nat, instants.Pairwise (· < ·) ∧
      (∀ instant ∈ instants,
        instant ≤ (programTrace config (attached config).initial acts).length) ∧
      (attached config).outputs (attached config).initial acts =
        instants.map (statusAt config (programTrace config (attached config).initial acts)) := by
  obtain ⟨instants, reflected⟩ := exists_reflected config untorn
  have taken := outputs_sublist_written config acts
  rw [reflected.reports] at taken
  obtain ⟨seen, fewer, same⟩ := List.sublist_map_iff.mp taken
  refine ⟨seen, reflected.increasing.sublist fewer, ?_, same⟩
  exact fun instant member => reflected.within instant (fewer.subset member)

/-- The host takes the report of a countdown and then the one of its end. -/
def twoReports : List AttachedAct :=
  plugIn ++ .usb (.outPacket [2]) :: loopRounds 10 ++ .interrupt .timer :: loopRounds 12 ++
    .usb .inToken :: .interrupt .timer :: loopRounds 10 ++ [AttachedAct.usb .inToken]

theorem two_reports_read :
    ∃ instants : List Nat, instants.Pairwise (· < ·) ∧
      (attached makefileConfig).outputs (attached makefileConfig).initial twoReports =
        instants.map (statusAt makefileConfig
          (programTrace makefileConfig (attached makefileConfig).initial twoReports)) := by
  obtain ⟨instants, increasing, _, same⟩ :=
    host_reads_statuses makefileConfig twoReports (by decide +kernel)
  exact ⟨instants, increasing, same⟩

example : (attached makefileConfig).outputs (attached makefileConfig).initial twoReports =
    [1, 254] := by decide +kernel

end DomeHeartbeat
