import DomeHeartbeat.Reactive.Machine

/-!
# Programs preempted by interrupts

A foreground program takes one statement at a time; between any two of them a
handler may run as a whole. `Preemptive.outline` is the proof rule used for such
programs: an assertion at every statement that the statement establishes at the
next one and that no handler admitted there falsifies.
-/

namespace Reactive

universe u

/-- The statement the foreground is about to take, and the memory it shares. -/
structure Point (Pc : Type u) (Shared : Type u) where
  pc : Pc
  shared : Shared

/-- A foreground statement with its input, or a handler. -/
inductive Interleaved (Input : Type u) (Irq : Type u) where
  | foreground (input : Input)
  | interrupt (irq : Irq)
deriving DecidableEq, Repr

/-- A foreground program over shared memory and the handlers that preempt it. -/
structure Preemptive (Pc : Type u) (Shared : Type u) (Input : Type u) (Irq : Type u)
    (Out : Type u) where
  start : Point Pc Shared
  statement : Pc → Shared → Input → Pc × Shared
  emit : Pc → Shared → Input → List Out
  handler : Irq → Shared → Shared

namespace Preemptive

variable {Pc : Type u} {Shared : Type u} {Input : Type u} {Irq : Type u} {Out : Type u}
  (program : Preemptive Pc Shared Input Irq Out)

/-- Every interleaving of the foreground with its handlers. -/
def machine : Machine (Point Pc Shared) (Interleaved Input Irq) Out where
  initial := program.start
  step point
    | .foreground input =>
        let next := program.statement point.pc point.shared input
        ⟨next.1, next.2⟩
    | .interrupt irq => { point with shared := program.handler irq point.shared }
  emit point
    | .foreground input => program.emit point.pc point.shared input
    | .interrupt _ => []

section Steps

variable (point : Point Pc Shared)

@[simp] theorem machine_initial : program.machine.initial = program.start := rfl

@[simp] theorem machine_step_foreground (input : Input) :
    program.machine.step point (.foreground input) =
      ⟨(program.statement point.pc point.shared input).1,
        (program.statement point.pc point.shared input).2⟩ := rfl

@[simp] theorem machine_step_interrupt (irq : Irq) :
    program.machine.step point (.interrupt irq) =
      { point with shared := program.handler irq point.shared } := rfl

@[simp] theorem machine_emit_foreground (input : Input) :
    program.machine.emit point (.foreground input) =
      program.emit point.pc point.shared input := rfl

@[simp] theorem machine_emit_interrupt (irq : Irq) :
    program.machine.emit point (.interrupt irq) = [] := rfl

end Steps

variable {program}

/-- A proof outline: each statement takes its assertion to the one at the next
statement, and each admitted handler keeps the assertion it preempts. -/
theorem outline {guard : Point Pc Shared → Interleaved Input Irq → Prop}
    (assertion : Pc → Shared → Prop)
    (establishes : ∀ pc shared input, assertion pc shared → guard ⟨pc, shared⟩ (.foreground input) →
      assertion (program.statement pc shared input).1 (program.statement pc shared input).2)
    (unharmed : ∀ pc shared irq, assertion pc shared → guard ⟨pc, shared⟩ (.interrupt irq) →
      assertion pc (program.handler irq shared))
    {point : Point Pc Shared} (holds : assertion point.pc point.shared)
    {acts : List (Interleaved Input Irq)} (along : program.machine.Along guard point acts) :
    assertion (program.machine.run point acts).pc (program.machine.run point acts).shared := by
  have preserved : ∀ (point : Point Pc Shared) (act : Interleaved Input Irq),
      assertion point.pc point.shared → guard point act →
      assertion (program.machine.step point act).pc (program.machine.step point act).shared := by
    intro point act holds admitted
    cases act with
    | foreground input => exact establishes point.pc point.shared input holds admitted
    | interrupt irq => exact unharmed point.pc point.shared irq holds admitted
  exact Machine.run_induction preserved holds along

/-- An outline that no handler harms anywhere holds at every reachable point. -/
theorem reachable_outline (assertion : Pc → Shared → Prop)
    (initially : assertion program.start.pc program.start.shared)
    (establishes : ∀ pc shared input, assertion pc shared →
      assertion (program.statement pc shared input).1 (program.statement pc shared input).2)
    (unharmed : ∀ pc shared irq, assertion pc shared → assertion pc (program.handler irq shared))
    {point : Point Pc Shared} (reachable : program.machine.Reachable point) :
    assertion point.pc point.shared := by
  obtain ⟨acts, rfl⟩ := reachable
  exact outline assertion (fun pc shared input holds _ => establishes pc shared input holds)
    (fun pc shared irq holds _ => unharmed pc shared irq holds) initially
    (Machine.along_true _ acts)

end Preemptive

end Reactive
