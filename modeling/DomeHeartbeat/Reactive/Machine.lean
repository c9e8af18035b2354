import Mathlib.Data.List.Basic

/-!
# Machines resolved by their actions

A `Machine` is total: everything the environment may decide is carried by the
action, so one finite list of actions is one run. `Machine.Along` restricts a
run to actions a guard admits in the state they are taken in, and
`Machine.run_induction` is the single invariant rule used by every result about
runs. `Simulation` maps a run of one machine to a run of a smaller one.
-/

namespace Reactive

universe u v w

/-- A total step function together with the outputs each step passes on. -/
structure Machine (State : Type u) (Act : Type v) (Out : Type w) where
  initial : State
  step : State → Act → State
  emit : State → Act → List Out

namespace Machine

variable {State : Type u} {Act : Type v} {Out : Type w} (machine : Machine State Act Out)

/-- The state reached by taking a list of actions in order. -/
def run (state : State) (acts : List Act) : State :=
  acts.foldl machine.step state

/-- Everything passed on along a run, in order. -/
def outputs : State → List Act → List Out
  | _, [] => []
  | state, act :: acts => machine.emit state act ++ outputs (machine.step state act) acts

/-- Every action of the run is admitted by the guard in the state it is taken in. -/
def Along (guard : State → Act → Prop) : State → List Act → Prop
  | _, [] => True
  | state, act :: acts => guard state act ∧ Along guard (machine.step state act) acts

instance Along.decidable {guard : State → Act → Prop}
    [∀ state act, Decidable (guard state act)] :
    ∀ state acts, Decidable (machine.Along guard state acts)
  | _, [] => .isTrue trivial
  | state, act :: acts =>
      have _rest : Decidable (machine.Along guard (machine.step state act) acts) :=
        Along.decidable (machine.step state act) acts
      instDecidableAnd

/-- How many actions of the run satisfy a test in the state they are taken in. -/
def countAlong (test : State → Act → Bool) : State → List Act → Nat
  | _, [] => 0
  | state, act :: acts =>
      (if test state act then 1 else 0) + countAlong test (machine.step state act) acts

/-- A state some run ends in. -/
def Reachable (state : State) : Prop :=
  ∃ acts, machine.run machine.initial acts = state

@[simp] theorem run_nil (state : State) : machine.run state [] = state := rfl

@[simp] theorem run_cons (state : State) (act : Act) (acts : List Act) :
    machine.run state (act :: acts) = machine.run (machine.step state act) acts := rfl

@[simp] theorem run_append (state : State) (first second : List Act) :
    machine.run state (first ++ second) = machine.run (machine.run state first) second :=
  List.foldl_append

@[simp] theorem outputs_nil (state : State) : machine.outputs state [] = [] := rfl

@[simp] theorem outputs_cons (state : State) (act : Act) (acts : List Act) :
    machine.outputs state (act :: acts) =
      machine.emit state act ++ machine.outputs (machine.step state act) acts := rfl

@[simp] theorem outputs_append (state : State) (first second : List Act) :
    machine.outputs state (first ++ second) =
      machine.outputs state first ++ machine.outputs (machine.run state first) second := by
  induction first generalizing state with
  | nil => rfl
  | cons act acts ih => simp [ih]

@[simp] theorem along_nil (guard : State → Act → Prop) (state : State) :
    machine.Along guard state [] ↔ True := Iff.rfl

@[simp] theorem along_cons (guard : State → Act → Prop) (state : State) (act : Act)
    (acts : List Act) :
    machine.Along guard state (act :: acts) ↔
      guard state act ∧ machine.Along guard (machine.step state act) acts := Iff.rfl

@[simp] theorem along_append (guard : State → Act → Prop) (state : State)
    (first second : List Act) :
    machine.Along guard state (first ++ second) ↔
      machine.Along guard state first ∧ machine.Along guard (machine.run state first) second := by
  induction first generalizing state with
  | nil => simp
  | cons act acts ih => simp [ih, and_assoc]

@[simp] theorem countAlong_nil (test : State → Act → Bool) (state : State) :
    machine.countAlong test state [] = 0 := rfl

@[simp] theorem countAlong_cons (test : State → Act → Bool) (state : State) (act : Act)
    (acts : List Act) :
    machine.countAlong test state (act :: acts) =
      (if test state act then 1 else 0) + machine.countAlong test (machine.step state act) acts :=
  rfl

variable {machine}

theorem along_true (state : State) (acts : List Act) :
    machine.Along (fun _ _ => True) state acts := by
  induction acts generalizing state with
  | nil => trivial
  | cons act acts ih => exact ⟨trivial, ih _⟩

/-- Actions admitted in every state are admitted along every run. -/
theorem along_of_mem {guard : State → Act → Prop} {acts : List Act}
    (admitted : ∀ act ∈ acts, ∀ state, guard state act) (state : State) :
    machine.Along guard state acts := by
  induction acts generalizing state with
  | nil => trivial
  | cons act acts ih =>
      refine ⟨admitted act List.mem_cons_self state, ih ?_ _⟩
      exact fun later member => admitted later (List.mem_cons_of_mem act member)

/-- Every action of an admitted run is admitted where it is taken. -/
theorem along_getElem {guard : State → Act → Prop} {state : State} {acts : List Act}
    (along : machine.Along guard state acts) {index : Nat} (bound : index < acts.length) :
    guard (machine.run state (acts.take index)) acts[index] := by
  have split : acts = acts.take index ++ acts[index] :: acts.drop (index + 1) := by
    rw [← List.drop_eq_getElem_cons bound, List.take_append_drop]
  rw [split, along_append] at along
  exact along.2.1

/-- What every admitted step preserves holds at the end of every admitted run. -/
theorem run_induction {guard : State → Act → Prop} {invariant : State → Prop}
    (preserved : ∀ state act, invariant state → guard state act →
      invariant (machine.step state act))
    {state : State} {acts : List Act} (holds : invariant state)
    (along : machine.Along guard state acts) : invariant (machine.run state acts) := by
  induction acts generalizing state with
  | nil => exact holds
  | cons act acts ih => exact ih (preserved state act holds along.1) along.2

/-- What every step preserves from the initial state holds in every reachable state. -/
theorem Reachable.induction {invariant : State → Prop} {state : State}
    (reachable : machine.Reachable state) (holds : invariant machine.initial)
    (preserved : ∀ state act, invariant state → invariant (machine.step state act)) :
    invariant state := by
  obtain ⟨acts, rfl⟩ := reachable
  exact run_induction (fun state act invariant _ => preserved state act invariant) holds
    (along_true machine.initial acts)

end Machine

/-- A view of one machine's states under which each admitted step is at most one
step of another machine, in every state that satisfies an invariant. -/
structure Simulation {State : Type*} {Act : Type*} {Out : Type*} {State' : Type*}
    {Act' : Type*} {Out' : Type*} (concrete : Machine State Act Out)
    (abstract : Machine State' Act' Out') where
  invariant : State → Prop
  guard : State → Act → Prop
  view : State → State'
  label : State → Act → Option Act'
  preserved : ∀ state act, invariant state → guard state act →
    invariant (concrete.step state act)
  step : ∀ state act, invariant state → guard state act →
    view (concrete.step state act) =
      (label state act).elim (view state) (abstract.step (view state))

namespace Simulation

variable {State : Type*} {Act : Type*} {Out : Type*} {State' : Type*} {Act' : Type*}

/-- The abstract actions of a concrete run. -/
def trace {Out' : Type*} {concrete : Machine State Act Out} {abstract : Machine State' Act' Out'}
    (simulation : Simulation concrete abstract) : State → List Act → List Act'
  | _, [] => []
  | state, act :: acts =>
      (simulation.label state act).toList ++ trace simulation (concrete.step state act) acts

/-- Every action of the trace labels a step of the run. -/
theorem mem_trace {Out' : Type*} {concrete : Machine State Act Out}
    {abstract : Machine State' Act' Out'} (simulation : Simulation concrete abstract)
    {state : State} {acts : List Act} {seen : Act'} (member : seen ∈ simulation.trace state acts) :
    ∃ earlier act later, acts = earlier ++ act :: later ∧
      simulation.label (concrete.run state earlier) act = some seen := by
  induction acts generalizing state with
  | nil => simp [trace] at member
  | cons act acts ih =>
      rw [trace, List.mem_append] at member
      rcases member with now | rest
      · exact ⟨[], act, acts, rfl, Option.mem_toList.mp now⟩
      · obtain ⟨earlier, next, later, rfl, labelled⟩ := ih rest
        exact ⟨act :: earlier, next, later, rfl, labelled⟩

/-- A run is viewed as the run of its trace. -/
theorem view_run {Out' : Type*} {concrete : Machine State Act Out}
    {abstract : Machine State' Act' Out'} (simulation : Simulation concrete abstract)
    {state : State} (holds : simulation.invariant state) {acts : List Act}
    (along : concrete.Along simulation.guard state acts) :
    simulation.view (concrete.run state acts) =
      abstract.run (simulation.view state) (simulation.trace state acts) := by
  induction acts generalizing state with
  | nil => rfl
  | cons act acts ih =>
      have next := ih (simulation.preserved state act holds along.1) along.2
      rw [Machine.run_cons, next, simulation.step state act holds along.1, trace]
      cases simulation.label state act <;> rfl

/-- When each step passes on what its label passes on, so does each run. -/
theorem outputs_run {concrete : Machine State Act Out} {abstract : Machine State' Act' Out}
    (simulation : Simulation concrete abstract)
    (emits : ∀ state act, simulation.invariant state → simulation.guard state act →
      concrete.emit state act =
        (simulation.label state act).elim [] (abstract.emit (simulation.view state)))
    {state : State} (holds : simulation.invariant state) {acts : List Act}
    (along : concrete.Along simulation.guard state acts) :
    concrete.outputs state acts =
      abstract.outputs (simulation.view state) (simulation.trace state acts) := by
  induction acts generalizing state with
  | nil => rfl
  | cons act acts ih =>
      have next := ih (simulation.preserved state act holds along.1) along.2
      have view := simulation.step state act holds along.1
      rw [Machine.outputs_cons, next, emits state act holds along.1, view, trace]
      cases simulation.label state act <;> rfl

end Simulation

end Reactive
