import DomeHeartbeat.Reactive.Machine

/-!
# Forward simulations between machines

A `Simulation` views a state as one state of the smaller machine. Where a state
stands for several, or an action takes effect later than it begins, the two
machines are related instead: `ForwardSimulation` asks that every admitted step
is at most one step of the other machine and passes on the same, and
`ForwardSimulation.run` carries both along a whole run. A `Renaming` is the case
in which the two machines differ in names only.
-/

namespace Reactive

universe u v w x y

namespace Machine

variable {State : Type u} {Act : Type v} {Out : Type w} {Act' : Type x}
  (machine : Machine State Act Out) (label : State → Act → Option Act')

/-- The labels of the steps of a run, in order; a step may have none. -/
def labels : State → List Act → List Act'
  | _, [] => []
  | state, act :: acts => (label state act).toList ++ labels (machine.step state act) acts

@[simp] theorem labels_nil (state : State) : machine.labels label state [] = [] := rfl

@[simp] theorem labels_cons (state : State) (act : Act) (acts : List Act) :
    machine.labels label state (act :: acts) =
      (label state act).toList ++ machine.labels label (machine.step state act) acts := rfl

theorem labels_append (state : State) (first second : List Act) :
    machine.labels label state (first ++ second) =
      machine.labels label state first ++
        machine.labels label (machine.run state first) second := by
  induction first generalizing state with
  | nil => rfl
  | cons act acts ih => simp [ih]

/-- Choosing among the labels afterwards or step by step is the same. -/
theorem labels_filterMap {Seen : Type y} (choose : Act' → Option Seen) (state : State)
    (acts : List Act) :
    (machine.labels label state acts).filterMap choose =
      machine.labels (fun state act => (label state act).bind choose) state acts := by
  induction acts generalizing state with
  | nil => rfl
  | cons act acts ih =>
      rw [labels_cons, labels_cons, List.filterMap_append, ih]
      cases label state act with
      | none => rfl
      | some act' => cases chosen : choose act' <;> simp [chosen]

/-- Labels that do not depend on the state are read off the actions. -/
theorem labels_eq_filterMap (choose : Act → Option Act') (state : State) (acts : List Act) :
    machine.labels (fun _ act => choose act) state acts = acts.filterMap choose := by
  induction acts generalizing state with
  | nil => rfl
  | cons act acts ih =>
      rw [labels_cons, ih, List.filterMap_cons]
      cases choose act <;> rfl

/-- Labels given late are the labels given early, in order, up to those the last
state still owes. -/
theorem labels_delayed (early late : State → Act → Option Act') (owed : State → List Act')
    (step : ∀ state act, (late state act).toList ++ owed (machine.step state act) =
      owed state ++ (early state act).toList) (state : State) (acts : List Act) :
    machine.labels late state acts ++ owed (machine.run state acts) =
      owed state ++ machine.labels early state acts := by
  induction acts generalizing state with
  | nil => simp
  | cons act acts ih =>
      rw [labels_cons, labels_cons, run_cons, List.append_assoc, ih, ← List.append_assoc, step,
        List.append_assoc]

end Machine

/-- A relation under which each admitted step of one machine is at most one step
of another and passes on the same. -/
structure ForwardSimulation {State : Type u} {Act : Type v} {Out : Type w} {State' : Type x}
    {Act' : Type y} (concrete : Machine State Act Out) (abstract : Machine State' Act' Out) where
  related : State → State' → Prop
  guard : State → Act → Prop
  label : State → Act → Option Act'
  step : ∀ state state' act, related state state' → guard state act →
    related (concrete.step state act) ((label state act).elim state' (abstract.step state'))
  emits : ∀ state state' act, related state state' → guard state act →
    concrete.emit state act = (label state act).elim [] (abstract.emit state')

namespace ForwardSimulation

variable {State : Type u} {Act : Type v} {Out : Type w} {State' : Type x} {Act' : Type y}
  {concrete : Machine State Act Out} {abstract : Machine State' Act' Out}

/-- From related states, a run and the run of its labels stay related and pass
on the same. -/
theorem run (simulation : ForwardSimulation concrete abstract) {state : State} {state' : State'}
    (holds : simulation.related state state') {acts : List Act}
    (along : concrete.Along simulation.guard state acts) :
    simulation.related (concrete.run state acts)
        (abstract.run state' (concrete.labels simulation.label state acts)) ∧
      concrete.outputs state acts =
        abstract.outputs state' (concrete.labels simulation.label state acts) := by
  induction acts generalizing state state' with
  | nil => exact ⟨holds, rfl⟩
  | cons act acts ih =>
      have next := simulation.step state state' act holds along.1
      have passes := simulation.emits state state' act holds along.1
      rw [Machine.run_cons, Machine.outputs_cons, Machine.labels_cons, passes]
      cases labelled : simulation.label state act with
      | none =>
          rw [labelled] at next
          exact ih next along.2
      | some act' =>
          rw [labelled] at next
          obtain ⟨later, same⟩ := ih next along.2
          exact ⟨later, congrArg (abstract.emit state' act' ++ ·) same⟩

end ForwardSimulation

/-- Maps of states, actions and outputs that turn each step of one machine into a
step of another. -/
structure Renaming {State : Type u} {Act : Type v} {Out : Type w} {State' : Type x}
    {Act' : Type y} {Out' : Type w} (concrete : Machine State Act Out)
    (renamed : Machine State' Act' Out') where
  state : State → State'
  act : Act → Act'
  out : Out → Out'
  step : ∀ current taken, renamed.step (state current) (act taken) =
    state (concrete.step current taken)
  emits : ∀ current taken, renamed.emit (state current) (act taken) =
    (concrete.emit current taken).map out

namespace Renaming

variable {State : Type u} {Act : Type v} {Out : Type w} {State' : Type x} {Act' : Type y}
  {Out' : Type w} {concrete : Machine State Act Out} {renamed : Machine State' Act' Out'}

theorem run (names : Renaming concrete renamed) (state : State) (acts : List Act) :
    renamed.run (names.state state) (acts.map names.act) =
      names.state (concrete.run state acts) := by
  induction acts generalizing state with
  | nil => rfl
  | cons act acts ih => rw [List.map_cons, Machine.run_cons, names.step, ih, Machine.run_cons]

theorem outputs (names : Renaming concrete renamed) (state : State) (acts : List Act) :
    renamed.outputs (names.state state) (acts.map names.act) =
      (concrete.outputs state acts).map names.out := by
  induction acts generalizing state with
  | nil => rfl
  | cons act acts ih =>
      rw [List.map_cons, Machine.outputs_cons, names.step, names.emits, ih,
        Machine.outputs_cons, List.map_append]

end Renaming

end Reactive
