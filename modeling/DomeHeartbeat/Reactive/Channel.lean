import DomeHeartbeat.Reactive.Refinement

/-!
# Channels through a machine

A `Channel` watches a machine take items in, hold them and pass them on. One
comparison for each step, between what is passed on and still held and what was
held and is taken in, gives the same comparison for every run: equality when
nothing is lost (`Channel.Lossless.run`), a sublist when items may be dropped
but not reordered or repeated (`Channel.Lossy.run`).
-/

namespace Reactive

universe u v w x y

namespace Machine

variable {State : Type u} {Act : Type v} {Out : Type w} {Item : Type x}
  (machine : Machine State Act Out) (seen : State → Act → List Item)

/-- Everything seen at the steps of a run, in order. -/
def collect : State → List Act → List Item
  | _, [] => []
  | state, act :: acts => seen state act ++ collect (machine.step state act) acts

@[simp] theorem collect_nil (state : State) : machine.collect seen state [] = [] := rfl

@[simp] theorem collect_cons (state : State) (act : Act) (acts : List Act) :
    machine.collect seen state (act :: acts) =
      seen state act ++ machine.collect seen (machine.step state act) acts := rfl

theorem collect_append (state : State) (first second : List Act) :
    machine.collect seen state (first ++ second) =
      machine.collect seen state first ++
        machine.collect seen (machine.run state first) second := by
  induction first generalizing state with
  | nil => rfl
  | cons act acts ih => simp [ih]

theorem collect_emit (state : State) (acts : List Act) :
    machine.collect machine.emit state acts = machine.outputs state acts := by
  induction acts generalizing state with
  | nil => rfl
  | cons act acts ih => exact congrArg (_ ++ ·) (ih _)

theorem collect_label (label : State → Act → Option Item) (state : State) (acts : List Act) :
    machine.collect (fun state act => (label state act).toList) state acts =
      machine.labels label state acts := by
  induction acts generalizing state with
  | nil => rfl
  | cons act acts ih => exact congrArg (_ ++ ·) (ih _)

end Machine

/-- What is seen along the run a simulation maps to is seen along the run itself. -/
theorem Simulation.collect_trace {State : Type u} {Act : Type v} {Out : Type w} {State' : Type x}
    {Act' : Type y} {Out' : Type w} {Item : Type*} {concrete : Machine State Act Out}
    {abstract : Machine State' Act' Out'} (simulation : Simulation concrete abstract)
    (seen : State' → Act' → List Item) {state : State} (holds : simulation.invariant state)
    {acts : List Act} (along : concrete.Along simulation.guard state acts) :
    abstract.collect seen (simulation.view state) (simulation.trace state acts) =
      concrete.collect
        (fun state act => (simulation.label state act).elim [] (seen (simulation.view state)))
        state acts := by
  induction acts generalizing state with
  | nil => rfl
  | cons act acts ih =>
      have next := ih (simulation.preserved state act holds along.1) along.2
      rw [simulation.step state act holds along.1] at next
      rw [Machine.collect_cons, ← next, Simulation.trace]
      cases simulation.label state act <;> rfl

/-- A machine seen as a place items go through. -/
structure Channel {State : Type u} {Act : Type v} {Out : Type w} (machine : Machine State Act Out)
    (Item : Type x) where
  taken : State → Act → List Item
  held : State → List Item
  passed : State → Act → List Item

namespace Channel

variable {State : Type u} {Act : Type v} {Out : Type w} {Item : Type x}
  {machine : Machine State Act Out} (channel : Channel machine Item)

/-- Every admitted step passes on or holds what was held and what it takes in. -/
def Lossless (guard : State → Act → Prop) : Prop :=
  ∀ state act, guard state act →
    channel.passed state act ++ channel.held (machine.step state act) =
      channel.held state ++ channel.taken state act

/-- Every step passes on or holds only what was held and what it takes in. -/
def Lossy : Prop :=
  ∀ state act, List.Sublist (channel.passed state act ++ channel.held (machine.step state act))
    (channel.held state ++ channel.taken state act)

variable {channel}

theorem Lossless.run {guard : State → Act → Prop} (lossless : channel.Lossless guard)
    {state : State} {acts : List Act} (along : machine.Along guard state acts) :
    machine.collect channel.passed state acts ++ channel.held (machine.run state acts) =
      channel.held state ++ machine.collect channel.taken state acts := by
  induction acts generalizing state with
  | nil => simp
  | cons act acts ih =>
      rw [Machine.collect_cons, Machine.collect_cons, Machine.run_cons, List.append_assoc,
        ih along.2, ← List.append_assoc, lossless state act along.1, List.append_assoc]

theorem Lossy.run (lossy : channel.Lossy) (state : State) (acts : List Act) :
    List.Sublist
      (machine.collect channel.passed state acts ++ channel.held (machine.run state acts))
      (channel.held state ++ machine.collect channel.taken state acts) := by
  induction acts generalizing state with
  | nil => simp
  | cons act acts ih =>
      have now := (lossy state act).append_right
        (machine.collect channel.taken (machine.step state act) acts)
      have later := (ih (machine.step state act)).append_left (channel.passed state act)
      rw [← List.append_assoc] at later
      rw [List.append_assoc, List.append_assoc] at now
      rw [Machine.collect_cons, Machine.collect_cons, Machine.run_cons]
      exact later.trans now

end Channel

end Reactive
