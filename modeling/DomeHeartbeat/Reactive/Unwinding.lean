import DomeHeartbeat.Reactive.Machine

/-!
# Actions an observer cannot see

`Machine.purge` deletes the actions of a run that a test ignores in the state
they are taken in. An `Unwinding` is a view of the states that such actions
leave unchanged and every other action takes forward alone, so the view cannot
tell a run from its purge (`Unwinding.view_purge`), nor two runs with the same
purge from each other (`Unwinding.noninterference`).
-/

namespace Reactive

universe u v w x

namespace Machine

variable {State : Type u} {Act : Type v} {Out : Type w} (machine : Machine State Act Out)

/-- The actions of a run that the test does not ignore. -/
def purge (ignored : State → Act → Bool) : State → List Act → List Act
  | _, [] => []
  | state, act :: acts =>
      if ignored state act then purge ignored (machine.step state act) acts
      else act :: purge ignored (machine.step state act) acts

variable (ignored : State → Act → Bool)

theorem purge_cons_ignored {state : State} {act : Act} (gone : ignored state act = true)
    (acts : List Act) :
    machine.purge ignored state (act :: acts) =
      machine.purge ignored (machine.step state act) acts := by
  rw [purge, if_pos gone]

theorem purge_cons_kept {state : State} {act : Act} (kept : ignored state act = false)
    (acts : List Act) :
    machine.purge ignored state (act :: acts) =
      act :: machine.purge ignored (machine.step state act) acts := by
  rw [purge, kept, if_neg Bool.false_ne_true]

/-- The purge of a longer run extends the purge of the shorter one. -/
theorem purge_append (state : State) (first second : List Act) :
    machine.purge ignored state (first ++ second) =
      machine.purge ignored state first ++
        machine.purge ignored (machine.run state first) second := by
  induction first generalizing state with
  | nil => rfl
  | cons act acts ih =>
      rw [List.cons_append, run_cons]
      cases gone : ignored state act with
      | true => rw [purge_cons_ignored _ _ gone, purge_cons_ignored _ _ gone, ih]
      | false =>
          rw [purge_cons_kept _ _ gone, purge_cons_kept _ _ gone, ih, List.cons_append]

/-- A test of the action alone purges like a filter. -/
theorem purge_eq_filter (kept : Act → Bool) (state : State) (acts : List Act) :
    machine.purge (fun _ act => !kept act) state acts = acts.filter kept := by
  induction acts generalizing state with
  | nil => rfl
  | cons act acts ih =>
      cases keep : kept act with
      | true => rw [purge_cons_kept _ _ (by simp [keep]), List.filter_cons_of_pos keep, ih]
      | false =>
          rw [purge_cons_ignored _ _ (by simp [keep]), List.filter_cons_of_neg (by simp [keep]), ih]

end Machine

/-- A view under which ignored actions stutter and the others depend on the view alone. -/
structure Unwinding {State : Type u} {Act : Type v} {Out : Type w}
    (machine : Machine State Act Out) (View : Type x) where
  ignored : State → Act → Bool
  view : State → View
  stutters : ∀ state act, ignored state act = true → view (machine.step state act) = view state
  consistent : ∀ state other act, view state = view other → ignored state act = false →
    view (machine.step state act) = view (machine.step other act)

namespace Unwinding

variable {State : Type u} {Act : Type v} {Out : Type w} {View : Type x}
  {machine : Machine State Act Out} (unwinding : Unwinding machine View)

/-- The run of the purge is viewed like the run. -/
theorem view_purge {state other : State} (same : unwinding.view state = unwinding.view other)
    (acts : List Act) :
    unwinding.view (machine.run state acts) =
      unwinding.view (machine.run other (machine.purge unwinding.ignored state acts)) := by
  induction acts generalizing state other with
  | nil => exact same
  | cons act acts ih =>
      cases gone : unwinding.ignored state act with
      | true =>
          rw [machine.purge_cons_ignored _ gone, Machine.run_cons]
          exact ih ((unwinding.stutters state act gone).trans same)
      | false =>
          rw [machine.purge_cons_kept _ gone, Machine.run_cons, Machine.run_cons]
          exact ih (unwinding.consistent state other act same gone)

/-- When ignored actions pass nothing on and the others what the view decides,
a run passes on what its purge does. -/
theorem outputs_purge
    (silent : ∀ state act, unwinding.ignored state act = true → machine.emit state act = [])
    (emits : ∀ state other act, unwinding.view state = unwinding.view other →
      machine.emit state act = machine.emit other act)
    {state other : State} (same : unwinding.view state = unwinding.view other) (acts : List Act) :
    machine.outputs state acts =
      machine.outputs other (machine.purge unwinding.ignored state acts) := by
  induction acts generalizing state other with
  | nil => rfl
  | cons act acts ih =>
      cases gone : unwinding.ignored state act with
      | true =>
          rw [machine.purge_cons_ignored _ gone, Machine.outputs_cons, silent state act gone,
            List.nil_append]
          exact ih ((unwinding.stutters state act gone).trans same)
      | false =>
          rw [machine.purge_cons_kept _ gone, Machine.outputs_cons, Machine.outputs_cons,
            emits state other act same, ih (unwinding.consistent state other act same gone)]

/-- Runs whose purges agree are viewed alike. -/
theorem noninterference {state other : State}
    (same : unwinding.view state = unwinding.view other) {first second : List Act}
    (purged : machine.purge unwinding.ignored state first =
      machine.purge unwinding.ignored other second) :
    unwinding.view (machine.run state first) = unwinding.view (machine.run other second) := by
  rw [unwinding.view_purge same first, purged, ← unwinding.view_purge rfl second]

end Unwinding

end Reactive
