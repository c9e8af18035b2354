import DomeHeartbeat.Reactive.Machine

/-!
# Progress by a rank

A `Progress` bounds how long a machine can put something off: the actions that
count lower a rank, the others do not raise it, and so a run with more counted
actions than the rank has got there on the way (`Progress.run`). Nothing is
assumed about how the counted actions are spread over the run.
-/

namespace Reactive

universe u v w

/-- Actions counted whatever the state are counted in the list of actions. -/
theorem Machine.countAlong_const {State : Type u} {Act : Type v} {Out : Type w}
    (machine : Machine State Act Out) (test : Act → Bool) (state : State) (acts : List Act) :
    machine.countAlong (fun _ act => test act) state acts = acts.countP test := by
  induction acts generalizing state with
  | nil => rfl
  | cons act acts ih =>
      rw [Machine.countAlong_cons, ih, List.countP_cons]
      omega

/-- A rank that every counted action lowers until `done` is reached. -/
structure Progress {State : Type u} {Act : Type v} {Out : Type w} (machine : Machine State Act Out)
    (guard : State → Act → Prop) where
  within : State → Prop
  done : State → Prop
  rank : State → Nat
  counts : State → Act → Bool
  step : ∀ state act, within state → guard state act →
    done (machine.step state act) ∨
      within (machine.step state act) ∧
        rank (machine.step state act) + (if counts state act then 1 else 0) ≤ rank state

namespace Progress

variable {State : Type u} {Act : Type v} {Out : Type w} {machine : Machine State Act Out}
  {guard : State → Act → Prop}

/-- More counted actions than the rank admits lead to `done`. -/
theorem run (progress : Progress machine guard) {state : State} (holds : progress.within state)
    {acts : List Act} (along : machine.Along guard state acts)
    (enough : progress.rank state < machine.countAlong progress.counts state acts) :
    ∃ earlier later, acts = earlier ++ later ∧ progress.done (machine.run state earlier) := by
  induction acts generalizing state with
  | nil => exact absurd enough (Nat.not_lt_zero _)
  | cons act acts ih =>
      rcases progress.step state act holds along.1 with arrived | ⟨still, lower⟩
      · exact ⟨[act], acts, rfl, arrived⟩
      · rw [Machine.countAlong] at enough
        have left : progress.rank (machine.step state act) <
            machine.countAlong progress.counts (machine.step state act) acts := by omega
        obtain ⟨earlier, later, rfl, arrived⟩ := ih still along.2 left
        exact ⟨act :: earlier, later, rfl, arrived⟩

end Progress

end Reactive
