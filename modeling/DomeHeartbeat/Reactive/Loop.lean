/-!
# Loops whose body may wait

`Loop.Ends` is a loop that has run to its end, with the number of rounds it
took. The body has no result when it waits for something that cannot come, so a
loop that ends has waited in none of its rounds. It ends in one way only
(`Ends.iff`), and `ends_of_left` is the rule for a loop that uses up a count of
rounds left.
-/

namespace Reactive

universe u

/-- `while (condition) body`, where a body that waits for ever has no result. -/
structure Loop (State : Type u) where
  condition : State → Bool
  body : State → Option State

namespace Loop

variable {State : Type u}

/-- The loop ends in `last` after so many rounds. -/
inductive Ends (loop : Loop State) : Nat → State → State → Prop where
  | stop {state} (done : loop.condition state = false) : Ends loop 0 state state
  | round {rounds state next last} (goes : loop.condition state = true)
      (returns : loop.body state = some next) (rest : Ends loop rounds next last) :
      Ends loop (rounds + 1) state last

variable {loop : Loop State} {rounds : Nat} {state last : State}

/-- A loop ends in one way only. -/
theorem Ends.unique (ends : loop.Ends rounds state last) {other : Nat} {final : State}
    (again : loop.Ends other state final) : other = rounds ∧ final = last := by
  induction ends generalizing other with
  | stop done =>
      cases again with
      | stop _ => exact ⟨rfl, rfl⟩
      | round goes _ _ => exact Bool.noConfusion (done.symm.trans goes)
  | round goes returns rest ih =>
      cases again with
      | stop done => exact Bool.noConfusion (done.symm.trans goes)
      | round _ also onward =>
          obtain rfl := Option.some_inj.mp (also.symm.trans returns)
          obtain ⟨rfl, same⟩ := ih onward
          exact ⟨rfl, same⟩

theorem Ends.iff (ends : loop.Ends rounds state last) {other : Nat} {final : State} :
    loop.Ends other state final ↔ other = rounds ∧ final = last := by
  constructor
  · exact ends.unique
  · rintro ⟨rfl, rfl⟩
    exact ends

/-- A loop that goes on while rounds are left, each of which returns with one
fewer, ends after as many rounds as were left. -/
theorem ends_of_left (left : State → Nat)
    (stops : ∀ state, left state = 0 → loop.condition state = false)
    (goes : ∀ state, left state ≠ 0 → loop.condition state = true ∧
      ∃ next, loop.body state = some next ∧ left next + 1 = left state)
    (state : State) : ∃ last, loop.Ends (left state) state last := by
  generalize remaining : left state = rounds
  induction rounds generalizing state with
  | zero => exact ⟨state, .stop (stops state remaining)⟩
  | succ rounds ih =>
      obtain ⟨more, next, returns, fewer⟩ := goes state (by omega)
      obtain ⟨last, rest⟩ := ih next (by omega)
      exact ⟨last, .round more returns rest⟩

end Loop

end Reactive
