import DomeHeartbeat.Reactive.Channel

/-!
# Accounts along a run

An `Account` has every step pay for what it spends out of a balance and the
income of that step. Over a run the spending is then at most the balance it
starts with and the income on the way (`Account.run`).
-/

namespace Reactive

universe u v w x

namespace Machine

variable {State : Type u} {Act : Type v} {Out : Type w} {Item : Type x}
  (machine : Machine State Act Out)

/-- The sum of an amount over the steps of a run. -/
def sumAlong (amount : State → Act → Nat) : State → List Act → Nat
  | _, [] => 0
  | state, act :: acts => amount state act + sumAlong amount (machine.step state act) acts

@[simp] theorem sumAlong_nil (amount : State → Act → Nat) (state : State) :
    machine.sumAlong amount state [] = 0 := rfl

@[simp] theorem sumAlong_cons (amount : State → Act → Nat) (state : State) (act : Act)
    (acts : List Act) :
    machine.sumAlong amount state (act :: acts) =
      amount state act + machine.sumAlong amount (machine.step state act) acts := rfl

theorem sumAlong_zero (state : State) (acts : List Act) :
    machine.sumAlong (fun _ _ => 0) state acts = 0 := by
  induction acts generalizing state with
  | nil => rfl
  | cons act acts ih => rw [sumAlong_cons, ih]

/-- The items of a kind seen at the steps are those of that kind seen along the run. -/
theorem sumAlong_countP (seen : State → Act → List Item) (test : Item → Bool) (state : State)
    (acts : List Act) :
    machine.sumAlong (fun state act => (seen state act).countP test) state acts =
      (machine.collect seen state acts).countP test := by
  induction acts generalizing state with
  | nil => rfl
  | cons act acts ih => rw [sumAlong_cons, ih, collect_cons, List.countP_append]

theorem sumAlong_length (seen : State → Act → List Item) (state : State) (acts : List Act) :
    machine.sumAlong (fun state act => (seen state act).length) state acts =
      (machine.collect seen state acts).length := by
  induction acts generalizing state with
  | nil => rfl
  | cons act acts ih => rw [sumAlong_cons, ih, collect_cons, List.length_append]

theorem sumAlong_mul (factor : Nat) (amount : State → Act → Nat) (state : State)
    (acts : List Act) :
    machine.sumAlong (fun state act => factor * amount state act) state acts =
      factor * machine.sumAlong amount state acts := by
  induction acts generalizing state with
  | nil => rfl
  | cons act acts ih => rw [sumAlong_cons, ih, sumAlong_cons, Nat.mul_add]

end Machine

/-- What each admitted step spends comes out of the balance and its income. -/
structure Account {State : Type u} {Act : Type v} {Out : Type w} (machine : Machine State Act Out)
    (guard : State → Act → Prop) where
  within : State → Prop
  balance : State → Nat
  spent : State → Act → Nat
  income : State → Act → Nat
  preserved : ∀ state act, within state → guard state act → within (machine.step state act)
  step : ∀ state act, within state → guard state act →
    spent state act + balance (machine.step state act) ≤ balance state + income state act

namespace Account

variable {State : Type u} {Act : Type v} {Out : Type w} {machine : Machine State Act Out}
  {guard : State → Act → Prop}

/-- What a run spends comes out of the first balance and its income. -/
theorem run (account : Account machine guard) {state : State} (holds : account.within state)
    {acts : List Act} (along : machine.Along guard state acts) :
    machine.sumAlong account.spent state acts + account.balance (machine.run state acts) ≤
      account.balance state + machine.sumAlong account.income state acts := by
  induction acts generalizing state with
  | nil => exact Nat.le_of_eq (Nat.add_comm _ _)
  | cons act acts ih =>
      have now := account.step state act holds along.1
      have later := ih (account.preserved state act holds along.1) along.2
      rw [Machine.sumAlong_cons, Machine.sumAlong_cons, Machine.run_cons]
      omega

end Account

end Reactive
