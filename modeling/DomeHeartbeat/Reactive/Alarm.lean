import DomeHeartbeat.Reactive.Machine
import Mathlib.Data.List.Induction

/-!
# A countdown and a latch of its own

An alarm counts down from the last timeout it was given and sounds when the
count runs out. Unlike a `Watchdog` it is not disarmed by what silences it: a
timeout is taken whether or not the alarm sounds, and silencing leaves the count
alone. `Alarm.sounding_iff_rang` decides from the history whether it sounds, and
`Alarm.left_run` what is left of the count.
-/

namespace Reactive

/-- Ticks left, zero when none is set, and the latch. -/
structure Alarm where
  left : Nat
  sounding : Bool
deriving DecidableEq, Repr

namespace Alarm

/-- What an alarm is given: a timeout, silence or the passing of a tick. -/
inductive Act where
  | set (timeout : Nat)
  | silence
  | tick
deriving DecidableEq, Repr

def step (alarm : Alarm) : Act → Alarm
  | .set timeout => { alarm with left := timeout }
  | .silence => { alarm with sounding := false }
  | .tick => { left := alarm.left - 1, sounding := alarm.sounding || alarm.left == 1 }

/-- The alarm as a machine that passes nothing on; it starts silent and not set. -/
def machine : Machine Alarm Act Empty where
  initial := ⟨0, false⟩
  step := step
  emit _ _ := []

/-- No timeout is given. -/
def Unset (acts : List Act) : Prop := ∀ timeout, .set timeout ∉ acts

/-- Some timeout ran out before the next was given, and no silence followed. -/
def Rang (acts : List Act) : Prop :=
  ∃ before timeout between after,
    acts = before ++ .set timeout :: (between ++ .tick :: after) ∧
      between.count .tick + 1 = timeout ∧ Unset between ∧ .silence ∉ after

section Unset

variable {acts : List Act}

theorem Unset.of_cons {act : Act} (unset : Unset (act :: acts)) : Unset acts :=
  fun timeout member => unset timeout (List.mem_cons_of_mem act member)

theorem Unset.append_singleton {act : Act} (unset : Unset acts)
    (other : ∀ timeout, act ≠ .set timeout) : Unset (acts ++ [act]) := by
  intro timeout member
  rcases List.mem_append.mp member with earlier | last
  · exact unset timeout earlier
  · exact other timeout (List.mem_singleton.mp last).symm

/-- Until the next timeout every tick takes one from the count. -/
theorem left_run (unset : Unset acts) (alarm : Alarm) :
    (machine.run alarm acts).left = alarm.left - acts.count .tick := by
  induction acts generalizing alarm with
  | nil => rfl
  | cons act acts ih =>
      rw [Machine.run_cons, ih unset.of_cons]
      cases act with
      | set timeout => exact absurd List.mem_cons_self (unset timeout)
      | silence => rfl
      | tick =>
          rw [List.count_cons_self]
          simp only [machine, step]
          omega

theorem left_set (before : List Act) (timeout : Nat) (unset : Unset acts) :
    (machine.run machine.initial (before ++ .set timeout :: acts)).left =
      timeout - acts.count .tick := by
  rw [Machine.run_append, Machine.run_cons, left_run unset]
  rfl

end Unset

/-- A running count goes back to some timeout. -/
theorem exists_set_of_left {acts : List Act}
    (running : (machine.run machine.initial acts).left ≠ 0) :
    ∃ before timeout after, acts = before ++ .set timeout :: after ∧ Unset after := by
  induction acts using List.reverseRecOn with
  | nil => exact absurd rfl running
  | append_singleton acts act ih =>
      cases act with
      | set timeout => exact ⟨acts, timeout, [], rfl, by simp [Unset]⟩
      | silence =>
          rw [Machine.run_append] at running
          obtain ⟨before, timeout, after, rfl, unset⟩ := ih running
          exact ⟨before, timeout, after ++ [.silence], by simp, unset.append_singleton (by simp)⟩
      | tick =>
          rw [Machine.run_append] at running
          have earlier : (machine.run machine.initial acts).left ≠ 0 := by
            rintro zero
            exact running (congrArg (· - 1) zero)
          obtain ⟨before, timeout, after, rfl, unset⟩ := ih earlier
          exact ⟨before, timeout, after ++ [.tick], by simp, unset.append_singleton (by simp)⟩

/-- The count is about to run out exactly when all but one of the ticks of the
last timeout have passed. -/
theorem left_eq_one_iff (acts : List Act) :
    (machine.run machine.initial acts).left = 1 ↔
      ∃ before timeout after, acts = before ++ .set timeout :: after ∧ Unset after ∧
        after.count .tick + 1 = timeout := by
  constructor
  · intro one
    obtain ⟨before, timeout, after, rfl, unset⟩ := @exists_set_of_left acts (by omega)
    rw [left_set before timeout unset] at one
    exact ⟨before, timeout, after, rfl, unset, by omega⟩
  · rintro ⟨before, timeout, after, rfl, unset, due⟩
    rw [left_set before timeout unset]
    omega

/-- What one more act adds to a history. -/
theorem rang_append_singleton (acts : List Act) (act : Act) :
    Rang (acts ++ [act]) ↔
      Rang acts ∧ act ≠ .silence ∨
        act = .tick ∧ (machine.run machine.initial acts).left = 1 := by
  constructor
  · rintro ⟨before, timeout, between, after, split, due, unset, kept⟩
    rcases List.eq_nil_or_concat after with rfl | ⟨rest, last, rfl⟩
    · right
      have same : acts ++ [act] = (before ++ .set timeout :: between) ++ [Act.tick] := by
        simpa using split
      obtain ⟨rfl, single⟩ := List.append_inj' same rfl
      exact ⟨List.singleton_inj.mp single,
        (left_eq_one_iff _).mpr ⟨before, timeout, between, rfl, unset, due⟩⟩
    · left
      have same : acts ++ [act] =
          (before ++ .set timeout :: (between ++ .tick :: rest)) ++ [last] := by
        simpa using split
      obtain ⟨rfl, single⟩ := List.append_inj' same rfl
      rw [List.singleton_inj.mp single]
      refine ⟨⟨before, timeout, between, rest, rfl, due, unset, ?_⟩, ?_⟩
      · exact fun silenced => kept (by simp [silenced])
      · rintro rfl
        exact kept (by simp)
  · rintro (⟨⟨before, timeout, between, after, rfl, due, unset, kept⟩, other⟩ | ⟨rfl, one⟩)
    · refine ⟨before, timeout, between, after ++ [act], by simp, due, unset, fun silenced => ?_⟩
      rcases List.mem_append.mp silenced with earlier | last
      · exact kept earlier
      · exact other (List.mem_singleton.mp last).symm
    · obtain ⟨before, timeout, after, rfl, unset, due⟩ := (left_eq_one_iff _).mp one
      exact ⟨before, timeout, after, [], by simp, due, unset, by simp⟩

/-- An alarm sounds exactly when its history has rung it. -/
theorem sounding_iff_rang (acts : List Act) :
    (machine.run machine.initial acts).sounding = true ↔ Rang acts := by
  induction acts using List.reverseRecOn with
  | nil => simp [Rang, machine]
  | append_singleton acts act ih =>
      rw [rang_append_singleton, ← ih, Machine.run_append]
      generalize machine.run machine.initial acts = alarm
      cases act <;> simp [machine, step]

end Alarm

end Reactive
