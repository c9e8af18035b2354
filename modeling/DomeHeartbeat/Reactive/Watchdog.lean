import DomeHeartbeat.Reactive.Machine
import Mathlib.Data.List.Induction

/-!
# A latching watchdog

A watchdog counts down from the last timeout it was given and latches when the
count runs out. A latched watchdog ignores every timeout but zero, which
disarms it. `Watchdog.latched_iff_expired` decides from the history alone
whether it has latched, and `Watchdog.waiting_left` recovers the count.
-/

namespace Reactive

/-- A count of ticks left, zero when disarmed, or the latch. -/
inductive Watchdog where
  | waiting (left : Nat)
  | latched
deriving DecidableEq, Repr

namespace Watchdog

/-- What a watchdog is given: a timeout or the passing of a tick. -/
inductive Act where
  | set (timeout : Nat)
  | tick
deriving DecidableEq, Repr

def step : Watchdog → Act → Watchdog
  | .waiting _, .set timeout => .waiting timeout
  | .waiting 0, .tick => .waiting 0
  | .waiting 1, .tick => .latched
  | .waiting (left + 2), .tick => .waiting (left + 1)
  | .latched, .set 0 => .waiting 0
  | .latched, .set (_ + 1) => .latched
  | .latched, .tick => .latched

/-- The watchdog as a machine that passes nothing on; it starts disarmed. -/
def machine : Machine Watchdog Act Empty where
  initial := .waiting 0
  step := step
  emit _ _ := []

/-- The timeout of some entry ran out before the next entry, and no zero followed. -/
def Expired (acts : List Act) : Prop :=
  ∃ before timeout after, 0 < timeout ∧
    acts = before ++ .set timeout :: (List.replicate timeout .tick ++ after) ∧
    .set 0 ∉ after

/-- The last timeout and the ticks since it leave this count. -/
def Counts (acts : List Act) (left : Nat) : Prop :=
  (left = 0 ∧ ∃ ticks, acts = List.replicate ticks .tick) ∨
    ∃ before timeout ticks, acts = before ++ .set timeout :: List.replicate ticks .tick ∧
      left = timeout - ticks ∧ (ticks < timeout ∨ timeout = 0)

theorem Counts.tick {acts : List Act} {left : Nat} (counts : Counts acts left)
    (safe : left ≠ 1) : Counts (acts ++ [.tick]) (left - 1) := by
  rcases counts with ⟨zero, ticks, rfl⟩ | ⟨before, timeout, ticks, rfl, spent, armed⟩
  · refine .inl ⟨by omega, ticks + 1, ?_⟩
    rw [List.replicate_succ']
  · refine .inr ⟨before, timeout, ticks + 1, ?_, by omega, by omega⟩
    rw [List.replicate_succ']
    simp

theorem Counts.expire {acts : List Act} (counts : Counts acts 1) :
    Expired (acts ++ [.tick]) := by
  rcases counts with ⟨zero, _⟩ | ⟨before, timeout, ticks, rfl, spent, _⟩
  · cases zero
  · have last : timeout = ticks + 1 := by omega
    subst last
    refine ⟨before, ticks + 1, [], by omega, ?_, by simp⟩
    rw [List.replicate_succ']
    simp

theorem Expired.extend {acts : List Act} (expired : Expired acts) {act : Act}
    (kept : act ≠ .set 0) : Expired (acts ++ [act]) := by
  obtain ⟨before, timeout, after, positive, rfl, uncleared⟩ := expired
  refine ⟨before, timeout, after ++ [act], positive, by simp, ?_⟩
  simp [uncleared, Ne.symm kept]

/-- The history explains the state, whichever it is. -/
theorem explained (acts : List Act) :
    match machine.run (.waiting 0) acts with
    | .waiting left => Counts acts left
    | .latched => Expired acts := by
  induction acts using List.reverseRecOn with
  | nil => exact .inl ⟨rfl, 0, rfl⟩
  | append_singleton acts act ih =>
      rw [Machine.run_append]
      cases state : machine.run (.waiting 0) acts with
      | waiting left =>
          rw [state] at ih
          cases act with
          | set timeout => exact .inr ⟨acts, timeout, 0, by simp, by simp, by omega⟩
          | tick =>
              match left, ih with
              | 0, counts => exact counts.tick (by omega)
              | 1, counts => exact counts.expire
              | _ + 2, counts => exact counts.tick (by omega)
      | latched =>
          rw [state] at ih
          cases act with
          | set timeout =>
              cases timeout with
              | zero => exact .inr ⟨acts, 0, 0, by simp, by simp, by omega⟩
              | succ timeout => exact ih.extend (by simp)
          | tick => exact ih.extend (by simp)

/-- A latched watchdog stays latched until it is given zero. -/
theorem run_latched {acts : List Act} (uncleared : .set 0 ∉ acts) :
    machine.run .latched acts = .latched := by
  induction acts with
  | nil => rfl
  | cons act acts ih =>
      have rest := ih (fun member => uncleared (List.mem_cons_of_mem _ member))
      match act with
      | .tick => exact rest
      | .set 0 => exact absurd List.mem_cons_self uncleared
      | .set (_ + 1) => exact rest

theorem ticks_uncleared (ticks : Nat) : Act.set 0 ∉ List.replicate ticks Act.tick := by
  simp [List.mem_replicate]

/-- Ticks alone run a positive count out. -/
theorem run_countdown (left : Nat) :
    machine.run (.waiting (left + 1)) (List.replicate (left + 1) .tick) = .latched := by
  induction left with
  | zero => rfl
  | succ left ih => exact ih

/-- Ticks alone latch a watchdog that was given a timeout once they have used it up. -/
theorem run_replicate {timeout : Nat} (positive : 0 < timeout) (ticks : Nat) :
    machine.run (.waiting timeout) (List.replicate ticks .tick) =
      if timeout ≤ ticks then .latched else .waiting (timeout - ticks) := by
  induction ticks generalizing timeout with
  | zero => exact (if_neg (by omega)).symm
  | succ ticks ih =>
      rw [List.replicate_succ, Machine.run_cons]
      match timeout with
      | 1 => exact (run_latched (ticks_uncleared ticks)).trans (if_pos (by omega)).symm
      | timeout + 2 =>
          refine (ih (Nat.succ_pos timeout)).trans ?_
          by_cases used : timeout + 1 ≤ ticks
          · rw [if_pos used, if_pos (by omega)]
          · rw [if_neg used, if_neg (by omega)]
            exact congrArg waiting (by omega)

/-- A watchdog is latched exactly when its history has expired. -/
theorem latched_iff_expired (acts : List Act) :
    machine.run (.waiting 0) acts = .latched ↔ Expired acts := by
  constructor
  · intro latched
    have history := explained acts
    rw [latched] at history
    exact history
  · rintro ⟨before, timeout, after, positive, rfl, uncleared⟩
    obtain ⟨left, rfl⟩ := Nat.exists_eq_add_one.mpr positive
    rw [Machine.run_append, Machine.run_cons, Machine.run_append]
    cases machine.run (.waiting 0) before with
    | waiting _ =>
        change machine.run (machine.run (.waiting (left + 1)) _) after = _
        rw [run_countdown, run_latched uncleared]
    | latched =>
        change machine.run (machine.run .latched _) after = _
        rw [run_latched (ticks_uncleared _), run_latched uncleared]

/-- While ticks alone have not latched it, the count is what they leave over. -/
theorem run_ticks {timeout ticks left : Nat}
    (waiting : machine.run (.waiting timeout) (List.replicate ticks .tick) = .waiting left) :
    left = timeout - ticks := by
  induction ticks generalizing timeout with
  | zero =>
      cases waiting
      rfl
  | succ ticks ih =>
      rw [List.replicate_succ, Machine.run_cons] at waiting
      match timeout with
      | 0 => exact (ih waiting).trans (by omega)
      | 1 =>
          have latched := run_latched (ticks_uncleared ticks)
          exact absurd (latched.symm.trans waiting) (by simp)
      | _ + 2 => exact (ih waiting).trans (by omega)

/-- A watchdog that has not latched holds its last timeout less the ticks
since, and unless that timeout was zero some of it is left. -/
theorem waiting_left {before : List Act} {timeout ticks left : Nat}
    (waiting : machine.run (.waiting 0)
      (before ++ .set timeout :: List.replicate ticks .tick) = .waiting left) :
    left = timeout - ticks ∧ (timeout ≠ 0 → ticks < timeout) := by
  constructor
  · rw [Machine.run_append, Machine.run_cons] at waiting
    cases state : machine.run (.waiting 0) before with
    | waiting _ =>
        rw [state] at waiting
        exact run_ticks waiting
    | latched =>
        rw [state] at waiting
        cases timeout with
        | zero => exact run_ticks waiting
        | succ timeout =>
            have latched := run_latched (ticks_uncleared ticks)
            exact absurd (latched.symm.trans waiting) (by simp)
  · intro positive
    by_contra late
    obtain ⟨extra, rfl⟩ := Nat.exists_eq_add_of_le (Nat.le_of_not_lt late)
    have expired : Expired (before ++ .set timeout :: List.replicate (timeout + extra) .tick) :=
      ⟨before, timeout, List.replicate extra .tick, Nat.pos_of_ne_zero positive,
        by rw [List.replicate_append_replicate], ticks_uncleared extra⟩
    rw [(latched_iff_expired _).mpr expired] at waiting
    cases waiting

end Watchdog

end Reactive
