import DomeHeartbeat.Reactive.Machine

/-!
# Retriggerable pulses

A pulse is switched on and counted down by the same ticks, and the tick that
counts it down to zero switches it off again. A pulse of `length` ticks is
therefore on after the first `length - 1` of them only (`Pulse.on_window`).
-/

namespace Reactive

/-- The ticks left of a pulse and whether its output is on. -/
structure Pulse where
  left : Nat
  on : Bool
deriving DecidableEq, Repr

namespace Pulse

/-- A request restarts the pulse; a tick may carry a request that precedes it. -/
inductive Act where
  | restart
  | tick (requested : Bool)
deriving DecidableEq, Repr

/-- The ticks left when a tick counts down. -/
def loaded (length : Nat) (pulse : Pulse) (requested : Bool) : Nat :=
  if requested then length else pulse.left

/-- A generator of pulses of a fixed length. -/
def machine (length : Nat) : Machine Pulse Act Empty where
  initial := ⟨0, false⟩
  step pulse
    | .restart => { pulse with left := length }
    | .tick requested =>
        if pulse.loaded length requested = 0 then ⟨0, pulse.on⟩
        else ⟨pulse.loaded length requested - 1, pulse.loaded length requested != 1⟩
  emit _ _ := []

/-- The output is only on during a pulse. -/
def Sound (pulse : Pulse) : Prop := pulse.on = true → pulse.left ≠ 0

theorem left_tick (length : Nat) (pulse : Pulse) (requested : Bool) :
    ((machine length).step pulse (.tick requested)).left = pulse.loaded length requested - 1 := by
  by_cases empty : pulse.loaded length requested = 0 <;> simp [machine, empty]

theorem on_tick {length : Nat} {pulse : Pulse} {requested : Bool}
    (more : 1 < pulse.loaded length requested) :
    ((machine length).step pulse (.tick requested)).on = true := by
  have left : pulse.loaded length requested ≠ 0 := Nat.ne_of_gt (Nat.zero_lt_of_lt more)
  simp [machine, left, Nat.ne_of_gt more]

theorem Sound.step {length : Nat} (positive : 0 < length) {pulse : Pulse} (sound : pulse.Sound)
    (act : Act) : ((machine length).step pulse act).Sound := by
  cases act with
  | restart => exact fun _ => Nat.ne_of_gt positive
  | tick requested =>
      intro on
      rw [left_tick]
      by_cases empty : pulse.loaded length requested = 0
      · have kept : pulse.on = true := by simpa [machine, empty] using on
        cases requested with
        | true => exact absurd empty (Nat.ne_of_gt positive)
        | false => exact absurd empty (sound kept)
      · have more : pulse.loaded length requested ≠ 1 := by simpa [machine, empty] using on
        omega

theorem step_tick (length : Nat) {pulse : Pulse} (sound : pulse.Sound) :
    (machine length).step pulse (.tick false) = ⟨pulse.left - 1, decide (1 < pulse.left)⟩ := by
  obtain ⟨left, on⟩ := pulse
  match left with
  | 0 =>
      have off : on = false := Bool.eq_false_iff.mpr fun lit => sound lit rfl
      simp [machine, loaded, off]
  | 1 => rfl
  | left + 2 => simp [machine, loaded]

/-- Ticks without a request: the count goes down, and the output is on for as
long as it is positive. -/
theorem run_ticks (length : Nat) {pulse : Pulse} (sound : pulse.Sound) (count : Nat) :
    (machine length).run pulse (List.replicate (count + 1) (.tick false)) =
      ⟨pulse.left - (count + 1), decide (count + 1 < pulse.left)⟩ := by
  induction count generalizing pulse with
  | zero => exact step_tick length sound
  | succ count ih =>
      have next : Sound ⟨pulse.left - 1, decide (1 < pulse.left)⟩ := by
        intro on
        have more : 1 < pulse.left := of_decide_eq_true on
        exact Nat.sub_ne_zero_of_lt more
      rw [List.replicate_succ, Machine.run_cons, step_tick length sound, ih next]
      congr 1
      · dsimp only
        omega
      · rw [decide_eq_decide]
        dsimp only
        omega

/-- The ticks since a request, its own included. -/
def ticksSince (request : Act) (count : Nat) : Nat :=
  match request with
  | .restart => count
  | .tick _ => count + 1

/-- The window of a request that no other request follows. -/
theorem on_window {length : Nat} (positive : 0 < length) (pulse : Pulse) {request : Act}
    (requests : request ≠ .tick false) (count : Nat) (begun : 1 ≤ ticksSince request count) :
    ((machine length).run pulse (request :: List.replicate count (.tick false))).on = true ↔
      ticksSince request count < length := by
  rw [Machine.run_cons]
  cases request with
  | restart =>
      obtain ⟨count, rfl⟩ := Nat.exists_eq_add_one.mpr begun
      have sound : Sound ⟨length, pulse.on⟩ := fun _ => Nat.ne_of_gt positive
      change ((machine length).run ⟨length, pulse.on⟩ _).on = true ↔ _
      rw [run_ticks length sound]
      exact decide_eq_true_iff
  | tick requested =>
      have own : requested = true := by
        cases requested with
        | true => rfl
        | false => exact absurd rfl requests
      have serviced : (machine length).step pulse (.tick requested) =
          ⟨length - 1, decide (1 < length)⟩ := by
        obtain ⟨rest, rfl⟩ := Nat.exists_eq_add_one.mpr positive
        cases rest <;> simp [machine, loaded, own]
      rw [serviced]
      change _ ↔ count + 1 < length
      cases count with
      | zero => exact decide_eq_true_iff
      | succ count =>
          have sound : Sound ⟨length - 1, decide (1 < length)⟩ := fun on =>
            Nat.sub_ne_zero_of_lt (of_decide_eq_true on)
          rw [run_ticks length sound, decide_eq_true_iff]
          dsimp only
          omega

end Pulse

end Reactive
