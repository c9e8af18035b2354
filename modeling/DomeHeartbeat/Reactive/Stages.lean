import Mathlib
import DomeHeartbeat.Reactive.Machine

/-!
# Batches sent one item a tick

A plan is an ordered list of labelled batches. Each tick first cancels the
batches it is told to and then sends one item of the first batch that is not
empty. `Stages.stream` says which sequences a plan can send,
`Stages.count_add_remaining` that only a cancelled batch is cut short, and
`Stages.total_run` that every tick makes progress.
-/

namespace Reactive

universe u

namespace Stages

variable {α : Type u}

/-- Send one item of the first batch that is not empty. -/
def send : List (α × Nat) → List α × List (α × Nat)
  | [] => ([], [])
  | (label, 0) :: rest => ((send rest).1, (label, 0) :: (send rest).2)
  | (label, items + 1) :: rest => ([label], (label, items) :: rest)

/-- Empty every batch whose label is cancelled. -/
def cancel (cancelled : α → Bool) (stages : List (α × Nat)) : List (α × Nat) :=
  stages.map fun stage => (stage.1, if cancelled stage.1 then 0 else stage.2)

/-- The plan as a machine; a tick carries the labels it cancels. -/
def machine (stages : List (α × Nat)) : Machine (List (α × Nat)) (α → Bool) α where
  initial := stages
  step stages cancelled := (send (cancel cancelled stages)).2
  emit stages cancelled := (send (cancel cancelled stages)).1

/-- The items left over all batches. -/
def total (stages : List (α × Nat)) : Nat := (stages.map Prod.snd).sum

/-- The items left under one label. -/
def remaining [DecidableEq α] (label : α) (stages : List (α × Nat)) : Nat :=
  total (stages.filter fun stage => stage.1 = label)

/-- The sequences a plan can send: its batches in order, where a batch that is
followed by anything is complete or has been cancelled. -/
def Stream (cancelled : α → Prop) : List (α × Nat) → List α → Prop
  | [], sent => sent = []
  | (label, items) :: rest, sent => ∃ count tail,
      sent = List.replicate count label ++ tail ∧ count ≤ items ∧
        (tail ≠ [] → count = items ∨ cancelled label) ∧ Stream cancelled rest tail

theorem Stream.nil (cancelled : α → Prop) (stages : List (α × Nat)) :
    Stream cancelled stages [] := by
  induction stages with
  | nil => rfl
  | cons stage rest ih => exact ⟨0, [], rfl, Nat.zero_le _, by simp, ih⟩

theorem Stream.send {cancelled : α → Prop} {stages : List (α × Nat)} {later : List α}
    (stream : Stream cancelled (send stages).2 later) :
    Stream cancelled stages ((send stages).1 ++ later) := by
  induction stages generalizing later with
  | nil => exact stream
  | cons stage rest ih =>
      obtain ⟨label, items⟩ := stage
      cases items with
      | zero =>
          obtain ⟨count, tail, rfl, bounded, _, rest⟩ := stream
          obtain rfl : count = 0 := Nat.le_zero.mp bounded
          exact ⟨0, _, by simp [Stages.send], Nat.le_refl 0, fun _ => .inl rfl, ih rest⟩
      | succ items =>
          obtain ⟨count, tail, rfl, bounded, complete, rest⟩ := stream
          refine ⟨count + 1, tail, rfl, by omega, fun more => ?_, rest⟩
          exact (complete more).imp (congrArg (· + 1)) id

theorem Stream.cancel {cancelled : α → Prop} {now : α → Bool} {stages : List (α × Nat)}
    {later : List α} (stream : Stream cancelled (cancel now stages) later)
    (recorded : ∀ label, now label = true → cancelled label) :
    Stream cancelled stages later := by
  induction stages generalizing later with
  | nil => exact stream
  | cons stage rest ih =>
      obtain ⟨label, items⟩ := stage
      obtain ⟨count, tail, rfl, bounded, complete, rest⟩ := stream
      refine ⟨count, tail, rfl, ?_, fun more => ?_, ih rest⟩
      · exact Nat.le_trans bounded (by dsimp only; split <;> omega)
      · by_cases emptied : now label = true
        · exact .inr (recorded label emptied)
        · simpa [emptied] using complete more

/-- A run of a plan sends one of its streams, cut only where it was cancelled. -/
theorem stream {initial : List (α × Nat)} (stages : List (α × Nat)) (acts : List (α → Bool))
    {cancelled : α → Prop} (recorded : ∀ act ∈ acts, ∀ label, act label = true → cancelled label) :
    Stream cancelled stages ((machine initial).outputs stages acts) := by
  induction acts generalizing stages with
  | nil => exact .nil _ _
  | cons act acts ih =>
      have later := ih (send (cancel act stages)).2
        (fun act member => recorded act (List.mem_cons_of_mem _ member))
      exact later.send.cancel (recorded act List.mem_cons_self)

theorem total_send (stages : List (α × Nat)) :
    (send stages).1.length + total (send stages).2 = total stages := by
  induction stages with
  | nil => rfl
  | cons stage rest ih =>
      obtain ⟨label, items⟩ := stage
      cases items with
      | zero => simpa [send, total] using ih
      | succ items =>
          simp only [send, total, List.length_singleton, List.map_cons, List.sum_cons]
          omega

/-- A tick sends nothing exactly when nothing is left. -/
theorem send_eq_nil_iff (stages : List (α × Nat)) : (send stages).1 = [] ↔ total stages = 0 := by
  induction stages with
  | nil => simp [send, total]
  | cons stage rest ih =>
      obtain ⟨label, items⟩ := stage
      cases items with
      | zero => simpa [send, total] using ih
      | succ items => simp [send, total]

/-- A tick sends at most one item. -/
theorem length_send_le (stages : List (α × Nat)) : (send stages).1.length ≤ 1 := by
  induction stages with
  | nil => simp [send]
  | cons stage rest ih =>
      obtain ⟨label, items⟩ := stage
      cases items with
      | zero => exact ih
      | succ items => simp [send]

theorem total_cancel_le (cancelled : α → Bool) (stages : List (α × Nat)) :
    total (cancel cancelled stages) ≤ total stages := by
  induction stages with
  | nil => exact Nat.le_refl 0
  | cons stage rest ih =>
      have head : (if cancelled stage.1 then 0 else stage.2) ≤ stage.2 := by split <;> omega
      simp only [cancel, total, List.map_cons, List.sum_cons] at ih ⊢
      omega

/-- Every tick takes at least one item off what is left. -/
theorem total_step_le (initial stages : List (α × Nat)) (act : α → Bool) :
    total ((machine initial).step stages act) ≤ total stages - 1 := by
  have sent := total_send (cancel act stages)
  have bound := total_cancel_le act stages
  have progress := send_eq_nil_iff (cancel act stages)
  change total (send (cancel act stages)).2 ≤ _
  by_cases empty : total (cancel act stages) = 0
  · omega
  · have positive : (send (cancel act stages)).1.length ≠ 0 := by
      rw [Ne, List.length_eq_zero_iff]
      exact fun none => empty (progress.mp none)
    omega

theorem total_run (initial stages : List (α × Nat)) (acts : List (α → Bool)) :
    total ((machine initial).run stages acts) ≤ total stages - acts.length := by
  induction acts generalizing stages with
  | nil => exact Nat.le_refl _
  | cons act acts ih =>
      have next := total_step_le initial stages act
      have rest := ih ((machine initial).step stages act)
      rw [Machine.run_cons, List.length_cons]
      omega

/-- An exhausted plan sends nothing more. -/
theorem outputs_of_exhausted {initial stages : List (α × Nat)} (exhausted : total stages = 0)
    (acts : List (α → Bool)) : (machine initial).outputs stages acts = [] := by
  induction acts generalizing stages with
  | nil => rfl
  | cons act acts ih =>
      have still := total_step_le initial stages act
      have bound := total_cancel_le act stages
      have now : (machine initial).emit stages act = [] := (send_eq_nil_iff _).mpr (by omega)
      rw [Machine.outputs_cons, now, ih (by omega), List.append_nil]

theorem cancel_none (stages : List (α × Nat)) : cancel (fun _ => false) stages = stages := by
  simp [cancel]

section Labels

variable [DecidableEq α]

theorem remaining_send (label : α) (stages : List (α × Nat)) :
    (send stages).1.count label + remaining label (send stages).2 = remaining label stages := by
  induction stages with
  | nil => rfl
  | cons stage rest ih =>
      obtain ⟨head, items⟩ := stage
      by_cases same : head = label <;> cases items
      all_goals simp [send, remaining, total, same] at ih ⊢
      all_goals omega

theorem remaining_cancel (cancelled : α → Bool) (label : α) (stages : List (α × Nat)) :
    remaining label (cancel cancelled stages) =
      if cancelled label then 0 else remaining label stages := by
  induction stages with
  | nil => simp [remaining, total, cancel]
  | cons stage rest ih =>
      by_cases same : stage.1 = label <;> by_cases emptied : cancelled label = true <;>
        simp [remaining, total, cancel, same, emptied] at ih ⊢ <;>
        omega

/-- Under a label no tick cancels, what was sent and what is left add up. -/
theorem count_add_remaining (initial stages : List (α × Nat)) {label : α}
    {acts : List (α → Bool)} (kept : ∀ act ∈ acts, act label = false) :
    ((machine initial).outputs stages acts).count label +
      remaining label ((machine initial).run stages acts) = remaining label stages := by
  induction acts generalizing stages with
  | nil => simp
  | cons act acts ih =>
      have rest := ih ((machine initial).step stages act)
        (fun act member => kept act (List.mem_cons_of_mem _ member))
      have now := remaining_send label (cancel act stages)
      rw [remaining_cancel, kept act List.mem_cons_self] at now
      rw [Machine.outputs_cons, Machine.run_cons, List.count_append, Nat.add_assoc, rest]
      exact now

/-- No batch is sent more often than it has items. -/
theorem count_le_remaining (initial stages : List (α × Nat)) (label : α)
    (acts : List (α → Bool)) :
    ((machine initial).outputs stages acts).count label ≤ remaining label stages := by
  induction acts generalizing stages with
  | nil => simp
  | cons act acts ih =>
      have rest := ih ((machine initial).step stages act)
      have now := remaining_send label (cancel act stages)
      have cut := remaining_cancel act label stages
      rw [Machine.outputs_cons, List.count_append]
      change (send (cancel act stages)).1.count label + _ ≤ _
      change _ ≤ remaining label (send (cancel act stages)).2 at rest
      split at cut <;> omega

/-- From the tick that cancels it on, a batch is not sent. -/
theorem not_mem_of_cancelled (initial stages : List (α × Nat)) {label : α} {act : α → Bool}
    (cancels : act label = true) (acts : List (α → Bool)) :
    label ∉ (machine initial).outputs stages (act :: acts) := by
  have rest := count_le_remaining initial ((machine initial).step stages act) label acts
  have now := remaining_send label (cancel act stages)
  rw [remaining_cancel, if_pos cancels] at now
  change _ ≤ remaining label (send (cancel act stages)).2 at rest
  rw [← List.count_eq_zero, Machine.outputs_cons, List.count_append]
  change (send (cancel act stages)).1.count label + _ = 0
  omega

end Labels

end Stages

end Reactive
