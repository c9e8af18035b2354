import DomeHeartbeat.Reactive.Machine

/-!
# Unbounded queues

The queue a bounded buffer is meant to behave like. `Fifo.outputs_append_run`
is its law: whatever has left it followed by whatever is still in it is what it
held and was given, in order.
-/

namespace Reactive

universe u

namespace Fifo

/-- Put an item at the end of the queue, or take one from its front. -/
inductive Act (α : Type u) where
  | push (item : α)
  | pop
deriving DecidableEq, Repr

/-- A queue that passes on what is taken; taking from an empty queue does nothing. -/
def machine (α : Type u) : Machine (List α) (Act α) α where
  initial := []
  step queue
    | .push item => queue ++ [item]
    | .pop => queue.tail
  emit queue
    | .push _ => []
    | .pop => queue.head?.toList

variable {α : Type u}

/-- The items a run puts into the queue. -/
def pushed (acts : List (Act α)) : List α :=
  acts.filterMap fun
    | .push item => some item
    | .pop => none

@[simp] theorem pushed_nil : pushed ([] : List (Act α)) = [] := rfl

@[simp] theorem pushed_push (item : α) (acts : List (Act α)) :
    pushed (.push item :: acts) = item :: pushed acts := rfl

@[simp] theorem pushed_pop (acts : List (Act α)) : pushed (.pop :: acts) = pushed acts := rfl

/-- Nothing is lost, duplicated or reordered. -/
theorem outputs_append_run (queue : List α) (acts : List (Act α)) :
    (machine α).outputs queue acts ++ (machine α).run queue acts = queue ++ pushed acts := by
  induction acts generalizing queue with
  | nil => simp
  | cons act acts ih =>
      rw [Machine.outputs_cons, Machine.run_cons, List.append_assoc, ih]
      cases act with
      | push item => simp [machine]
      | pop =>
          rw [pushed_pop, ← List.append_assoc]
          congr 1
          cases queue <;> rfl

end Fifo

end Reactive
