import Mathlib

/-!
# Rings addressed by two wrapping indices

A ring keeps no count: the items still queued are those between the two
indices, so `size` queued items look like none. `Ring.contents_put` says what
storing an item does in both cases, and `Ring.contents_advance` what taking one
does; no other fact about indices is used above this module.
-/

namespace Reactive

universe u

/-- A buffer of `size` slots with a read and a write index that wrap at `size`. -/
@[ext]
structure Ring (α : Type u) (size : Nat) where
  slots : Fin size → α
  read : Fin size
  write : Fin size

namespace Ring

variable {α : Type u} {size : Nat} [NeZero size] (ring : Ring α size)

/-- A ring with both indices at the first slot. -/
def reset (slots : Fin size → α) : Ring α size := ⟨slots, 0, 0⟩

/-- No item lies between the indices. -/
def isEmpty (ring : Ring α size) : Bool := ring.write == ring.read

/-- The write index is one behind the read index. -/
def isFull : Bool := ring.write == ring.read - 1

/-- Store an item at the write index and advance it, whatever the slot holds. -/
def put (item : α) : Ring α size :=
  { ring with slots := Function.update ring.slots ring.write item, write := ring.write + 1 }

/-- The item at the read index. -/
def head (ring : Ring α size) : α := ring.slots ring.read

/-- Advance the read index. -/
def advance : Ring α size := { ring with read := ring.read + 1 }

/-- Every queued item taken. -/
def drained : Ring α size := { ring with read := ring.write }

/-- The wrapping distance from the read to the write index. -/
def count (ring : Ring α size) : Nat := (ring.write - ring.read).val

/-- The items between the indices, oldest first. -/
def contents : List α :=
  (List.range ring.count).map fun offset => ring.slots (ring.read + Fin.ofNat size offset)

@[simp] theorem length_contents : ring.contents.length = ring.count := by
  simp [contents]

omit [NeZero size] in
theorem count_lt : ring.count < size := (ring.write - ring.read).isLt

omit [NeZero size] in
theorem count_eq : ring.count = (size + ring.write - ring.read) % size := by
  have bound := ring.read.isLt
  rw [count, Fin.val_sub]
  congr 1
  omega

@[simp] theorem count_reset (slots : Fin size → α) : (reset slots).count = 0 := by
  simp [reset, count]

@[simp] theorem contents_reset (slots : Fin size → α) : (reset slots).contents = [] := by
  simp [contents]

theorem isEmpty_iff_count : ring.isEmpty = true ↔ ring.count = 0 := by
  rw [isEmpty, beq_iff_eq, count, Fin.val_eq_zero_iff, sub_eq_zero]

theorem isEmpty_iff_contents : ring.isEmpty = true ↔ ring.contents = [] := by
  rw [isEmpty_iff_count, ← length_contents, List.length_eq_zero_iff]

@[simp] theorem contents_drained : ring.drained.contents = [] := by
  simp [contents, drained, count]

omit [NeZero size] in
theorem drained_of_isEmpty {ring : Ring α size} (empty : ring.isEmpty = true) :
    ring.drained = ring := by
  rw [isEmpty, beq_iff_eq] at empty
  exact Ring.ext rfl empty rfl

@[simp] theorem drained_advance : ring.advance.drained = ring.drained := rfl

/-- One more stored item wraps the distance to zero exactly when the ring is full. -/
theorem isFull_iff_count : ring.isFull = true ↔ ring.count + 1 = size := by
  have distance : (ring.write - ring.read + 1).val = (ring.count + 1) % size := by
    rw [Fin.val_add, Fin.val_one', Nat.add_mod_mod]
    rfl
  have wraps : ring.isFull = true ↔ (ring.count + 1) % size = 0 := by
    rw [isFull, beq_iff_eq, ← distance, Fin.val_eq_zero_iff, sub_add_eq_add_sub, sub_eq_zero,
      eq_sub_iff_add_eq]
  have bound := ring.count_lt
  rw [wraps]
  constructor
  · intro zero
    by_contra other
    rw [Nat.mod_eq_of_lt (by omega)] at zero
    omega
  · intro whole
    rw [whole, Nat.mod_self]

theorem count_put (item : α) : (ring.put item).count = (ring.count + 1) % size := by
  have distance : (ring.put item).write - (ring.put item).read = ring.write - ring.read + 1 :=
    (sub_add_eq_add_sub _ _ _).symm
  rw [count, distance, Fin.val_add, Fin.val_one', Nat.add_mod_mod]
  rfl

/-- The slot at the write index is none of those between the indices. -/
theorem write_ne_of_lt_count {offset : Nat} (inside : offset < ring.count) :
    ring.read + Fin.ofNat size offset ≠ ring.write := by
  intro same
  have position : Fin.ofNat size offset = ring.write - ring.read :=
    eq_sub_of_add_eq' same
  have value := congrArg Fin.val position
  have bound := ring.count_lt
  rw [Fin.val_ofNat, Nat.mod_eq_of_lt (by omega)] at value
  simp only [count] at inside
  omega

/-- Storing into a full ring makes every queued item vanish; otherwise the item
joins the end of the queue. -/
theorem contents_put (item : α) :
    (ring.put item).contents = if ring.isFull then [] else ring.contents ++ [item] := by
  by_cases full : ring.isFull = true
  · have whole := ring.isFull_iff_count.mp full
    simp [contents, count_put, whole, full]
  · have room : ring.count + 1 < size := by
      have bound := ring.count_lt
      have notWhole := mt ring.isFull_iff_count.mpr full
      omega
    have end_ : ring.read + Fin.ofNat size ring.count = ring.write := by
      have position : Fin.ofNat size ring.count = ring.write - ring.read := by
        apply Fin.ext
        rw [Fin.val_ofNat, Nat.mod_eq_of_lt ring.count_lt, count]
      rw [position, add_sub_cancel]
    rw [if_neg full, contents, count_put, Nat.mod_eq_of_lt room, List.range_succ, List.map_append]
    congr 1
    · apply List.map_congr_left
      intro offset member
      exact Function.update_of_ne (ring.write_ne_of_lt_count (List.mem_range.mp member)) _ _
    · change [Function.update ring.slots ring.write item
        (ring.read + Fin.ofNat size ring.count)] = [item]
      rw [end_, Function.update_self]

/-- Taking from a ring that is not empty removes the oldest queued item. -/
theorem contents_advance (queued : ring.isEmpty = false) :
    ring.contents = ring.head :: ring.advance.contents := by
  have positive : ring.count ≠ 0 := by
    intro zero
    rw [ring.isEmpty_iff_count.mpr zero] at queued
    cases queued
  have distance : ring.advance.count = ring.count - 1 := by
    have next : ring.advance.write - ring.advance.read = ring.write - ring.read - 1 :=
      sub_add_eq_sub_sub _ _ _
    rw [count, next, Fin.val_sub_one_of_ne_zero]
    · rfl
    · exact fun zero => positive (by simp [count, zero])
  obtain ⟨rest, split⟩ := Nat.exists_eq_succ_of_ne_zero positive
  have remaining : ring.advance.count = rest := by omega
  rw [contents, split, List.range_succ_eq_map, List.map_cons, List.map_map, contents, remaining]
  congr 1
  · simp [head]
  · apply List.map_congr_left
    intro offset _
    have position : ring.read + Fin.ofNat size (offset + 1) =
        ring.read + 1 + Fin.ofNat size offset := by
      rw [add_assoc]
      congr 1
      apply Fin.ext
      simp [Fin.val_add, Nat.add_comm]
    exact congrArg ring.slots position

theorem count_advance (queued : ring.isEmpty = false) : ring.advance.count + 1 = ring.count := by
  have lengths := congrArg List.length (ring.contents_advance queued)
  rw [List.length_cons, length_contents, length_contents] at lengths
  exact lengths.symm

/-! ## What has been stored -/

/-- The queue stays the end of what has been stored when an item is stored. -/
theorem suffix_put {items : List α} (holds : ring.contents <:+ items) (item : α) :
    (ring.put item).contents <:+ items ++ [item] := by
  rw [contents_put]
  split
  · exact List.nil_suffix
  · obtain ⟨earlier, rfl⟩ := holds
    exact ⟨earlier, (List.append_assoc _ _ _).symm⟩

/-- The queue stays the end of what has been stored when an item is taken. -/
theorem suffix_advance {items : List α} (holds : ring.contents <:+ items)
    (queued : ring.isEmpty = false) : ring.advance.contents <:+ items := by
  rw [ring.contents_advance queued] at holds
  exact (List.suffix_cons _ _).trans holds

/-- What is left of the items stored in an empty ring: whole rounds vanish. -/
def latest (size : Nat) (items : List α) : List α := items.drop (size * (items.length / size))

omit [NeZero size] in
theorem latest_of_length_lt {items : List α} (short : items.length < size) :
    latest size items = items := by
  simp [latest, Nat.div_eq_of_lt short]

omit [NeZero size] in
theorem length_latest (items : List α) : (latest size items).length = items.length % size := by
  rw [latest, List.length_drop, ← Nat.mod_eq_sub_mul_div]

theorem latest_append_singleton (items : List α) (item : α) :
    latest size (items ++ [item]) =
      if items.length % size + 1 = size then [] else latest size items ++ [item] := by
  have positive : 0 < size := Nat.pos_of_neZero size
  have split := Nat.div_add_mod items.length size
  have bound := Nat.mod_lt items.length positive
  by_cases whole : items.length % size + 1 = size
  · rw [if_pos whole, latest, List.drop_eq_nil_iff]
    have rounds : (items.length + 1) / size = items.length / size + 1 := by
      apply Nat.div_eq_of_lt_le
      · rw [Nat.mul_comm, Nat.mul_succ]
        omega
      · rw [Nat.mul_comm, Nat.mul_succ, Nat.mul_succ]
        omega
    rw [List.length_append, List.length_singleton, rounds, Nat.mul_succ]
    omega
  · have rounds : (items.length + 1) / size = items.length / size := by
      apply Nat.div_eq_of_lt_le
      · rw [Nat.mul_comm]
        omega
      · rw [Nat.mul_comm, Nat.mul_succ]
        omega
    rw [if_neg whole, latest, latest, List.length_append, List.length_singleton, rounds,
      List.drop_append_of_le_length (by omega)]

/-- A ring that holds what is left of some items still does after one more. -/
theorem contents_put_latest {items : List α} (holds : ring.contents = latest size items)
    (item : α) : (ring.put item).contents = latest size (items ++ [item]) := by
  have full : ring.isFull = true ↔ items.length % size + 1 = size := by
    rw [isFull_iff_count, ← length_contents, holds, length_latest]
  rw [contents_put, latest_append_singleton, holds]
  by_cases whole : items.length % size + 1 = size
  · rw [if_pos whole, if_pos (full.mpr whole)]
  · rw [if_neg whole, if_neg (fun isFull => whole (full.mp isFull))]

end Ring

end Reactive
