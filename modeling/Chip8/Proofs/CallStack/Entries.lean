import Chip8.CallStack

namespace Chip8.CallStack

variable {capacity : Nat}

@[simp]
theorem length_entries (s : CallStack capacity) : s.entries.length = s.depth := by
  simp [entries, s.depth_le]

theorem entries_eq_nil_iff (s : CallStack capacity) : s.entries = [] ↔ s.depth = 0 := by
  rw [← List.length_eq_zero_iff, length_entries]

theorem push_of_lt (s : CallStack capacity) (address : Int) (h : s.depth < capacity) :
    ∃ above : CallStack capacity, s.push address = (.ok (), above) ∧
      above.entries = s.entries ++ [UInt16.ofInt address] := by
  refine ⟨_, dif_pos h, ?_⟩
  have bound : s.depth < s.slots.toList.length := by simpa using h
  simp only [entries, Vector.toList_set]
  rw [List.take_succ_eq_append_getElem (by simpa using bound), List.take_set_of_le (Nat.le_refl _),
    List.getElem_set_self]

theorem push_of_full (s : CallStack capacity) (address : Int) (h : s.depth = capacity) :
    s.push address = (.error (.stackFull capacity), s) := by
  rw [push, dif_neg (by omega), h]

theorem pop?_of_entries_eq_nil (s : CallStack capacity) (h : s.entries = []) : s.pop? = none := by
  obtain ⟨slots, depth, bound⟩ := s
  cases depth with
  | zero => rfl
  | succ depth => exact absurd ((entries_eq_nil_iff _).1 h) (Nat.succ_ne_zero depth)

theorem pop?_of_entries_ne_nil (s : CallStack capacity) (h : s.entries ≠ []) :
    ∃ (address : UInt16) (below : CallStack capacity), s.pop? = some (address, below) ∧
      s.entries = below.entries ++ [address] := by
  obtain ⟨slots, depth, bound⟩ := s
  cases depth with
  | zero => exact absurd List.take_zero h
  | succ depth =>
    refine ⟨_, _, rfl, ?_⟩
    have inside : depth < slots.toList.length := by simpa using Nat.lt_of_succ_le bound
    simp only [entries]
    rw [List.take_succ_eq_append_getElem inside]
    rfl

theorem pop_of_entries_eq_nil (s : CallStack capacity) (h : s.entries = []) :
    s.pop = (.error .returnFromEmpty, s) := by
  rw [pop, pop?_of_entries_eq_nil s h]

theorem pop_of_entries_ne_nil (s : CallStack capacity) (h : s.entries ≠ []) :
    ∃ (address : UInt16) (below : CallStack capacity), s.pop = (.ok address, below) ∧
      s.entries = below.entries ++ [address] := by
  obtain ⟨address, below, popped, entries⟩ := pop?_of_entries_ne_nil s h
  exact ⟨address, below, by rw [pop, popped], entries⟩

end Chip8.CallStack
