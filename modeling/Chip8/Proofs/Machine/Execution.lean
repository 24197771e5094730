import Chip8.Machine.Execute
import Chip8.Proofs.CallStack.Entries
import Chip8.Proofs.Keypad.Latch
import Chip8.Proofs.Memory.Blocks

namespace Chip8

namespace Machine

variable {m : Machine}

/-! ## Instructions that go through -/

theorem execute_ret (h : m.stack.entries ≠ []) (pc : Int) :
    ∃ (address : UInt16) (below : CallStack 16), m.stack.entries = below.entries ++ [address] ∧
      m.execute .ret pc = .done { m with stack := below } address #[] := by
  obtain ⟨address, below, pop, entries⟩ := CallStack.pop_of_entries_ne_nil _ h
  refine ⟨address, below, entries, ?_⟩
  simp only [execute, pop]

theorem execute_call (h : m.stack.entries.length ≠ 16) (nnn : Fin 4096) (pc : Int) :
    ∃ above : CallStack 16, above.entries = m.stack.entries ++ [UInt16.ofInt (pc + 2)] ∧
      m.execute (.call nnn) pc = .done { m with stack := above } (.ofNat nnn) #[] := by
  have room : m.stack.depth < 16 := by
    rw [CallStack.length_entries] at h
    exact Nat.lt_of_le_of_ne m.stack.depth_le h
  obtain ⟨above, push, entries⟩ := CallStack.push_of_lt m.stack (pc + 2) room
  refine ⟨above, entries, ?_⟩
  simp only [execute, push]

def block (m : Machine) (length : Nat) : List UInt8 :=
  (m.memory.bytes.toList.drop m.registers.i.toNat).take length

theorem execute_draw {n : Fin 16} (h : n.val = 0 ∨ m.registers.i.toNat + n.val ≤ Memory.size)
    (x y : Register) (pc : Int) :
    m.execute (.draw x y n) pc =
      let drawn := m.screen.draw (m.registers.value x).toNat (m.registers.value y).toNat (m.block n)
      { m with screen := drawn.2 }.continueWith (m.registers.raise drawn.1) pc := by
  have read := Memory.readBlock_natCast m.memory m.registers.i.toNat n.val
  rw [if_pos h] at read
  simp only [execute, read]
  rfl

theorem execute_storeDecimal (h : m.registers.i.toNat + 3 ≤ Memory.size) (x : Register)
    (pc : Int) :
    m.execute (.storeDecimal x) pc =
      .done { m with memory := { m.memory with
        bytes := Memory.overlay m.memory.bytes m.registers.i.toNat
          (decimalDigits (m.registers.value x)) } } (following pc false) #[] := by
  have length : (decimalDigits (m.registers.value x)).length = 3 := rfl
  have write := Memory.writeBlock_natCast m.memory m.registers.i.toNat
    (decimalDigits (m.registers.value x)) (List.cons_ne_nil _ _)
  rw [length, if_pos h] at write
  simp only [execute, write]

theorem execute_storeRegisters (h : m.registers.i.toNat + 16 ≤ Memory.size) (x : Register)
    (pc : Int) :
    m.execute (.storeRegisters x) pc =
      { m with memory := { m.memory with
        bytes := Memory.overlay m.memory.bytes m.registers.i.toNat m.registers.v.toList }
        }.continueWith { m.registers with i := m.registers.i + 16 } pc := by
  have write := Memory.writeBlock_natCast m.memory m.registers.i.toNat m.registers.v.toList
    (by simp)
  rw [Vector.length_toList, if_pos h] at write
  simp only [execute, write]

theorem execute_loadRegisters (h : m.registers.i.toNat + 16 ≤ Memory.size) (x : Register)
    (pc : Int) :
    m.execute (.loadRegisters x) pc =
      m.continueWith { m.registers with
        v := Vector.ofFn fun k => (m.block 16).getD k 0, i := m.registers.i + 16 } pc := by
  have read := Memory.readBlock_natCast m.memory m.registers.i.toNat 16
  rw [if_pos (Or.inr h), Int.cast_ofNat_Int] at read
  simp only [execute, read]
  rfl

/-! ## Waiting for a key -/

def asked (m : Machine) (source : KeySource) : Machine :=
  { m with keySource := some source.next.2, keypad := (m.keypad.setAll source.next.1).2 }

inductive WaitEnds (m : Machine) (x : Register) (pc : Int) : Prop where
  | down (key : Key) (first : m.keypad.first? = some key)
      (ends : m.awaitKey x pc = m.storeKey x pc key)
  | alone (up : m.keypad.first? = none) (alone : m.keySource = none)
      (ends : m.awaitKey x pc = .done m (UInt16.ofInt pc) #[.awaitingKey])
  | refused (source : KeySource) (up : m.keypad.first? = none) (asks : m.keySource = some source)
      (count : source.next.1.length ≠ 16)
      (ends : m.awaitKey x pc = .stopped (m.asked source)
        (.invalid (.keyCount source.next.1.length)) #[])
  | given (source : KeySource) (key : Key) (up : m.keypad.first? = none)
      (asks : m.keySource = some source) (count : source.next.1.length = 16)
      (first : (m.asked source).keypad.first? = some key)
      (ends : m.awaitKey x pc = (m.asked source).storeKey x pc key)
  | vain (source : KeySource) (up : m.keypad.first? = none) (asks : m.keySource = some source)
      (count : source.next.1.length = 16) (first : (m.asked source).keypad.first? = none)
      (ends : m.awaitKey x pc = .done (m.asked source) (UInt16.ofInt pc) #[.noKeyGiven])

theorem waitEnds (m : Machine) (x : Register) (pc : Int) : WaitEnds m x pc := by
  cases up : m.keypad.first? with
  | some key => exact .down key up (by simp only [awaitKey, up])
  | none =>
    cases asks : m.keySource with
    | none => exact .alone up asks (by simp only [awaitKey, up, asks])
    | some source =>
      by_cases count : source.next.1.length = 16
      · have answer : (m.keypad.setAll source.next.1).1 = .ok () := by
          rw [Keypad.setAll, dif_pos count]
        cases first : (m.asked source).keypad.first? with
        | some key =>
          refine .given source key up asks count first ?_
          simp only [asked] at first
          simp only [awaitKey, up, asks, answer, first, asked]
        | none =>
          refine .vain source up asks count first ?_
          simp only [asked] at first
          simp only [awaitKey, up, asks, answer, first, asked]
      · refine .refused source up asks count ?_
        simp only [awaitKey, up, asks, Keypad.setAll, dif_neg count, asked]

/-! ## Instructions that are refused -/

def blockError (m : Machine) (length : Nat) : Error :=
  .fault (.outOfRange (Memory.strayAddress m.registers.i.toNat length))

inductive Refuses (m : Machine) : Instruction → Error → Prop where
  | ret (empty : m.stack.entries = []) : Refuses m .ret (.fault .returnFromEmpty)
  | call {nnn : Fin 4096} (full : m.stack.entries.length = 16) :
      Refuses m (.call nnn) (.fault (.stackFull 16))
  | draw {x y : Register} {n : Fin 16} (rows : 1 ≤ n.val)
      (beyond : Memory.size < m.registers.i.toNat + n.val) :
      Refuses m (.draw x y n) (m.blockError n.val)
  | storeDecimal {x : Register} (beyond : Memory.size < m.registers.i.toNat + 3) :
      Refuses m (.storeDecimal x) (m.blockError 3)
  | storeRegisters {x : Register} (beyond : Memory.size < m.registers.i.toNat + 16) :
      Refuses m (.storeRegisters x) (m.blockError 16)
  | loadRegisters {x : Register} (beyond : Memory.size < m.registers.i.toNat + 16) :
      Refuses m (.loadRegisters x) (m.blockError 16)
  -- The key source answers with a vector that has not one state for each key.
  | awaitKey {x : Register} {source : KeySource} (up : ∀ key, m.keypad.isDown key = false)
      (asks : m.keySource = some source) (count : source.next.1.length ≠ 16) :
      Refuses m (.awaitKey x) (.invalid (.keyCount source.next.1.length))

def sourceAfter (m : Machine) : Error → Option KeySource
  | .fault _ => m.keySource
  | _ => m.keySource.map fun source => source.next.2

theorem Refuses.of_same {after : Machine} {ins : Instruction} {e : Error} (h : m.Refuses ins e)
    (stack : after.stack = m.stack) (index : after.registers.i = m.registers.i)
    (keypad : after.keypad = m.keypad) (keySource : after.keySource = m.keySource) :
    after.Refuses ins e := by
  have block (length : Nat) : m.blockError length = after.blockError length := by
    rw [blockError, blockError, index]
  cases h with
  | ret empty => exact .ret (stack ▸ empty)
  | call full => exact .call (stack ▸ full)
  | draw rows beyond => exact block _ ▸ .draw rows (index ▸ beyond)
  | storeDecimal beyond => exact block _ ▸ .storeDecimal (index ▸ beyond)
  | storeRegisters beyond => exact block _ ▸ .storeRegisters (index ▸ beyond)
  | loadRegisters beyond => exact block _ ▸ .loadRegisters (index ▸ beyond)
  | awaitKey up asks count =>
    exact .awaitKey (fun key => keypad ▸ up key) (keySource.trans asks) count

theorem execute_of_refuses {ins : Instruction} {e : Error} (h : m.Refuses ins e) (pc : Int) :
    m.execute ins pc = .stopped { m with keySource := m.sourceAfter e } e #[] := by
  cases h with
  | ret empty =>
    simp only [execute, CallStack.pop_of_entries_eq_nil _ empty]
    rfl
  | call full =>
    rw [CallStack.length_entries] at full
    simp only [execute, CallStack.push_of_full _ _ full]
    rfl
  | @draw x y n rows beyond =>
    have read := Memory.readBlock_natCast m.memory m.registers.i.toNat n.val
    rw [if_neg (by omega)] at read
    simp only [execute, read]
    rfl
  | @storeDecimal x beyond =>
    have length : (decimalDigits (m.registers.value x)).length = 3 := rfl
    have write := Memory.writeBlock_natCast m.memory m.registers.i.toNat
      (decimalDigits (m.registers.value x)) (List.cons_ne_nil _ _)
    rw [length, if_neg (by omega)] at write
    simp only [execute, write]
    rfl
  | storeRegisters beyond =>
    have write := Memory.writeBlock_natCast m.memory m.registers.i.toNat m.registers.v.toList
      (by simp)
    rw [Vector.length_toList, if_neg (by omega)] at write
    simp only [execute, write]
    rfl
  | loadRegisters beyond =>
    have read := Memory.readBlock_natCast m.memory m.registers.i.toNat 16
    rw [if_neg (by omega), Int.cast_ofNat_Int] at read
    simp only [execute, read]
    rfl
  | awaitKey up asks count =>
    have first := (Keypad.first?_eq_none_iff m.keypad).2 up
    simp only [execute, awaitKey, first, asks, Keypad.setAll, dif_neg count, sourceAfter,
      Option.map_some]

private theorem refuses_of_awaitKey {x : Register} {pc : Int} {e : Error}
    (h : (m.execute (.awaitKey x) pc).answer = .error e) : m.Refuses (.awaitKey x) e := by
  have ended : (m.awaitKey x pc).answer = .error e := h
  cases m.waitEnds x pc with
  | refused source up asks count ends =>
    rw [ends] at ended
    cases ended
    exact .awaitKey ((Keypad.first?_eq_none_iff m.keypad).1 up) asks count
  | _ =>
    rename_i ends
    rw [ends] at ended
    cases ended

theorem refuses_of_execute {ins : Instruction} {pc : Int} {e : Error}
    (h : (m.execute ins pc).answer = .error e) : m.Refuses ins e := by
  -- An instruction that can be refused is refused now, or goes through and contradicts `h`.
  have refused {e' : Error} (r : m.Refuses ins e') : m.Refuses ins e := by
    rw [execute_of_refuses r] at h
    cases h
    exact r
  cases ins
  case ret =>
    by_cases empty : m.stack.entries = []
    · exact refused (.ret empty)
    · obtain ⟨address, below, -, through⟩ := execute_ret empty pc
      rw [through] at h
      cases h
  case call nnn =>
    by_cases full : m.stack.entries.length = 16
    · exact refused (.call full)
    · obtain ⟨above, -, through⟩ := execute_call full nnn pc
      rw [through] at h
      cases h
  case draw x y n =>
    by_cases fits : n.val = 0 ∨ m.registers.i.toNat + n.val ≤ Memory.size
    · rw [execute_draw fits] at h
      cases h
    · exact refused (.draw (by omega) (by omega))
  case storeDecimal x =>
    by_cases fits : m.registers.i.toNat + 3 ≤ Memory.size
    · rw [execute_storeDecimal fits] at h
      cases h
    · exact refused (.storeDecimal (Nat.lt_of_not_le fits))
  case storeRegisters x =>
    by_cases fits : m.registers.i.toNat + 16 ≤ Memory.size
    · rw [execute_storeRegisters fits] at h
      cases h
    · exact refused (.storeRegisters (Nat.lt_of_not_le fits))
  case loadRegisters x =>
    by_cases fits : m.registers.i.toNat + 16 ≤ Memory.size
    · rw [execute_loadRegisters fits] at h
      cases h
    · exact refused (.loadRegisters (Nat.lt_of_not_le fits))
  case awaitKey x => exact refuses_of_awaitKey h
  all_goals cases h

end Machine
end Chip8
