import Chip8.Proofs.Instruction.Patterns
import Chip8.Proofs.Machine.Footprint

namespace Chip8

namespace Memory

variable {m : Memory} {bytes : Vector UInt8 size} {data : List UInt8} {start k : Nat}

theorem get_overlay_of_inside (inside : k < data.length) (fits : start + k < size) :
    (overlay bytes start data).get ⟨start + k, fits⟩ = data[k] := by
  rw [get_overlay, if_pos (Nat.le_add_right start k), Nat.add_sub_cancel_left,
    List.getElem?_eq_getElem inside, Option.getD_some]

theorem read_overlay (inside : k < data.length) (fits : start + data.length ≤ size) :
    ({ m with bytes := overlay bytes start data } : Memory).read ((start + k : Nat) : Int) =
      .ok data[k] := by
  have last : start + k < size := by omega
  rw [read_natCast _ last, get_overlay_of_inside inside last]

theorem overlay_eq_self
    (held : ∀ k (inside : k < data.length) (fits : start + k < size),
      bytes.get ⟨start + k, fits⟩ = data[k]) :
    overlay bytes start data = bytes := by
  apply Vector.ext
  intro a below
  show (overlay bytes start data).get ⟨a, below⟩ = bytes.get ⟨a, below⟩
  by_cases covered : start ≤ a ∧ a < start + data.length
  · obtain ⟨k, rfl⟩ := Nat.exists_eq_add_of_le covered.1
    have inside : k < data.length := by omega
    rw [get_overlay_of_inside inside below, held k inside below]
  · exact get_overlay_of_outside covered

end Memory

namespace Machine

variable {m : Machine}

theorem getD_block {n k : Nat} (inside : k < n) (below : m.registers.i.toNat + k < Memory.size) :
    (m.block n).getD k 0 = m.memory.bytes.get ⟨m.registers.i.toNat + k, below⟩ := by
  have stored : m.registers.i.toNat + k < m.memory.bytes.toList.length := by
    rwa [Vector.length_toList]
  rw [block, List.getD_eq_getElem?_getD, List.getElem?_take_of_lt inside, List.getElem?_drop,
    List.getElem?_eq_getElem stored, Option.getD_some, Vector.getElem_toList]
  rfl

/-! ## Storing and loading registers -/

/-- Where the byte of a register is stored. -/
def slot (m : Machine) (k : Register) : Nat := m.registers.i.toNat + k.val

theorem slot_lt (fits : m.registers.i.toNat + 16 ≤ 4096) (k : Register) : m.slot k < Memory.size :=
  Nat.lt_of_lt_of_le (Nat.add_lt_add_left k.isLt _) fits

theorem toNat_i_add_sixteen (fits : m.registers.i.toNat + 16 ≤ 4096) :
    (m.registers.i + 16).toNat = m.registers.i.toNat + 16 := by
  have added : (m.registers.i + 16).toNat = (m.registers.i.toNat + 16) % 65536 :=
    UInt16.toNat_add _ _
  omega

theorem read_stored (fits : m.registers.i.toNat + 16 ≤ 4096) (x k : Register) (pc : Int) :
    (m.execute (.storeRegisters x) pc).state.memory.read (m.slot k) =
      .ok (m.registers.value k) := by
  have inside : k.val < m.registers.v.toList.length :=
    Nat.lt_of_lt_of_eq k.isLt Vector.length_toList.symm
  have room : m.registers.i.toNat + m.registers.v.toList.length ≤ Memory.size := by
    rwa [Vector.length_toList]
  rw [execute_storeRegisters fits]
  refine (Memory.read_overlay (m := m.memory) inside room).trans ?_
  rw [Vector.getElem_toList]
  rfl

theorem value_loaded (fits : m.registers.i.toNat + 16 ≤ 4096) (x k : Register) (pc : Int) :
    m.memory.read (m.slot k) =
      .ok ((m.execute (.loadRegisters x) pc).state.registers.value k) := by
  let bytes : Register → UInt8 := fun k => (m.block 16).getD k 0
  have byte : (m.block 16).getD k 0 = m.memory.bytes.get ⟨m.slot k, slot_lt fits k⟩ :=
    getD_block k.isLt (slot_lt fits k)
  have value : (Vector.ofFn bytes)[k.val] = (m.block 16).getD k 0 := Vector.getElem_ofFn k.isLt
  rw [Memory.read_natCast _ (slot_lt fits k), execute_loadRegisters fits]
  exact congrArg Except.ok (value.trans byte).symm

theorem memory_stored (fits : m.registers.i.toNat + 16 ≤ 4096)
    (held : ∀ k, m.memory.read (m.slot k) = .ok (m.registers.value k)) (x : Register) (pc : Int) :
    (m.execute (.storeRegisters x) pc).state.memory = m.memory := by
  have same : Memory.overlay m.memory.bytes m.registers.i.toNat m.registers.v.toList =
      m.memory.bytes := by
    apply Memory.overlay_eq_self
    intro k inside below
    have byte := held ⟨k, Nat.lt_of_lt_of_eq inside Vector.length_toList⟩
    rw [Vector.getElem_toList]
    exact Except.ok.inj ((Memory.read_natCast _ below).symm.trans byte)
  rw [execute_storeRegisters fits, same]
  rfl

/-! ## Decimal digits -/

theorem decimalDigits_spec (value : UInt8) :
    ∃ hundreds tens ones : UInt8, decimalDigits value = [hundreds, tens, ones] ∧
      hundreds.toNat ≤ 9 ∧ tens.toNat ≤ 9 ∧ ones.toNat ≤ 9 ∧
      100 * hundreds.toNat + 10 * tens.toNat + ones.toNat = value.toNat := by
  have bound := value.toNat_lt
  refine ⟨_, _, _, rfl, ?_⟩
  simp only [UInt8.toNat_div, UInt8.toNat_mod, UInt8.reduceToNat]
  omega

/-! ## There and back -/

/-- The instruction goes through, to the next word. -/
def GoesOn (o : Outcome Machine UInt16) (pc : Int) : Prop := o.answer = .ok (following pc false)

theorem value_loaded_of_stored (fits : m.registers.i.toNat + 16 ≤ 4096) {later : Machine}
    {x x' : Register} {pc : Int} (index : later.registers.i = m.registers.i)
    (kept : ∀ k, later.memory.read (m.slot k) =
      (m.execute (.storeRegisters x) pc).state.memory.read (m.slot k)) (k : Register) (pc' : Int) :
    (later.execute (.loadRegisters x') pc').state.registers.value k = m.registers.value k := by
  have slot : later.slot k = m.slot k := by rw [slot, slot, index]
  have loaded := value_loaded (index ▸ fits) x' k pc'
  rw [slot, kept, read_stored fits] at loaded
  exact (Except.ok.inj loaded).symm

theorem memory_stored_of_loaded (fits : m.registers.i.toNat + 16 ≤ 4096) {later : Machine}
    {x x' : Register} {pc : Int} (index : later.registers.i = m.registers.i)
    (kept : ∀ k, later.registers.value k =
      (m.execute (.loadRegisters x) pc).state.registers.value k)
    (memory : later.memory = m.memory) (pc' : Int) :
    (later.execute (.storeRegisters x') pc').state.memory = m.memory := by
  refine (memory_stored (index ▸ fits) (fun k => ?_) x' pc').trans memory
  have slot : later.slot k = m.slot k := by rw [slot, slot, index]
  rw [slot, memory, kept]
  exact value_loaded fits x k pc

theorem read_digits (fits : m.registers.i.toNat + 3 ≤ 4096) (x : Register) (pc : Int) {k : Nat}
    (inside : k < (decimalDigits (m.registers.value x)).length) :
    (m.execute (.storeDecimal x) pc).state.memory.read ((m.registers.i.toNat + k : Nat) : Int) =
      .ok (decimalDigits (m.registers.value x))[k] := by
  rw [execute_storeDecimal fits]
  exact Memory.read_overlay (m := m.memory) inside fits

theorem transfers_undo_each_other (m : Machine) (x : Register) (word : UInt16) (pc : Int) :
    (m.registers.i.toNat + 16 ≤ 4096 → (Instruction.storeRegisters x).Fits word →
      let stored := m.execute (.ofWord word) pc
      GoesOn stored pc ∧ stored.state.registers.i.toNat = m.registers.i.toNat + 16 ∧
      (∀ k, stored.state.memory.read (m.slot k) = .ok (m.registers.value k)) ∧
      ∀ (later : Machine) (x' : Register) (word' : UInt16) (pc' : Int),
        later.registers.i = m.registers.i →
        (∀ k, later.memory.read (m.slot k) = stored.state.memory.read (m.slot k)) →
        (Instruction.loadRegisters x').Fits word' →
        let loaded := later.execute (.ofWord word') pc'
        GoesOn loaded pc' ∧ loaded.state.registers.i.toNat = m.registers.i.toNat + 16 ∧
        ∀ k, loaded.state.registers.value k = m.registers.value k) ∧
    (m.registers.i.toNat + 16 ≤ 4096 → (Instruction.loadRegisters x).Fits word →
      let loaded := m.execute (.ofWord word) pc
      GoesOn loaded pc ∧
      ∀ (later : Machine) (x' : Register) (word' : UInt16) (pc' : Int),
        later.registers.i = m.registers.i →
        (∀ k, later.registers.value k = loaded.state.registers.value k) →
        later.memory = loaded.state.memory →
        (Instruction.storeRegisters x').Fits word' →
        let stored := later.execute (.ofWord word') pc'
        GoesOn stored pc' ∧ stored.state.memory = m.memory) ∧
    (m.registers.i.toNat + 3 ≤ 4096 → (Instruction.storeDecimal x).Fits word →
      let after := m.execute (.ofWord word) pc
      GoesOn after pc ∧ after.state.registers = m.registers ∧
      (∃ hundreds tens ones : UInt8,
        hundreds.toNat ≤ 9 ∧ tens.toNat ≤ 9 ∧ ones.toNat ≤ 9 ∧
        100 * hundreds.toNat + 10 * tens.toNat + ones.toNat = (m.registers.value x).toNat ∧
        after.state.memory.read m.registers.i.toNat = .ok hundreds ∧
        after.state.memory.read (m.registers.i.toNat + 1) = .ok tens ∧
        after.state.memory.read (m.registers.i.toNat + 2) = .ok ones) ∧
      ∀ a : Fin Memory.size,
        ¬ (m.registers.i.toNat ≤ a.val ∧ a.val < m.registers.i.toNat + 3) →
        after.state.memory.read a.val = m.memory.read a.val) := by
  refine ⟨?_, ?_, ?_⟩
  · intro fits pattern
    rw [Instruction.ofWord_of_fits pattern]
    have through := execute_storeRegisters fits x pc
    have moved (o : Outcome Machine UInt16)
        (h : o.state.registers.i = m.registers.i + 16) :
        o.state.registers.i.toNat = m.registers.i.toNat + 16 := by
      rw [h, toNat_i_add_sixteen fits]
    refine ⟨congrArg Outcome.answer through, moved _ (by rw [through]; rfl),
      fun k => read_stored fits x k pc, ?_⟩
    intro later x' word' pc' index kept pattern'
    rw [Instruction.ofWord_of_fits pattern']
    have loads := execute_loadRegisters (m := later) (index ▸ fits) x' pc'
    refine ⟨congrArg Outcome.answer loads, moved _ ?_,
      fun k => value_loaded_of_stored fits index kept k pc'⟩
    rw [loads, ← index]
    rfl
  · intro fits pattern
    rw [Instruction.ofWord_of_fits pattern]
    refine ⟨congrArg Outcome.answer (execute_loadRegisters fits x pc), ?_⟩
    intro later x' word' pc' index kept memory pattern'
    rw [Instruction.ofWord_of_fits pattern']
    have stores := execute_storeRegisters (m := later) (index ▸ fits) x' pc'
    have loads := (execute_frame m (.loadRegisters x) pc).memory rfl
    exact ⟨congrArg Outcome.answer stores,
      memory_stored_of_loaded fits index kept (memory.trans loads) pc'⟩
  · intro fits pattern
    rw [Instruction.ofWord_of_fits pattern]
    have through := execute_storeDecimal fits x pc
    obtain ⟨hundreds, tens, ones, digits, atMost, atMost', atMost'', value⟩ :=
      decimalDigits_spec (m.registers.value x)
    have read {k : Nat} (below : k < 3) : _ = Except.ok _ := read_digits fits x pc below
    refine ⟨congrArg Outcome.answer through, congrArg (fun o => o.state.registers) through, ?_, ?_⟩
    · refine ⟨hundreds, tens, ones, atMost, atMost', atMost'', value, ?_⟩
      simp only [digits] at read
      exact ⟨read (k := 0) (by decide), read (k := 1) (by decide), read (k := 2) (by decide)⟩
    · intro a outside
      rw [Memory.read_natCast _ a.isLt, Memory.read_natCast _ a.isLt]
      exact congrArg Except.ok (bytes_execute outside pc)

theorem transfers_undo_each_other_top :
    let v : Vector UInt8 16 := #v[0, 1, 2, 3, 4, 5, 6, 7, 8, 9, 10, 11, 12, 13, 14, 254]
    let pointing (i : UInt16) : Machine := { Machine.initial (.stream (fun _ => 0) 0) with
      registers := { Registers.initial with v, i } }
    let high := pointing 4080
    let stored := (high.execute (.ofWord 0xF355) 0x200).state
    let cleared : Machine := { stored with registers := { Registers.initial with i := 4080 } }
    let loaded := (high.execute (.ofWord 0xFC65) 0x200).state
    let back : Machine := { loaded with registers := { loaded.registers with i := 4080 } }
    let last := pointing 4093
    let digits := (last.execute (.ofWord 0xFF33) 0x200).state
    high.registers.i.toNat + 16 ≤ 4096 ∧ (Instruction.storeRegisters 3).Fits 0xF355 ∧
      (Instruction.loadRegisters 12).Fits 0xFC65 ∧
      high.slot 15 = 4095 ∧ stored.memory.read (high.slot 15) = .ok 254 ∧
      cleared.registers.value 15 = 0 ∧
      (cleared.execute (.ofWord 0xFC65) 0x202).state.registers.value 15 = 254 ∧
      (back.execute (.ofWord 0xF355) 0x202).state.memory = high.memory ∧
      last.registers.i.toNat + 3 ≤ 4096 ∧ (Instruction.storeDecimal 15).Fits 0xFF33 ∧
      ∃ hundreds tens ones : UInt8, ones.toNat ≤ 9 ∧
        100 * hundreds.toNat + 10 * tens.toNat + ones.toNat = 254 ∧
        digits.memory.read (last.registers.i.toNat + 2) = .ok ones := by
  intro v pointing high stored cleared loaded back last digits
  have store : (Instruction.storeRegisters 3).Fits 0xF355 := ⟨rfl, rfl, rfl⟩
  have load : (Instruction.loadRegisters 12).Fits 0xFC65 := ⟨rfl, rfl, rfl⟩
  have decimal : (Instruction.storeDecimal 15).Fits 0xFF33 := ⟨rfl, rfl, rfl⟩
  have room : high.registers.i.toNat + 16 ≤ 4096 := by decide
  have room' : last.registers.i.toNat + 3 ≤ 4096 := by decide
  obtain ⟨storing, -⟩ := transfers_undo_each_other high 3 0xF355 0x200
  obtain ⟨-, loading, -⟩ := transfers_undo_each_other high 12 0xFC65 0x200
  obtain ⟨-, -, writing⟩ := transfers_undo_each_other last 15 0xFF33 0x200
  obtain ⟨-, -, bytes, again⟩ := storing room store
  obtain ⟨-, -, values⟩ := again cleared 12 0xFC65 0x202 rfl (fun _ => rfl) load
  obtain ⟨-, stores⟩ := loading room load
  obtain ⟨-, unchanged⟩ := stores back 3 0xF355 0x202 rfl (fun _ => rfl) rfl store
  obtain ⟨-, -, ⟨hundreds, tens, ones, -, -, atMost, value, -, -, read⟩, -⟩ :=
    writing room' decimal
  exact ⟨room, store, load, rfl, bytes 15, rfl, values 15, unchanged, room', decimal, hundreds,
    tens, ones, atMost, value, read⟩

end Machine
end Chip8
