import Chip8.Proofs.Machine.Course

namespace Chip8.Machine

variable {m : Machine} {word : UInt16} {e : Error}

inductive CycleError (m : Machine) : Error → Prop where
  | fetch (beyond : 4095 ≤ m.registers.pc.toNat) :
      CycleError m (.fault (fetchFault m.registers.pc))
  | execute {word : UInt16} {ins : Instruction} {e : Error} (fetched : m.fetched? = some word)
      (fits : ins.Fits word) (refused : m.Refuses ins e) :
      CycleError m (e.locate (some m.registers.pc.toNat) (some word.toNat))

theorem known_of_refuses {ins : Instruction} (h : m.Refuses ins e) (w : UInt16) :
    ins ≠ .unknown w := by
  rintro rfl
  cases h

theorem cycle_answer_eq_error_iff : m.cycle.answer = .error e ↔ m.CycleError e := by
  constructor
  · intro h
    rcases cycle_cases m with fetched | ⟨word, e', fetched, refused⟩ | ⟨word, next, fetched, done⟩
    · rw [cycle_of_not_fetched fetched] at h
      cases h
      exact .fetch (fetched?_eq_none_iff.1 fetched)
    · rw [cycle_of_refuses fetched refused] at h
      cases h
      have fits := (Instruction.ofWord_eq_iff (known_of_refuses refused)).1 rfl
      exact .execute fetched fits refused
    · rw [cycle_of_attempt fetched done] at h
      exact absurd (h.symm.trans (complete_eq _ next).1) nofun
  · intro h
    cases h with
    | fetch beyond => rw [cycle_of_not_fetched (fetched?_eq_none_iff.2 beyond)]; rfl
    | execute fetched fits refused =>
      rw [← Instruction.ofWord_of_fits fits] at refused
      rw [cycle_of_refuses fetched refused]
      rfl

theorem unplaced_of_refuses {ins : Instruction} {f : Fault} (h : m.Refuses ins (.fault f)) :
    f.pc = none := by
  generalize fault : Error.fault f = e at h
  cases h <;> cases fault <;> rfl

theorem placed_of_cycleError {f : Fault} (h : m.CycleError (.fault f)) :
    f.pc = some (m.registers.pc.toNat : Int) ∧
      f.opcode = m.fetched?.map fun word => (word.toNat : Int) := by
  generalize fault : Error.fault f = e at h
  cases h with
  | fetch beyond =>
    cases fault
    rw [fetched?_eq_none_iff.2 beyond]
    exact ⟨rfl, rfl⟩
  | @execute word ins e fetched fits refused =>
    cases e with
    | fault unplaced =>
      cases fault
      simp [Fault.locate, unplaced_of_refuses refused, fetched]
    | _ => cases fault

theorem cycle_fault_set (m : Machine) :
    (∀ e, m.cycle.answer = .error e ↔ m.CycleError e) ∧
    (∀ f, m.cycle.answer = .error (.fault f) →
      f.pc = some (m.registers.pc.toNat : Int) ∧
        f.opcode = m.fetched?.map fun word => (word.toNat : Int)) :=
  ⟨fun _ => cycle_answer_eq_error_iff,
    fun _ h => placed_of_cycleError (cycle_answer_eq_error_iff.1 h)⟩

theorem cycle_fault_set_storeRegisters :
    let m := (loaded [0xAF, 0xF1, 0xF0, 0x55]).cycle.state
    let fault := (Fault.outOfRange 4096).locate (some 0x202) (some 0xF055)
    m.cycle.answer = .error (.fault fault) ∧ m.CycleError (.fault fault) ∧
      fault.pc = some (m.registers.pc.toNat : Int) ∧
      fault.opcode = m.fetched?.map fun word => (word.toNat : Int) := by
  intro m fault
  have answer : m.cycle.answer = .error (.fault fault) := by decide +kernel
  exact ⟨answer, ((cycle_fault_set m).1 _).1 answer, (cycle_fault_set m).2 fault answer⟩

end Chip8.Machine
