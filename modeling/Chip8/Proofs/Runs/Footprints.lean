import Chip8.Proofs.Emulator.Run
import Chip8.Proofs.Machine.Footprint

namespace Chip8

namespace Machine

variable {m : Machine} {word : UInt16}

def Stores (m : Machine) : Prop :=
  ∃ word x, m.Completes word ∧
    ((Instruction.storeDecimal x).Fits word ∨ (Instruction.storeRegisters x).Fits word)

theorem not_stores_of_family (fetched : m.fetched? = some word)
    (h : (WordFields.ofWord word).family.val ≠ 0xF) : ¬ m.Stores := by
  rintro ⟨word', x, completes, fits⟩
  cases fetched.symm.trans completes.2
  rcases fits with fits | fits
  · exact h fits.1
  · exact h fits.1

theorem stores_ofWord_eq_false (h : ¬ m.Stores) (completes : m.Completes word) :
    (Instruction.ofWord word).stores = false := by
  cases decoded : Instruction.ofWord word with
  | storeDecimal x =>
    have known (w : UInt16) : Instruction.storeDecimal x ≠ .unknown w := nofun
    have fits := (Instruction.ofWord_eq_iff known).1 decoded
    exact absurd ⟨word, x, completes, Or.inl fits⟩ h
  | storeRegisters x =>
    have known (w : UInt16) : Instruction.storeRegisters x ≠ .unknown w := nofun
    have fits := (Instruction.ofWord_eq_iff known).1 decoded
    exact absurd ⟨word, x, completes, Or.inr fits⟩ h
  | _ => rfl

theorem memory_cycle (h : ¬ m.Stores) : m.cycle.state.memory = m.memory := by
  refine cycle_induction (P := fun after => after.memory = m.memory) (fun _ => rfl) ?_
  intro word pc timers cycles completes
  exact (attempt_frame m word).memory (stores_ofWord_eq_false h completes)

theorem execute_of_not_fits (h : ∀ ins : Instruction, ¬ ins.Fits word) (pc : Int) :
    (m.execute (.ofWord word) pc).answer = .ok (UInt16.ofInt (pc + 2)) ∧
      (m.execute (.ofWord word) pc).state = m := by
  obtain ⟨w, unknown⟩ := Instruction.not_fits_iff.1 h
  rw [unknown]
  exact ⟨rfl, rfl⟩

end Machine

theorem Emulator.memory_cycle {emulator : Emulator} (h : ¬ emulator.machine.Stores) :
    emulator.cycle.state.machine.memory = emulator.machine.memory := by
  obtain ⟨timers, eq⟩ := emulator.machine_cycle_eq
  rw [eq]
  exact Machine.memory_cycle h

theorem execution_keeps_to_footprints :
    (∀ (m : Machine) (ins : Instruction) (word : UInt16) (pc : Int), ins.Fits word →
      Machine.Footprint ins m (m.execute (.decode word.toNat) pc).state) ∧
    (∀ (m : Machine) (word : UInt16) (pc : Int), (∀ ins : Instruction, ¬ ins.Fits word) →
      ∃ next, (m.execute (.decode word.toNat) pc).answer = .ok next ∧
        (next.toNat : Int) = (pc + 2) % 65536 ∧
        (m.execute (.decode word.toNat) pc).state = m) ∧
    (∀ (m : Machine) (n : Nat), (∀ k < n, (m.run k).answer = .ok () → ¬ (m.run k).state.Stores) →
      (m.run n).state.memory = m.memory) ∧
    (∀ (emulator : Emulator) (n : Nat),
      (∀ k < n, (emulator.run k).answer = .ok () → ¬ (emulator.run k).state.machine.Stores) →
      (emulator.run n).state.machine.memory = emulator.machine.memory) := by
  refine ⟨?_, ?_, ?_, ?_⟩
  · intro m ins word pc fits
    rw [Instruction.decode_toNat, Instruction.ofWord_of_fits fits]
    exact m.execute_footprint ins pc
  · intro m word pc unknown
    rw [Instruction.decode_toNat]
    obtain ⟨answer, state⟩ := m.execute_of_not_fits unknown pc
    exact ⟨_, answer, toNat_ofInt _, state⟩
  · intro m n quiet
    exact Outcome.iterate_keeps (o := .done m () #[]) (fun _ => Machine.memory_cycle) quiet
  · intro emulator n quiet
    simp only [Emulator.run_natCast] at quiet ⊢
    exact Outcome.iterate_keeps (f := fun e : Emulator => e.machine.memory)
      (o := .done emulator () #[]) (fun _ => Emulator.memory_cycle) quiet

theorem execution_keeps_to_footprints_decimal :
    let m := Machine.loaded [0xA3, 0x00, 0x60, 0xFE, 0xF0, 0x33]
    let emulator : Emulator := { config := {}, machine := m, clock := .still 0, pace := ⟨1, none⟩ }
    let before := (m.run 2).state
    let after := (before.execute (.decode (0xF033 : UInt16).toNat) 0x204).state
    Machine.Footprint (.storeDecimal 0) before after ∧
      after.memory.bytes.get 0x302 = 4 ∧
      after.memory.bytes.get 0x303 = before.memory.bytes.get 0x303 ∧
      (∃ next, (m.execute (.decode (0x00E1 : UInt16).toNat) 0xFFFF).answer = .ok next ∧
        (next.toNat : Int) = 1) ∧
      before.memory = m.memory ∧ (emulator.run 2).state.machine.memory = m.memory := by
  intro m emulator before after
  obtain ⟨single, unknown, run, emulated⟩ := execution_keeps_to_footprints
  have footprint := single before (.storeDecimal 0) 0xF033 0x204 ⟨rfl, rfl, rfl⟩
  have outside : ¬ (before.registers.i.toNat ≤ 0x303 ∧ 0x303 < before.registers.i.toNat + 3) := by
    decide +kernel
  have none := Instruction.not_fits_iff.2 ⟨0x00E1, show Instruction.ofWord 0x00E1 = _ from rfl⟩
  have loads {k : Nat} (below : k < 2) :
      ∃ word, (m.run k).state.fetched? = some word ∧
        (emulator.run k).state.machine.fetched? = some word ∧
        (WordFields.ofWord word).family.val ≠ 0xF := by
    rcases show k = 0 ∨ k = 1 by omega with rfl | rfl
    · exact ⟨0xA300, by decide +kernel⟩
    · exact ⟨0x60FE, by decide +kernel⟩
  have still : before.memory = m.memory := by
    apply run m 2
    intro k below _
    obtain ⟨word, fetched, -, family⟩ := loads below
    exact Machine.not_stores_of_family fetched family
  have alike : (emulator.run 2).state.machine.memory = m.memory := by
    apply emulated emulator 2
    intro k below _
    obtain ⟨word, -, fetched, family⟩ := loads below
    exact Machine.not_stores_of_family fetched family
  obtain ⟨next, answer, value, -⟩ := unknown m 0x00E1 0xFFFF none
  exact ⟨footprint, by decide +kernel, footprint.bytes 0x303 outside, ⟨next, answer, value⟩,
    still, alike⟩

end Chip8
