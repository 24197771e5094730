import Chip8.Proofs.Machine.Faults
import Chip8.Proofs.Outcome.Iteration

namespace Chip8

theorem Machine.sourceAfter_locate (m : Machine) (e : Error) (pc opcode : Option Int) :
    m.sourceAfter (e.locate pc opcode) = m.sourceAfter e := by
  cases e <;> rfl

namespace Machine

variable {m : Machine} {e : Error}

/-- What a cycle that is stopped by `e` leaves of a machine. -/
def stalled (m : Machine) (e : Error) : Machine :=
  { m with
    registers := { m.registers with opcode := m.fetched?.getD m.registers.opcode }
    keySource := m.sourceAfter e }

theorem cycle_state_of_error (h : m.cycle.answer = .error e) :
    m.cycle.state = m.stalled e ∧ m.cycle.beeps = [] := by
  unfold stalled
  rcases cycle_cases m with fetched | ⟨word, e', fetched, refused⟩ | ⟨word, next, fetched, done⟩
  · rw [cycle_of_not_fetched fetched] at h ⊢
    cases h
    rw [fetched]
    exact ⟨rfl, rfl⟩
  · rw [cycle_of_refuses fetched refused] at h ⊢
    cases h
    rw [fetched, sourceAfter_locate]
    exact ⟨rfl, rfl⟩
  · rw [cycle_of_attempt fetched done] at h
    exact absurd (h.symm.trans (complete_eq _ next).1) nofun

theorem cycle_induction {P : Machine → Prop} (stopped : ∀ e, P (m.stalled e))
    (completed : ∀ word pc timers cycles, m.Completes word →
      P { (m.attempt word).state with
        registers := { (m.attempt word).state.registers with pc }, timers, cycles }) :
    P m.cycle.state := by
  cases answer : m.cycle.answer with
  | error e =>
    rw [(cycle_state_of_error answer).1]
    exact stopped e
  | ok =>
    obtain ⟨word, completes⟩ := exists_completes answer
    obtain ⟨next, -, state⟩ := cycle_of_completes completes
    rw [state]
    exact completed word next _ _ completes

theorem stalled_stalled (m : Machine) (f : Fault) :
    (m.stalled (.fault f)).stalled (.fault f) = m.stalled (.fault f) := by
  have word : (m.stalled (.fault f)).fetched?.getD (m.stalled (.fault f)).registers.opcode =
      (m.stalled (.fault f)).registers.opcode := by
    show m.fetched?.getD (m.fetched?.getD m.registers.opcode) = m.fetched?.getD m.registers.opcode
    cases m.fetched? <;> rfl
  rw [stalled, word]
  rfl

theorem cycleError_stalled {f : Fault} (h : m.CycleError (.fault f)) :
    (m.stalled (.fault f)).CycleError (.fault f) := by
  generalize fault : Error.fault f = e at h ⊢
  have source : (m.stalled e).keySource = m.keySource := by
    rw [← fault]
    rfl
  cases h with
  | fetch beyond => exact .fetch beyond
  | execute fetched fits refused =>
    exact .execute fetched fits (refused.of_same rfl rfl rfl source)

theorem cycle_stalled {f : Fault} (h : m.cycle.answer = .error (.fault f)) :
    (m.stalled (.fault f)).cycle.answer = .error (.fault f) ∧
      (m.stalled (.fault f)).cycle.state = m.stalled (.fault f) := by
  have again := cycle_answer_eq_error_iff.2 (cycleError_stalled (cycle_answer_eq_error_iff.1 h))
  exact ⟨again, (cycle_state_of_error again).1.trans (stalled_stalled m f)⟩

end Machine

end Chip8
