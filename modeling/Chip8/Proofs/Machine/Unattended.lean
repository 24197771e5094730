import Chip8.Proofs.Machine.Atomicity
import Chip8.Proofs.Text.Plain

namespace Chip8.Machine

variable {m : Machine} {e : Error} {k n : Nat}

theorem fault_of_refuses {ins : Instruction} (alone : m.keySource = none) (h : m.Refuses ins e) :
    ∃ f, e = .fault f ∧ Plain.IsPlain f.message := by
  cases h with
  | ret => exact ⟨_, rfl, by decide⟩
  | call => exact ⟨_, rfl, by decide⟩
  | awaitKey _ asks => cases alone.symm.trans asks
  | _ => exact ⟨_, rfl, Fault.isPlain_outOfRange _⟩

theorem fault_of_cycle_error (alone : m.keySource = none) (h : m.cycle.answer = .error e) :
    ∃ f, e = .fault f ∧ Plain.IsPlain f.text := by
  cases cycle_answer_eq_error_iff.1 h with
  | fetch =>
    refine ⟨_, rfl, Fault.isPlain_text ?_⟩
    rw [fetchFault, Fault.message_locate]
    exact Fault.isPlain_outOfRange _
  | execute fetched fits refused =>
    obtain ⟨f, rfl, plain⟩ := fault_of_refuses alone refused
    refine ⟨_, rfl, Fault.isPlain_text ?_⟩
    rwa [Fault.message_locate]

def Latched (m : Machine) (pad : Keypad) : Prop := m.keySource = none ∧ m.keypad = pad

theorem Latched.execute {pad : Keypad} (h : m.Latched pad) (ins : Instruction) (pc : Int) :
    (m.execute ins pc).state.Latched pad := by
  by_cases waits : ∃ x, ins = .awaitKey x
  · obtain ⟨x, rfl⟩ := waits
    show (m.awaitKey x pc).state.Latched pad
    cases m.waitEnds x pc with
    | down key first ends => rw [ends]; exact h
    | alone up alone ends => rw [ends]; exact h
    | refused _ _ asks => cases h.1.symm.trans asks
    | given _ _ _ asks => cases h.1.symm.trans asks
    | vain _ _ asks => cases h.1.symm.trans asks
  · have kept := (execute_frame m ins pc).keys (Or.inl fun x same => waits ⟨x, same⟩)
    exact ⟨kept.2.trans h.1, kept.1.trans h.2⟩

theorem Latched.cycle {pad : Keypad} (h : m.Latched pad) : m.cycle.state.Latched pad := by
  refine cycle_induction (P := fun after => after.Latched pad) ?_ ?_
  · intro e
    refine ⟨?_, h.2⟩
    show m.sourceAfter e = none
    cases e <;> simp [sourceAfter, h.1]
  · intro word pc timers cycles _
    exact Latched.execute (m := m.fetch word) h _ _

theorem keySource_run (alone : m.keySource = none) (n : Nat) :
    (m.run n).state.keySource = none :=
  (Outcome.iterate_induction (fun after : Machine => after.Latched m.keypad)
    (fun _ => Latched.cycle) ⟨alone, rfl⟩ n).1

/-- In a run of `n` cycles the first `k` go through, and the next one is stopped. -/
def StopsAfter (m : Machine) (k n : Nat) (e : Error) : Prop :=
  k < n ∧ (m.run k).answer = .ok () ∧ (m.run k).state.cycle.answer = .error e

theorem answer_run_of_stopsAfter (h : m.StopsAfter k n e) : (m.run n).answer = .error e := by
  obtain ⟨below, through, stopped⟩ := h
  rw [run, Outcome.iterate_of_step_error below through stopped]
  exact stopped

theorem exists_stopsAfter (h : (m.run n).answer = .error e) : ∃ k, m.StopsAfter k n e :=
  Outcome.exists_step_error_of_iterate rfl h

theorem fault_of_stopsAfter (alone : m.keySource = none) (h : m.StopsAfter k n e) :
    ∃ f, e = .fault f ∧ Plain.IsPlain f.text :=
  fault_of_cycle_error (keySource_run alone k) h.2.2

end Chip8.Machine
