import Chip8.Proofs.Emulator.Operations
import Chip8.Proofs.Machine.Atomicity

namespace Chip8

def Instruction.isRandom : Instruction → Bool
  | random _ _ => true
  | _ => false

namespace Machine.Operation

variable {m : Machine} {op : Operation} {ins : Instruction}

def carriedOut? (op : Operation) (m : Machine) : Option Instruction :=
  match op with
  | cycle => m.executed?
  | execute ins pc => (m.execute ins pc).answer.toOption.map fun _ => ins
  | _ => none

def carries (kind : Instruction → Bool) (op : Operation) (m : Machine) : Nat :=
  if (op.carriedOut? m).any kind then 1 else 0

theorem carries_cases (kind : Instruction → Bool) (op : Operation) (m : Machine) :
    op.carries kind m = 0 ∨
      op.carries kind m = 1 ∧ ∃ ins, op.carriedOut? m = some ins ∧ kind ins = true := by
  by_cases any : (op.carriedOut? m).any kind = true
  · exact Or.inr ⟨if_pos any, (Option.any_eq_true _ _).1 any⟩
  · exact Or.inl (if_neg any)

def usesRandom : Operation → Bool
  | random _ => true
  | _ => false

def usesScreen : Operation → Bool
  | screen _ => true
  | _ => false

def isReset : Operation → Bool
  | reset _ => true
  | _ => false

theorem perform_of_carriedOut (h : op.carriedOut? m = some ins) :
    ∃ word pc next, ((m.fetch word).execute ins pc).answer = .ok next ∧
      ∃ pc' timers cycles, (op.perform m).state = { ((m.fetch word).execute ins pc).state with
        registers := { ((m.fetch word).execute ins pc).state.registers with pc := pc' }
        timers, cycles } := by
  cases op with
  | cycle =>
    obtain ⟨word, next, answer, cycle⟩ := cycle_of_executed h
    have state : (perform .cycle m).state = _ :=
      (congrArg Outcome.state cycle).trans (complete_eq _ next).2
    exact ⟨word, m.registers.pc.toNat, next, answer, next, _, _, state⟩
  | execute ins' pc =>
    cases answer : (m.execute ins' pc).answer with
    | error e =>
      rw [carriedOut?, answer] at h
      cases h
    | ok next =>
      rw [carriedOut?, answer] at h
      cases h
      exact ⟨m.registers.opcode, pc, next, answer, _, _, _, rfl⟩
  | _ => cases h

theorem perform_of_refused (h : op.carriedOut? m = none) (kept : op.isReset = false) :
    (op.usesRandom = false → (op.perform m).state.random = m.random) ∧
      (op.usesScreen = false → (op.perform m).state.screen = m.screen) := by
  cases op with
  | cycle =>
    obtain ⟨e, answer⟩ := executed?_eq_none_iff.1 h
    have state : (perform .cycle m).state = _ := (cycle_state_of_error answer).1
    rw [state]
    exact ⟨fun _ => rfl, fun _ => rfl⟩
  | execute ins pc =>
    cases answer : (m.execute ins pc).answer with
    | ok next =>
      rw [carriedOut?, answer] at h
      cases h
    | error e =>
      show (_ → (m.execute ins pc).state.random = _) ∧ (_ → (m.execute ins pc).state.screen = _)
      rw [execute_of_refuses (refuses_of_execute answer)]
      exact ⟨fun _ => rfl, fun _ => rfl⟩
  | loadRom rom =>
    obtain ⟨memory, state⟩ := m.state_loadRom rom
    show (_ → (m.loadRom rom).state.random = _) ∧ (_ → (m.loadRom rom).state.screen = _)
    rw [state]
    exact ⟨fun _ => rfl, fun _ => rfl⟩
  | reset => cases kept
  | random => exact ⟨nofun, fun _ => rfl⟩
  | screen => exact ⟨fun _ => rfl, nofun⟩
  | _ => exact ⟨fun _ => rfl, fun _ => rfl⟩

theorem random_of_carriedOut {x : Register} {nn : UInt8}
    (h : op.carriedOut? m = some (.random x nn)) :
    (op.perform m).state.random = m.random.next.2 ∧
      (op.perform m).state.registers.value x = m.random.next.1 &&& nn := by
  obtain ⟨word, pc, next, -, pc', timers, cycles, state⟩ := perform_of_carriedOut h
  rw [state]
  refine ⟨rfl, ?_⟩
  show ((m.fetch word).registers.assign x (m.random.next.1 &&& nn)).value x = _
  rw [Registers.value_assign, if_pos rfl]

theorem random_of_others (others : op.carries Instruction.isRandom m = 0)
    (kept : op.isReset = false) (quiet : op.usesRandom = false) :
    (op.perform m).state.random = m.random := by
  cases carried : op.carriedOut? m with
  | none => exact (perform_of_refused carried kept).1 quiet
  | some ins =>
    obtain ⟨word, pc, next, -, pc', timers, cycles, state⟩ := perform_of_carriedOut carried
    rw [state]
    apply (execute_frame (m.fetch word) ins pc).random
    rintro x nn rfl
    rw [carries, carried] at others
    cases others

theorem dirty_of_carriedOut (h : op.carriedOut? m = some ins) (draws : ins.draws = true) :
    (op.perform m).state.screen.dirty = true := by
  obtain ⟨word, pc, next, answer, pc', timers, cycles, state⟩ := perform_of_carriedOut h
  rw [state]
  show ((m.fetch word).execute ins pc).state.screen.dirty = true
  cases ins with
  | clear => rfl
  | draw x y n =>
    simp only [Machine.execute] at answer ⊢
    split
    · rfl
    · rename_i fault read
      rw [read] at answer
      cases answer
  | _ => cases draws

theorem screen_of_others (others : op.carries Instruction.draws m = 0)
    (kept : op.isReset = false) (quiet : op.usesScreen = false) :
    (op.perform m).state.screen = m.screen := by
  cases carried : op.carriedOut? m with
  | none => exact (perform_of_refused carried kept).2 quiet
  | some ins =>
    obtain ⟨word, pc, next, -, pc', timers, cycles, state⟩ := perform_of_carriedOut carried
    rw [state]
    apply (execute_frame (m.fetch word) ins pc).screen
    cases draws : ins.draws with
    | false => rfl
    | true =>
      rw [carries, carried, Option.any_some, draws] at others
      cases others

end Machine.Operation

namespace Emulator

variable {kind : Instruction → Bool} {emulator : Emulator}

def cycleCarries (kind : Instruction → Bool) (emulator : Emulator) : Nat :=
  Machine.Operation.cycle.carries kind emulator.machine

def Operation.carries (kind : Instruction → Bool) (op : Operation) (emulator : Emulator) : Nat :=
  match op with
  | machine op => op.carries kind emulator.machine
  | cycle => emulator.cycleCarries kind
  | run count => emulator.runTotal (cycleCarries kind) count
  | _ => 0

theorem carries_run_induction {R : Emulator → Nat → Prop} {n : Nat} (start : R emulator n)
    (preserved : ∀ e n, R e n → R e.cycle.state (n + e.cycleCarries kind)) (count : Int) :
    R (emulator.run count).state (n + (Operation.run count).carries kind emulator) := by
  let R' (e : Emulator) (more : Nat) (_ : Array Event) : Prop := R e (n + more)
  have begun : R' emulator 0 #[] := start
  refine runTotal_induction (p := fun _ => True) (R := R') begun ?_ fun _ _ _ => trivial
  intro e more events _ before
  show R e.cycle.state (n + (more + e.cycleCarries kind))
  rw [← Nat.add_assoc]
  exact preserved e _ before

end Emulator
end Chip8
