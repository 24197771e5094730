import Chip8.Proofs.Emulator.Reset
import Chip8.Proofs.Machine.CarriedOut

namespace Chip8

namespace RandomSource

variable {source : RandomSource}

def after (source : RandomSource) (n : Nat) : RandomSource := (source.take n).2

def restarts : RandomSource → Bool
  | seeded _ _ => true
  | stream _ _ => false

theorem after_succ (source : RandomSource) (n : Nat) :
    source.after (n + 1) = (source.after n).next.2 := rfl

theorem after_stream (bytes : Nat → UInt8) (taken n : Nat) :
    (stream bytes taken).after n = stream bytes (taken + n) := by
  induction n with
  | zero => rfl
  | succ n ih =>
    rw [after_succ, ih]
    rfl

theorem exists_after_seeded (seed : Int) (generator : Twister) (n : Nat) :
    ∃ later, (seeded seed generator).after n = seeded seed later := by
  induction n with
  | zero => exact ⟨generator, rfl⟩
  | succ n ih =>
    obtain ⟨later, eq⟩ := ih
    rw [after_succ, eq]
    exact ⟨later.nextByte.2, rfl⟩

/-- To rewind a source with a seed is to take nothing from it, and to rewind a script nothing
more. -/
theorem rewind_after (fresh : source.rewind = source) (n : Nat) :
    (source.after n).rewind = source.after (if (source.after n).restarts then 0 else n) := by
  cases source with
  | seeded seed generator =>
    obtain ⟨later, eq⟩ := exists_after_seeded seed generator n
    rw [eq]
    exact fresh
  | stream bytes taken =>
    rw [after_stream]
    exact (after_stream bytes taken n).symm

end RandomSource

namespace Machine

variable {m : Machine} {source : RandomSource} {n : Nat}

namespace Operation

/-- The position of the source after an operation, if it was `before` until then. -/
def drawn (op : Operation) (m : Machine) (before : Nat) : Nat :=
  match op with
  | reset _ => if m.random.restarts then 0 else before
  | op => before + op.carries Instruction.isRandom m

theorem drawn_of_not_reset {op : Operation} (kept : op.isReset = false) (m : Machine)
    (before : Nat) : op.drawn m before = before + op.carries Instruction.isRandom m := by
  cases op with
  | reset => cases kept
  | _ => rfl

theorem random_perform (fresh : source.rewind = source) {op : Operation}
    (quiet : op.usesRandom = false) (h : m.random = source.after n) :
    (op.perform m).state.random = source.after (op.drawn m n) := by
  cases reset : op.isReset with
  | true =>
    cases op with
    | reset clearMemory =>
      show m.random.rewind = source.after (if m.random.restarts then 0 else n)
      rw [h]
      exact RandomSource.rewind_after fresh n
    | _ => cases reset
  | false =>
    rw [drawn_of_not_reset reset]
    rcases carries_cases Instruction.isRandom op m with none | ⟨one, ins, carried, kind⟩
    · rw [random_of_others none reset quiet, h, none, Nat.add_zero]
    · cases ins with
      | random x nn =>
        rw [(random_of_carriedOut carried).1, h, one]
        rfl
      | _ => cases kind

end Operation

end Machine

namespace Emulator

variable {emulator : Emulator} {source : RandomSource} {n : Nat}

theorem random_cycle_after (fresh : source.rewind = source)
    (h : emulator.machine.random = source.after n) :
    emulator.cycle.state.machine.random =
      source.after (n + emulator.cycleCarries Instruction.isRandom) := by
  obtain ⟨timers, eq⟩ := emulator.machine_cycle_eq
  rw [eq]
  show (Machine.Operation.cycle.perform emulator.machine).state.random = _
  exact Machine.Operation.random_perform fresh rfl h

namespace Operation

def usesRandom : Operation → Bool
  | machine op => op.usesRandom
  | _ => false

def drawn (op : Operation) (emulator : Emulator) (before : Nat) : Nat :=
  match op with
  | machine op => op.drawn emulator.machine before
  | reset _ => if emulator.machine.random.restarts then 0 else before
  | op => before + op.carries Instruction.isRandom emulator

theorem random_perform (fresh : source.rewind = source) {op : Operation}
    (quiet : op.usesRandom = false) (h : emulator.machine.random = source.after n) :
    (op.perform emulator).state.machine.random = source.after (op.drawn emulator n) := by
  cases op with
  | machine op => exact Machine.Operation.random_perform fresh quiet h
  | cycle => exact random_cycle_after fresh h
  | run count =>
    exact carries_run_induction (R := fun e n => e.machine.random = source.after n) h
      (fun e n before => random_cycle_after fresh before) count
  | loadRomFile files path =>
    obtain ⟨memory, eq⟩ := emulator.state_loadRomFile files path
    exact (congrArg (fun e => e.machine.random) eq).trans h
  | reset clearMemory =>
    show ((Machine.Operation.reset clearMemory).perform emulator.machine).state.random = _
    exact Machine.Operation.random_perform fresh rfl h
  | setClock clock => exact h

end Operation
end Emulator

end Chip8
