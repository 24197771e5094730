import Chip8.Proofs.Raw.Execution

namespace Chip8

theorem Outcome.andThen_pure {σ α β : Type} (o : Outcome σ α) (say : α → β) :
    (o.andThen fun value => (pure (say value) : Action σ β).run) = o.saying say := by
  obtain ⟨_ | _, _, events⟩ := o
  · rfl
  · exact congrArg (Outcome.mk _ _) Array.append_empty

@[simp]
theorem Outcome.done_located {σ α : Type} (s : σ) (value : α) (events : Array Event) (pc : Int)
    (opcode : Option Int) : (done s value events).located pc opcode = done s value events := rfl

namespace Machine

variable (m : Machine)

theorem initial_raw (random : RandomSource) :
    (initial random).raw = Raw.Machine.initial random := by
  rw [raw, Raw.Machine.initial, initial, Memory.blank_raw, Registers.initial_raw,
    CallStack.empty_raw, Framebuffer.blank_raw, Keypad.released_raw]
  rfl

theorem readWord_raw (address : Int) :
    (Raw.Machine.onMemory (Raw.Memory.readWord address)).run m.raw =
      (faulting ((m.memory.readWord address).map fun word => (word.toNat : Int), m.memory)).within
        fun memory => { m with memory }.raw :=
  m.onMemory_raw (m.memory.readWord_raw address)

theorem setOpcode_raw (value : Int) :
    (Raw.Machine.onRegisters (Raw.Registers.setOpcode value)).run m.raw =
      .done { m with registers := m.registers.setOpcode value }.raw () #[] :=
  m.onRegisters_raw (o := .done _ () #[]) (m.registers.setOpcode_raw value)

theorem setPc_raw (value : Int) :
    (Raw.Machine.onRegisters (Raw.Registers.setPc value)).run m.raw =
      .done { m with registers := m.registers.setPc value }.raw () #[] :=
  m.onRegisters_raw (o := .done _ () #[]) (m.registers.setPc_raw value)

theorem tickTimers_raw : (Raw.Machine.onTimers Raw.Timers.tick).run m.raw =
    .done { m with timers := m.timers.tick.2 }.raw m.timers.tick.1 #[] :=
  m.onTimers_raw (o := .done _ _ #[]) m.timers.tick_raw

theorem tick_raw : Raw.Machine.tick.run m.raw = .done m.tick.1.raw () m.tick.2 := by
  simp only [Raw.Machine.tick, Action.run_bind, tickTimers_raw, tick]
  cases m.timers.tick.1 <;> cases listening : m.listening <;> simp [raw]

theorem count_raw : Raw.Machine.count.run m.raw =
    .done { m with cycles := m.cycles + 1 }.raw () #[] := rfl

@[simp]
theorem tickPerCycle_raw : m.raw.tickPerCycle = m.tickPerCycle := rfl

theorem complete_raw (next : UInt16) :
    (Raw.Machine.complete next.toNat).run m.raw = (m.complete next).within raw := by
  have stored : m.registers.setPc next.toNat = { m.registers with pc := next } := by
    rw [Registers.setPc, ofInt_toNat]
  simp only [Raw.Machine.complete, Action.run_bind, setPc_raw, stored, Outcome.done_andThen,
    count_raw, complete]
  cases m.tickPerCycle <;> simp [tick_raw]

@[simp]
theorem run_locating {α : Type} (pc : Int) (opcode : Option Int) (act : Action Raw.Machine α)
    (m : Raw.Machine) :
    (Raw.Machine.locating pc opcode act).run m = (act.run m).located pc opcode := rfl

theorem cycle_raw : Raw.Machine.cycle.run m.raw = m.cycle.within raw := by
  have start : m.raw.registers.pc = m.registers.pc.toNat := rfl
  simp only [Raw.Machine.cycle, Action.run_bind, Action.run_state, Outcome.done_andThen,
    Outcome.after_empty, start, run_locating, readWord_raw, cycle]
  cases m.memory.readWord m.registers.pc.toNat with
  | error fault => rfl
  | ok word =>
    have fetched : m.registers.setOpcode word.toNat = { m.registers with opcode := word } := by
      rw [Registers.setOpcode, ofInt_toNat]
    simp only [Except.map, faulting_ok, Outcome.done_within, Outcome.done_located,
      Outcome.done_andThen, Outcome.after_empty, Action.run_bind, setOpcode_raw, fetched,
      ofInt_toNat, run_locating, Action.run_log, execute_raw]
    let fetching : Machine := { m with registers := { m.registers with opcode := word } }
    rcases fetching.execute (Instruction.ofWord word) m.registers.pc.toNat
      with ⟨_ | next, after, events⟩
    · rfl
    · exact congrArg (Outcome.after _) (after.complete_raw next)

theorem loadRom_raw (rom : List UInt8) :
    (Raw.Machine.loadRom rom).run m.raw = (m.loadRom rom).within raw := by
  have loaded := m.memory.loadRom_raw rom
  simp only [Raw.Machine.loadRom, loadRom]
  rcases eq : m.memory.loadRom rom with ⟨_ | _, memory⟩ <;> rw [eq] at loaded
  · exact m.onMemory_raw (o := .stopped memory _ #[]) loaded
  · exact m.onMemory_raw (o := .done memory () _) loaded

theorem resetRegisters_raw : (Raw.Machine.onRegisters (.put .initial)).run m.raw =
    .done { m with registers := .initial }.raw () #[] := by
  rw [← Registers.initial_raw]
  exact m.onRegisters_raw (o := .done .initial () #[]) rfl

theorem clearStack_raw : (Raw.Machine.onStack Raw.CallStack.clear).run m.raw =
    .done { m with stack := .empty }.raw () #[] :=
  m.onStack_raw (o := .done .empty () #[]) m.stack.clear_raw

theorem resetTimers_raw : (Raw.Machine.onTimers (.put .stopped)).run m.raw =
    .done { m with timers := .stopped }.raw () #[] := rfl

theorem acknowledge_raw : (Raw.Machine.onScreen Raw.Screen.acknowledge).run m.raw =
    .done { m with screen := m.screen.acknowledge }.raw () #[] := rfl

theorem releaseAll_raw : (Raw.Machine.onKeypad (.put .released)).run m.raw =
    .done { m with keypad := .released }.raw () #[] := by
  rw [← Keypad.released_raw]
  exact m.onKeypad_raw (o := .done .released () #[]) rfl

theorem clearMemory_raw : (Raw.Machine.onMemory (.put .blank)).run m.raw =
    .done { m with memory := .blank }.raw () #[] := by
  rw [← Memory.blank_raw]
  exact m.onMemory_raw (o := .done .blank () #[]) rfl

theorem reset_raw (clearMemory : Bool) :
    (Raw.Machine.reset clearMemory).run m.raw = .done (m.reset clearMemory).raw () #[] := by
  have uncount (m : Machine) : ({ m.raw with cycles := 0 } : Raw.Machine) =
      { m with cycles := 0 }.raw := rfl
  simp only [Raw.Machine.reset, Action.run_bind, resetRegisters_raw, clearStack_raw,
    resetTimers_raw, clear_raw, acknowledge_raw, releaseAll_raw, Outcome.done_andThen,
    Outcome.after_empty, Action.run_state, Action.run_put, uncount]
  cases clearMemory with
  | true =>
    simp only [if_true, Action.run_bind, clearMemory_raw, Outcome.done_andThen,
      Outcome.after_empty]
    rfl
  | false => rfl

theorem perform_raw (op : Operation) :
    (Raw.Machine.perform op).run m.raw = (op.perform m).within raw := by
  cases op with
  | cycle =>
    rw [Raw.Machine.perform, Action.run_bind, cycle_raw, Outcome.andThen_pure]
    rfl
  | execute ins pc =>
    rw [Raw.Machine.perform, Action.run_bind, execute_raw, Outcome.andThen_pure, Operation.perform]
    rcases m.execute ins pc with ⟨_ | _, _, _⟩ <;> rfl
  | tick =>
    rw [Raw.Machine.perform, Action.run_bind, tick_raw]
    simp [Operation.perform]
  | loadRom rom =>
    rw [Raw.Machine.perform, Action.run_bind, loadRom_raw, Outcome.andThen_pure]
    rfl
  | reset clearMemory =>
    rw [Raw.Machine.perform, Action.run_bind, reset_raw]
    rfl
  | memory op => exact m.onMemory_raw (m.memory.perform_raw op)
  | registers op => exact m.onRegisters_raw (m.registers.perform_raw op)
  | stack op => exact m.onStack_raw (m.stack.perform_raw op)
  | timers op => exact m.onTimers_raw (m.timers.perform_raw op)
  | screen op => exact m.onScreen_raw (m.screen.perform_raw op)
  | keypad op => exact m.onKeypad_raw (m.keypad.perform_raw op)
  | random op => rfl
  | setKeySource source => rfl
  | listen on => rfl
  | setTickPerCycle on => rfl

end Machine
end Chip8
