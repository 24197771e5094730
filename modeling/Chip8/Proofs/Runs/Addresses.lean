import Chip8.Proofs.Emulator.Start
import Chip8.Proofs.Machine.Targets
import Chip8.Proofs.Runs.Subroutines

namespace Chip8

theorem Registers.pc_initial_le : initial.pc.toNat ≤ 0x10FE := by decide

theorem Registers.pc_set (r : Registers) (index value : Int) : (r.set index value).2.pc = r.pc := by
  unfold set
  split <;> rfl

theorem CallStack.mem_entries_of_mem_pop {capacity : Nat} {s : CallStack capacity} {a : UInt16}
    (h : a ∈ s.pop.2.entries) : a ∈ s.entries := by
  by_cases empty : s.entries = []
  · rwa [pop_of_entries_eq_nil s empty] at h
  · obtain ⟨address, below, pop, entries⟩ := pop_of_entries_ne_nil s empty
    rw [pop] at h
    rw [entries]
    exact List.mem_append_left _ h

namespace Machine

variable {m : Machine} {word : UInt16}

structure InBounds (m : Machine) : Prop where
  pc : m.registers.pc.toNat ≤ 0x10FE
  entries : ∀ a ∈ m.stack.entries, 2 ≤ a.toNat ∧ a.toNat ≤ 0x1000

/-! ## One cycle -/

theorem pc_of_completes (h : m.Completes word) :
    m.cycle.state.registers.pc.toNat = m.target m.registers.pc.toNat (.ofWord word) := by
  have below := pc_lt_of_completes h
  obtain ⟨next, answer, state⟩ := cycle_of_completes h
  have fetched : (m.fetch word).target m.registers.pc.toNat (.ofWord word) =
      m.target m.registers.pc.toNat (.ofWord word) := by
    cases Instruction.ofWord word <;> rfl
  rw [state, ← fetched]
  exact execute_target (by omega) answer

theorem target_le (h : m.InBounds) {pc : Nat} (below : pc < 4095) (ins : Instruction) :
    m.target pc ins ≤ 0x10FE := by
  have skips (condition : Bool) : (if condition then pc + 4 else pc + 2) ≤ 0x10FE := by
    split <;> omega
  cases ins
  case jump nnn => exact Nat.le_trans (Nat.le_of_lt nnn.isLt) (by decide)
  case call nnn => exact Nat.le_trans (Nat.le_of_lt nnn.isLt) (by decide)
  case ret =>
    show (m.stack.entries.getLastD 0).toNat ≤ 0x10FE
    rw [List.getLastD_eq_getLast?]
    cases top : m.stack.entries.getLast? with
    | none => exact Nat.zero_le _
    | some a => exact Nat.le_trans (h.entries a (List.mem_of_getLast? top)).2 (by decide)
  case jumpOffset nnn =>
    have offset := (m.registers.value 0).toNat_lt
    have base := nnn.isLt
    show (m.registers.value 0).toNat + nnn ≤ 0x10FE
    omega
  case awaitKey x =>
    show (if m.keyAtHand then pc + 2 else pc) ≤ 0x10FE
    split <;> omega
  case skipEqByte | skipNeByte | skipEq | skipNe | skipPressed | skipReleased => exact skips _
  all_goals exact skips false

theorem entries_inBounds_of_calls (call : m.Calls) :
    2 ≤ (m.registers.pc + 2).toNat ∧ (m.registers.pc + 2).toNat ≤ 0x1000 := by
  have exact := returnAddress_of_calls call
  obtain ⟨word, nnn, completes, -⟩ := call
  have below := pc_lt_of_completes completes
  omega

theorem inBounds_cycle (h : m.InBounds) : m.cycle.state.InBounds where
  pc := by
    cases answer : m.cycle.answer with
    | error e =>
      rw [(cycle_state_of_error answer).1]
      exact h.pc
    | ok =>
      obtain ⟨word, completes⟩ := exists_completes answer
      rw [pc_of_completes completes]
      -- A completed cycle was fetched inside memory, so its target is small.
      exact target_le h (pc_lt_of_completes completes) _
  entries a member := by
    rcases m.cycle_entries with ⟨call, pushed⟩ | ⟨-, popped⟩ | ⟨-, -, same⟩
    · rw [pushed, List.mem_append, List.mem_singleton] at member
      rcases member with before | rfl
      · exact h.entries a before
      · exact entries_inBounds_of_calls call
    · apply h.entries a
      rw [popped]
      exact List.mem_append_left _ member
    · rw [same] at member
      exact h.entries a member

/-! ## Sessions -/

namespace Operation

def steers : Operation → Bool
  | execute _ _ | registers (.setPc _) | stack (.push _) => true
  | _ => false

theorem inBounds_perform {op : Operation} (quiet : op.steers = false) (h : m.InBounds) :
    (op.perform m).state.InBounds := by
  cases op with
  | cycle => exact inBounds_cycle h
  | execute => cases quiet
  | loadRom rom =>
    obtain ⟨memory, eq⟩ := m.state_loadRom rom
    show (m.loadRom rom).state.InBounds
    rw [eq]
    exact ⟨h.pc, h.entries⟩
  | reset => exact ⟨Registers.pc_initial_le, nofun⟩
  | registers op =>
    cases op with
    | setPc => cases quiet
    | set index value => exact ⟨(m.registers.pc_set index value).symm ▸ h.pc, h.entries⟩
    | reset => exact ⟨Registers.pc_initial_le, h.entries⟩
    | _ => exact ⟨h.pc, h.entries⟩
  | stack op =>
    cases op with
    | push => cases quiet
    | pop => exact ⟨h.pc, fun a member => h.entries a (CallStack.mem_entries_of_mem_pop member)⟩
    | peek => exact ⟨h.pc, h.entries⟩
    | clear => exact ⟨h.pc, nofun⟩
  | _ => exact ⟨h.pc, h.entries⟩

end Operation

theorem inBounds_initial (random : RandomSource) : (initial random).InBounds :=
  ⟨Registers.pc_initial_le, nofun⟩

end Machine

namespace Emulator

variable {emulator : Emulator}

theorem inBounds_cycle (h : emulator.machine.InBounds) :
    emulator.cycle.state.machine.InBounds := by
  have inside := Machine.inBounds_cycle h
  obtain ⟨timers, eq⟩ := emulator.machine_cycle_eq
  rw [eq]
  exact ⟨inside.pc, inside.entries⟩

def Operation.steers : Operation → Bool
  | machine op => op.steers
  | _ => false

theorem Operation.inBounds_perform {op : Operation} (quiet : op.steers = false)
    (h : emulator.machine.InBounds) : (op.perform emulator).state.machine.InBounds := by
  cases op with
  | machine op => exact Machine.Operation.inBounds_perform quiet h
  | cycle => exact Emulator.inBounds_cycle h
  | run count =>
    exact run_induction (fun e => e.machine.InBounds) h (fun _ => Emulator.inBounds_cycle) count
  | loadRomFile files path =>
    obtain ⟨memory, eq⟩ := emulator.state_loadRomFile files path
    show (emulator.loadRomFile files path).state.machine.InBounds
    rw [eq]
    exact ⟨h.pc, h.entries⟩
  | reset clearMemory =>
    have quiet : (Machine.Operation.reset clearMemory).steers = false := rfl
    exact Machine.Operation.inBounds_perform quiet h
  | setClock => exact h

end Emulator

theorem control_flow_never_wraps :
    (∀ (random : RandomSource) (history : List Machine.Operation),
      (∀ op ∈ history, op.steers = false) →
      (Session.final Machine.Operation.perform history (.initial random)).InBounds) ∧
    (∀ (config : Config) (random : Option RandomSource) (keySource : Option KeySource)
        (clock : Clock) (files : Files Id) (emulator : Emulator) (events : Array Event)
        (history : List Emulator.Operation),
      Emulator.start config random keySource clock files = (.ok emulator, events) →
      (∀ op ∈ history, op.steers = false) →
      (Session.final Emulator.Operation.perform history emulator).machine.InBounds) ∧
    (∀ (m : Machine) (word : UInt16), m.Completes word →
      (∀ ins : Instruction, ins.Fits word →
        m.cycle.state.registers.pc.toNat = m.target m.registers.pc.toNat ins) ∧
      ((∀ ins : Instruction, ¬ ins.Fits word) →
        m.cycle.state.registers.pc.toNat = m.registers.pc.toNat + 2)) ∧
    (∀ m : Machine, m.Returns → m.stack.entries ≠ []) ∧
    (∀ m : Machine, m.Calls → m.cycle.state.stack.entries.map UInt16.toNat =
      m.stack.entries.map UInt16.toNat ++ [m.registers.pc.toNat + 2]) ∧
    (∀ emulator : Emulator,
      emulator.cycle.state.machine.registers = emulator.machine.cycle.state.registers ∧
        emulator.cycle.state.machine.stack = emulator.machine.cycle.state.stack) := by
  refine ⟨?_, ?_, ?_, ?_, ?_, ?_⟩
  · intro random history quiet
    apply Session.final_induction Machine.InBounds (Machine.inBounds_initial random)
    intro op member m
    exact Machine.Operation.inBounds_perform (quiet op member)
  · intro config random keySource clock files emulator events history started quiet
    obtain ⟨memory, pace, -, -, rfl⟩ := Emulator.eq_of_start started
    have start := Machine.inBounds_initial (random.getD (.ofSeed config.seed))
    apply Session.final_induction (fun e : Emulator => e.machine.InBounds)
    · exact ⟨start.pc, start.entries⟩
    · intro op member emulator
      exact Emulator.Operation.inBounds_perform (quiet op member)
  · intro m word completes
    have goes := Machine.pc_of_completes completes
    constructor
    · intro ins fits
      rw [goes, Instruction.ofWord_of_fits fits]
    · intro unknown
      obtain ⟨w, decoded⟩ := Instruction.not_fits_iff.1 unknown
      rw [goes, decoded]
      rfl
  · intro m returns empty
    exact Machine.not_refuses_of_completes returns _ (.ret empty)
  · intro m call
    rw [Machine.entries_of_calls call, List.map_append, List.map_singleton,
      Machine.returnAddress_of_calls call]
  · intro emulator
    obtain ⟨timers, eq⟩ := emulator.machine_cycle_eq
    rw [eq]
    exact ⟨rfl, rfl⟩

theorem control_flow_never_wraps_offset :
    let program : Machine.Operation := .loadRom [0x60, 0xFF, 0xBF, 0xFF]
    let start := Machine.initial (.stream (fun _ => 0) 0)
    let m := Session.final Machine.Operation.perform [program, .cycle] start
    let caller := Machine.loaded [0x22, 0x02, 0x00, 0xEE]
    let idle := Machine.loaded [0x00, 0xE1]
    (Session.final Machine.Operation.perform [program, .cycle, .cycle, .cycle] start).InBounds ∧
      (Session.final Emulator.Operation.perform [.machine program, .run 9, .reset true]
        .usual).machine.InBounds ∧
      m.Completes 0xBFFF ∧ m.cycle.state.registers.pc.toNat = 0x10FE ∧
      m.cycle.state.cycle.answer ≠ .ok () ∧
      idle.Completes 0x00E1 ∧ idle.cycle.state.registers.pc.toNat = 0x200 + 2 ∧
      caller.Calls ∧ caller.cycle.state.stack.entries.map UInt16.toNat = [0x200 + 2] ∧
      caller.cycle.state.Returns ∧ caller.cycle.state.stack.entries ≠ [] := by
  intro program start m caller idle
  obtain ⟨onMachine, onEmulator, goes, returns, calls, -⟩ := control_flow_never_wraps
  have jumps : m.Completes 0xBFFF := by decide +kernel
  have offset := (goes m _ jumps).1 (.jumpOffset 0xFFF) ⟨rfl, rfl⟩
  have idles : idle.Completes 0x00E1 := by decide +kernel
  have unlisted := Instruction.not_fits_iff.2 ⟨0x00E1, show Instruction.ofWord 0x00E1 = _ from rfl⟩
  have calling : caller.Completes 0x2202 := by decide +kernel
  have call : caller.Calls := ⟨_, 0x202, calling, rfl, rfl⟩
  have returning : caller.cycle.state.Returns := by decide +kernel
  refine ⟨onMachine _ _ (by simp [program, Machine.Operation.steers]),
    onEmulator {} none none (.still 0) .empty _ _ _ Emulator.start_usual
      (by simp [program, Emulator.Operation.steers, Machine.Operation.steers]),
    jumps, offset.trans (by decide +kernel), by decide +kernel,
    idles, (goes idle _ idles).2 unlisted, call, calls caller call, returning,
    returns _ returning⟩

end Chip8
