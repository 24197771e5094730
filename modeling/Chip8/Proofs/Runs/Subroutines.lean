import Chip8.Proofs.Emulator.Run
import Chip8.Proofs.Machine.Atomicity

namespace Chip8.Machine

variable {m m' : Machine}

def Calls (m : Machine) : Prop :=
  ∃ word nnn, m.Completes word ∧ (Instruction.call nnn).Fits word

def Returns (m : Machine) : Prop := m.Completes 0x00EE

instance (m : Machine) : Decidable m.Returns := inferInstanceAs (Decidable (m.Completes _))

/-! ## One cycle -/

theorem returnAddress_of_calls (h : m.Calls) :
    (m.registers.pc + 2).toNat = m.registers.pc.toNat + 2 := by
  obtain ⟨word, nnn, completes, -⟩ := h
  have below := pc_lt_of_completes completes
  rw [UInt16.toNat_add]
  exact Nat.mod_eq_of_lt (show m.registers.pc.toNat + 2 < 65536 by omega)

theorem entries_of_calls (h : m.Calls) :
    m.cycle.state.stack.entries = m.stack.entries ++ [m.registers.pc + 2] := by
  obtain ⟨word, nnn, completes, fits⟩ := h
  have decoded := Instruction.ofWord_of_fits fits
  -- A call that is completed has found a free slot.
  have room : m.stack.entries.length ≠ 16 := by
    intro full
    apply not_refuses_of_completes completes
    rw [decoded]
    exact .call full
  obtain ⟨above, entries, through⟩ := execute_call (m := m.fetch word) room nnn m.registers.pc.toNat
  obtain ⟨next, -, state⟩ := cycle_of_completes completes
  have attempted : m.attempt word = _ :=
    (congrArg (fun ins => execute _ ins _) decoded).trans through
  rw [state, attempted]
  refine entries.trans ?_
  rw [UInt16.ofInt_add, ofInt_toNat]
  rfl

theorem entries_of_returns (h : m.Returns) :
    m.stack.entries = m.cycle.state.stack.entries ++ [m.cycle.state.registers.pc] := by
  have called : m.stack.entries ≠ [] := by
    intro empty
    apply not_refuses_of_completes h
    exact .ret empty
  obtain ⟨address, below, entries, through⟩ :=
    execute_ret (m := m.fetch 0x00EE) called m.registers.pc.toNat
  obtain ⟨next, answer, state⟩ := cycle_of_completes h
  have attempted : m.attempt 0x00EE = _ := through
  rw [attempted] at answer state
  cases answer
  rw [state]
  exact entries

theorem usesStack_ofWord_eq_false {word : UInt16} (call : ¬ m.Calls) (ret : ¬ m.Returns)
    (completes : m.Completes word) : (Instruction.ofWord word).usesStack = false := by
  cases decoded : Instruction.ofWord word with
  | call nnn =>
    have known (w : UInt16) : Instruction.call nnn ≠ .unknown w := nofun
    have fits := (Instruction.ofWord_eq_iff known).1 decoded
    exact absurd ⟨word, nnn, completes, fits⟩ call
  | ret =>
    have known (w : UInt16) : Instruction.ret ≠ .unknown w := nofun
    cases (Instruction.ofWord_eq_iff known).1 decoded
    exact absurd completes ret
  | _ => rfl

theorem stack_of_others (call : ¬ m.Calls) (ret : ¬ m.Returns) :
    m.cycle.state.stack = m.stack := by
  refine cycle_induction (P := fun after => after.stack = m.stack) (fun _ => rfl) ?_
  intro word pc timers cycles completes
  exact (attempt_frame m word).stack (usesStack_ofWord_eq_false call ret completes)

theorem cycle_entries (m : Machine) :
    m.Calls ∧ m.cycle.state.stack.entries = m.stack.entries ++ [m.registers.pc + 2] ∨
    m.Returns ∧ m.stack.entries = m.cycle.state.stack.entries ++ [m.cycle.state.registers.pc] ∨
    ¬ m.Calls ∧ ¬ m.Returns ∧ m.cycle.state.stack.entries = m.stack.entries := by
  by_cases call : m.Calls
  · exact Or.inl ⟨call, entries_of_calls call⟩
  · by_cases ret : m.Returns
    · exact Or.inr (Or.inl ⟨ret, entries_of_returns ret⟩)
    · exact Or.inr (Or.inr ⟨call, ret, congrArg _ (stack_of_others call ret)⟩)

/-! ## From a call to its return -/

def ReturnsTo (m : Machine) (depth : Nat) : Prop :=
  m.Returns ∧ m.cycle.state.stack.depth = depth

instance (m : Machine) (depth : Nat) : Decidable (m.ReturnsTo depth) :=
  inferInstanceAs (Decidable (_ ∧ _))

/-- Cycles before a return to a depth, between which the host leaves the entries alone. -/
inductive Underway (depth : Nat) (m : Machine) : Machine → Prop where
  | entered : Underway depth m m
  | cycle {m' : Machine} (before : Underway depth m m') (stays : ¬ m'.ReturnsTo depth) :
      Underway depth m m'.cycle.state
  | host {m' m'' : Machine} (before : Underway depth m m')
      (same : m''.stack.entries = m'.stack.entries) : Underway depth m m''

theorem prefix_of_cycle {base : List UInt16} {address : UInt16}
    (below : (base ++ [address]) <+: m.stack.entries) (stays : ¬ m.ReturnsTo base.length) :
    (base ++ [address]) <+: m.cycle.state.stack.entries := by
  rcases m.cycle_entries with ⟨-, pushed⟩ | ⟨ret, popped⟩ | ⟨-, -, same⟩
  · rw [pushed]
    exact below.trans (List.prefix_append _ _)
  · rw [popped] at below
    rcases List.prefix_concat_iff.1 below with top | inside
    · -- The return address is the entry that was popped: this was the return.
      have length := congrArg List.length (List.append_inj_left' top rfl)
      rw [CallStack.length_entries] at length
      exact absurd ⟨ret, length.symm⟩ stays
    · exact inside
  · rwa [same]

theorem prefix_of_underway {base : List UInt16} {address : UInt16}
    (start : (base ++ [address]) <+: m.stack.entries) (h : Underway base.length m m') :
    (base ++ [address]) <+: m'.stack.entries := by
  induction h with
  | entered => exact start
  | cycle before stays below => exact prefix_of_cycle below stays
  | host before same below => rwa [same]

theorem cycle_of_returnsTo {base : List UInt16} {address : UInt16}
    (below : (base ++ [address]) <+: m.stack.entries) (h : m.ReturnsTo base.length) :
    m.cycle.state.registers.pc = address ∧ m.cycle.state.stack.entries = base := by
  obtain ⟨ret, depth⟩ := h
  have popped := entries_of_returns ret
  have length : (base ++ [address]).length = m.stack.entries.length := by
    rw [popped, List.length_append, List.length_append, CallStack.length_entries, depth]
    rfl
  have same := (below.eq_of_length length).trans popped
  obtain ⟨entries, pc⟩ := List.append_inj' same rfl
  exact ⟨(List.singleton_inj.1 pc).symm, entries.symm⟩

/-! ## Counting calls and returns -/

/-- The completed calls and returns since a machine was switched on, or reset. -/
inductive Tally : Nat → Nat → Machine → Prop where
  | initial (random : RandomSource) : Tally 0 0 (.initial random)
  | reset (m : Machine) (clearMemory : Bool) : Tally 0 0 (m.reset clearMemory)
  | call {calls returns : Nat} {m : Machine} (before : Tally calls returns m) (call : m.Calls) :
      Tally (calls + 1) returns m.cycle.state
  | ret {calls returns : Nat} {m : Machine} (before : Tally calls returns m) (ret : m.Returns) :
      Tally calls (returns + 1) m.cycle.state
  | other {calls returns : Nat} {m : Machine} (before : Tally calls returns m)
      (call : ¬ m.Calls) (ret : ¬ m.Returns) : Tally calls returns m.cycle.state
  | host {calls returns : Nat} {m m' : Machine} (before : Tally calls returns m)
      (same : m'.stack.entries = m.stack.entries) : Tally calls returns m'

theorem tally_loaded (rom : List UInt8) : Tally 0 0 (loaded rom) := by
  have start := Tally.initial (.stream (fun _ => 0) 0)
  obtain ⟨memory, eq⟩ := state_loadRom (initial (.stream (fun _ => 0) 0)) rom
  apply start.host
  rw [loaded, eq]

theorem length_entries_of_tally {calls returns : Nat} (h : Tally calls returns m) :
    m.stack.entries.length + returns = calls := by
  induction h with
  | initial => rfl
  | reset => rfl
  | call before call ih =>
    rw [entries_of_calls call, List.length_append, List.length_singleton, ← ih]
    omega
  | ret before ret ih =>
    rw [entries_of_returns ret, List.length_append] at ih
    rw [← ih, List.length_singleton]
    omega
  | other before call ret ih => rwa [stack_of_others call ret]
  | host before same ih => rwa [same]

theorem stack_of_emulator_cycle (emulator : Emulator) :
    emulator.cycle.state.machine.stack = emulator.machine.cycle.state.stack := by
  obtain ⟨timers, eq⟩ := emulator.machine_cycle_eq
  rw [eq]

/-- A return goes to the address after the call at its depth, with the entries from before it. -/
theorem return_matches_call :
    (∀ m m' : Machine, m.Calls → Underway m.stack.depth m.cycle.state m' →
      (m.stack.entries ++ [m.registers.pc + 2]) <+: m'.stack.entries ∧
      (m'.ReturnsTo m.stack.depth →
        m'.cycle.state.registers.pc.toNat = m.registers.pc.toNat + 2 ∧
        m'.cycle.state.stack.entries = m.stack.entries)) ∧
    (∀ (calls returns : Nat) (m : Machine), Tally calls returns m →
      returns ≤ calls ∧ m.stack.depth = calls - returns ∧ m.stack.depth ≤ 16) ∧
    (∀ emulator : Emulator,
      emulator.cycle.state.machine.stack.entries = emulator.machine.cycle.state.stack.entries) := by
  refine ⟨?_, ?_, fun emulator => congrArg _ (stack_of_emulator_cycle emulator)⟩
  · intro m m' call underway
    have start : (m.stack.entries ++ [m.registers.pc + 2]) <+: m.cycle.state.stack.entries :=
      ⟨[], by rw [List.append_nil, entries_of_calls call]⟩
    rw [← CallStack.length_entries] at underway ⊢
    have below := prefix_of_underway start underway
    refine ⟨below, ?_⟩
    intro returns
    obtain ⟨pc, entries⟩ := cycle_of_returnsTo below returns
    rw [pc]
    exact ⟨returnAddress_of_calls call, entries⟩
  · intro calls returns m tally
    have count := length_entries_of_tally tally
    rw [CallStack.length_entries] at count
    have bound := m.stack.depth_le
    omega

theorem return_matches_call_nested :
    let m := loaded [0x22, 0x06, 0x00, 0xE0, 0x00, 0xE0, 0x22, 0x0A, 0x00, 0xEE, 0x00, 0xEE]
    let last := m.cycle.state.cycle.state.cycle.state
    m.Calls ∧ Underway m.stack.depth m.cycle.state last ∧ last.ReturnsTo m.stack.depth ∧
      last.cycle.state.registers.pc.toNat = m.registers.pc.toNat + 2 ∧
      last.cycle.state.stack.entries = m.stack.entries ∧
      Tally 2 1 last ∧ last.stack.depth = 2 - 1 := by
  intro m last
  have run : m.Completes 0x2206 ∧ m.cycle.state.Completes 0x220A ∧
      ¬ m.cycle.state.ReturnsTo m.stack.depth ∧ m.cycle.state.cycle.state.Returns ∧
      ¬ m.cycle.state.cycle.state.ReturnsTo m.stack.depth ∧ last.ReturnsTo m.stack.depth := by
    decide +kernel
  obtain ⟨outer, inner, first, ret, second, returns⟩ := run
  have call : m.Calls := ⟨_, 0x206, outer, rfl, rfl⟩
  have nested : m.cycle.state.Calls := ⟨_, 0x20A, inner, rfl, rfl⟩
  have underway : Underway m.stack.depth m.cycle.state last :=
    .cycle (.cycle .entered first) second
  have start : Tally 0 0 m := tally_loaded _
  have tally : Tally 2 1 last := .ret (.call (.call start call) nested) ret
  obtain ⟨matched, counted, -⟩ := return_matches_call
  obtain ⟨pc, entries⟩ := (matched m last call underway).2 returns
  exact ⟨call, underway, returns, pc, entries, tally, (counted 2 1 last tally).2.1⟩

end Chip8.Machine
