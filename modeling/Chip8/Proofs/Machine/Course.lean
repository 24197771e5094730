import Chip8.Machine.Cycle
import Chip8.Proofs.Instruction.Patterns
import Chip8.Proofs.Machine.Frame
import Mathlib.Control.Monad.Basic

namespace Chip8.Machine

variable {m : Machine} {word next : UInt16} {e : Error}

theorem state_loadRom (m : Machine) (rom : List UInt8) :
    ∃ memory, (m.loadRom rom).state = { m with memory } := by
  unfold loadRom
  split
  · exact ⟨_, rfl⟩
  · exact ⟨_, rfl⟩

def loaded (rom : List UInt8) : Machine :=
  ((Machine.initial (.stream (fun _ => 0) 0)).loadRom rom).state

def fetched? (m : Machine) : Option UInt16 := m.memory.wordAt? m.registers.pc.toNat

def fetch (m : Machine) (word : UInt16) : Machine :=
  { m with registers := { m.registers with opcode := word } }

def attempt (m : Machine) (word : UInt16) : Outcome Machine UInt16 :=
  (m.fetch word).execute (.ofWord word) m.registers.pc.toNat

theorem fetched?_eq_none_iff : m.fetched? = none ↔ 4095 ≤ m.registers.pc.toNat := by
  unfold fetched? Memory.wordAt?
  split
  case isTrue inside =>
    have : m.registers.pc.toNat + 1 < 4096 := inside
    simp only [reduceCtorEq, false_iff]
    omega
  case isFalse outside =>
    have : ¬ m.registers.pc.toNat + 1 < 4096 := outside
    simp only [true_iff]
    omega

theorem pc_lt_of_fetched (h : m.fetched? = some word) : m.registers.pc.toNat < 4095 := by
  apply Nat.lt_of_not_le
  intro beyond
  have nothing := fetched?_eq_none_iff.2 beyond
  cases nothing.symm.trans h

theorem readWord_of_fetched (h : m.fetched? = some word) :
    m.memory.readWord m.registers.pc.toNat = .ok word := by
  have read := Memory.readWord_natCast m.memory m.registers.pc.toNat
  rwa [show m.memory.wordAt? m.registers.pc.toNat = some word from h] at read

theorem refuses_fetch {ins : Instruction} (word : UInt16) :
    (m.fetch word).Refuses ins e ↔ m.Refuses ins e :=
  ⟨fun h => h.of_same rfl rfl rfl rfl, fun h => h.of_same rfl rfl rfl rfl⟩

theorem attempt_frame (m : Machine) (word : UInt16) :
    Frame (.ofWord word) (m.fetch word) (m.attempt word).state := execute_frame _ _ _

/-! ## Stopped cycles -/

def fetchFault (pc : UInt16) : Fault :=
  (Fault.outOfRange (if 4096 ≤ pc.toNat then pc.toNat else 4096)).locate (some pc.toNat) none

theorem cycle_of_not_fetched (h : m.fetched? = none) :
    m.cycle = .stopped m (.fault (fetchFault m.registers.pc)) #[] := by
  have read := Memory.readWord_natCast m.memory m.registers.pc.toNat
  rw [show m.memory.wordAt? m.registers.pc.toNat = none from h] at read
  simp only [cycle, read]
  rfl

theorem cycle_of_refuses (fetched : m.fetched? = some word) (h : m.Refuses (.ofWord word) e) :
    m.cycle = .stopped
      { m with registers := { m.registers with opcode := word }, keySource := m.sourceAfter e }
      (e.locate (some m.registers.pc.toNat) (some word.toNat))
      #[.executing m.registers.pc word] := by
  have stopped := execute_of_refuses ((refuses_fetch word).2 h) m.registers.pc.toNat
  simp only [fetch] at stopped
  simp only [cycle, readWord_of_fetched fetched, stopped]
  rfl

/-! ## Completed cycles -/

theorem complete_eq (m : Machine) (next : UInt16) :
    (m.complete next).answer = .ok () ∧ (m.complete next).state =
      { m with
        registers := { m.registers with pc := next }
        timers := if m.tickPerCycle then m.timers.tick.2 else m.timers
        cycles := m.cycles + 1 } := by
  unfold complete
  cases m.tickPerCycle <;> exact ⟨rfl, rfl⟩

theorem cycle_of_attempt (fetched : m.fetched? = some word)
    (h : (m.attempt word).answer = .ok next) :
    m.cycle = ((m.attempt word).state.complete next).after
      (#[.executing m.registers.pc word] ++ (m.attempt word).events) := by
  simp only [attempt, fetch] at h ⊢
  simp only [cycle, readWord_of_fetched fetched, h]

theorem cycle_of_attempt_error (fetched : m.fetched? = some word)
    (h : (m.attempt word).answer = .error e) :
    m.cycle = .stopped (m.attempt word).state
      (e.locate (some m.registers.pc.toNat) (some word.toNat))
      (#[.executing m.registers.pc word] ++ (m.attempt word).events) := by
  simp only [attempt, fetch] at h ⊢
  simp only [cycle, readWord_of_fetched fetched, h]

theorem cycle_cases (m : Machine) :
    m.fetched? = none ∨
    (∃ word e, m.fetched? = some word ∧ m.Refuses (.ofWord word) e) ∨
    (∃ word next, m.fetched? = some word ∧ (m.attempt word).answer = .ok next) := by
  cases fetched : m.fetched? with
  | none => exact Or.inl rfl
  | some word =>
    apply Or.inr
    cases answer : (m.attempt word).answer with
    | error e => exact Or.inl ⟨word, e, rfl, (refuses_fetch word).1 (refuses_of_execute answer)⟩
    | ok next => exact Or.inr ⟨word, next, rfl, answer⟩

def Completes (m : Machine) (word : UInt16) : Prop :=
  m.cycle.answer = .ok () ∧ m.fetched? = some word

instance (m : Machine) (word : UInt16) : Decidable (m.Completes word) :=
  inferInstanceAs (Decidable (_ ∧ _))

theorem not_refuses_of_completes (h : m.Completes word) (e : Error) :
    ¬ m.Refuses (.ofWord word) e := by
  intro refused
  have answer := h.1
  rw [cycle_of_refuses h.2 refused] at answer
  cases answer

theorem pc_lt_of_completes (h : m.Completes word) : m.registers.pc.toNat < 4095 :=
  pc_lt_of_fetched h.2

theorem cycle_of_completes (h : m.Completes word) :
    ∃ next, (m.attempt word).answer = .ok next ∧ m.cycle.state =
      { (m.attempt word).state with
        registers := { (m.attempt word).state.registers with pc := next }
        timers := if (m.attempt word).state.tickPerCycle then (m.attempt word).state.timers.tick.2
          else (m.attempt word).state.timers
        cycles := (m.attempt word).state.cycles + 1 } := by
  obtain ⟨completed, fetched⟩ := h
  rcases cycle_cases m with none | ⟨word', e, fetched', refused⟩ | ⟨word', next, fetched', done⟩
  · cases none.symm.trans fetched
  · rw [cycle_of_refuses fetched' refused] at completed
    cases completed
  · cases fetched'.symm.trans fetched
    refine ⟨next, done, ?_⟩
    rw [cycle_of_attempt fetched done]
    exact (complete_eq _ next).2

theorem exists_completes (h : m.cycle.answer = .ok ()) : ∃ word, m.Completes word := by
  cases fetched : m.fetched? with
  | none =>
    rw [cycle_of_not_fetched fetched] at h
    cases h
  | some word => exact ⟨word, h, fetched⟩

theorem cycles_of_cycle_ok (h : m.cycle.answer = .ok ()) :
    m.cycle.state.cycles = m.cycles + 1 := by
  obtain ⟨word, completes⟩ := exists_completes h
  obtain ⟨next, -, state⟩ := cycle_of_completes completes
  rw [state]
  exact congrArg (· + 1) (attempt_frame m word).cycles

/-! ## Completed instructions -/

def executed? (m : Machine) : Option Instruction :=
  if m.cycle.answer = .ok () then m.fetched?.map .ofWord else none

theorem executed?_of_completes (h : m.Completes word) : m.executed? = some (.ofWord word) := by
  rw [executed?, if_pos h.1, h.2]
  rfl

theorem executed?_of_fits {ins : Instruction} (h : m.Completes word) (fits : ins.Fits word) :
    m.executed? = some ins := by
  rw [executed?_of_completes h, Instruction.ofWord_of_fits fits]

theorem executed?_of_error (h : m.cycle.answer = .error e) : m.executed? = none := by
  rw [executed?, h]
  rfl

theorem exists_completes_of_executed {ins : Instruction} (h : m.executed? = some ins) :
    ∃ word, m.Completes word ∧ Instruction.ofWord word = ins := by
  cases answer : m.cycle.answer with
  | error e =>
    rw [executed?_of_error answer] at h
    cases h
  | ok =>
    obtain ⟨word, completes⟩ := exists_completes answer
    rw [executed?_of_completes completes] at h
    exact ⟨word, completes, Option.some.inj h⟩

theorem executed?_eq_none_iff : m.executed? = none ↔ ∃ e, m.cycle.answer = .error e := by
  constructor
  · intro none
    cases answer : m.cycle.answer with
    | error e => exact ⟨e, rfl⟩
    | ok =>
      obtain ⟨word, completes⟩ := exists_completes answer
      cases (executed?_of_completes completes).symm.trans none
  · rintro ⟨e, answer⟩
    exact executed?_of_error answer

theorem cycle_of_executed {ins : Instruction} (h : m.executed? = some ins) :
    ∃ word next, ((m.fetch word).execute ins m.registers.pc.toNat).answer = .ok next ∧
      m.cycle = (((m.fetch word).execute ins m.registers.pc.toNat).state.complete next).after
        (#[.executing m.registers.pc word] ++
          ((m.fetch word).execute ins m.registers.pc.toNat).events) := by
  obtain ⟨word, completes, rfl⟩ := exists_completes_of_executed h
  obtain ⟨next, answer, -⟩ := cycle_of_completes completes
  exact ⟨word, next, answer, cycle_of_attempt completes.2 answer⟩

end Chip8.Machine
