import Chip8.Proofs.Machine.Course
import Mathlib.Logic.Function.Iterate

namespace Chip8

def KeySource.after (source : KeySource) (n : Nat) : KeySource :=
  { source with asked := source.asked + n }

def Timers.after (t : Timers) (n : Nat) : Timers := (fun t => t.tick.2)^[n] t

namespace Machine

variable {m : Machine} {word next : UInt16} {x : Register} {key : Key} {source : KeySource}
variable {n : Nat}

/-- What `n` cycles at a word do to the clocks of a machine and to its word register. -/
def spend (m : Machine) (word : UInt16) (n : Nat) : Machine :=
  { m with
    registers := { m.registers with opcode := if n = 0 then m.registers.opcode else word }
    timers := if m.tickPerCycle then m.timers.after n else m.timers
    cycles := m.cycles + n }

theorem spend_spend (m : Machine) (word : UInt16) (k n : Nat) :
    (m.spend word k).spend word n = m.spend word (k + n) := by
  have opcode : ((m.spend word k).spend word n).registers.opcode =
      (m.spend word (k + n)).registers.opcode := by
    simp only [spend]
    split_ifs <;> first | rfl | omega
  have timers : ((m.spend word k).spend word n).timers = (m.spend word (k + n)).timers := by
    simp only [spend]
    split_ifs
    · rw [Nat.add_comm]
      exact (Function.iterate_add_apply _ n k m.timers).symm
    · rfl
  have cycles : m.cycles + k + n = m.cycles + (k + n) := Nat.add_assoc ..
  simp only [spend] at opcode timers cycles ⊢
  rw [opcode, timers, cycles]

def take (m : Machine) (x : Register) (key : Key) : Machine :=
  { m with registers := { m.registers.assign x (.ofNat key) with pc := m.registers.pc + 2 } }

theorem toNat_value_take (m : Machine) (x : Register) (key : Key) :
    ((m.take x key).registers.value x).toNat = key.val := by
  show ((m.registers.assign x (.ofNat key)).value x).toNat = key.val
  rw [Registers.value_assign, if_pos rfl]
  exact UInt8.toNat_ofNat_of_lt' (Nat.lt_trans key.isLt (by decide))

theorem toNat_pc_add_two (fetched : m.fetched? = some word) :
    (m.registers.pc + 2).toNat = m.registers.pc.toNat + 2 := by
  have inside := pc_lt_of_fetched fetched
  have added : (m.registers.pc + 2).toNat = (m.registers.pc.toNat + 2) % 65536 :=
    UInt16.toNat_add _ _
  omega

theorem following_of_fetched (fetched : m.fetched? = some word) :
    following m.registers.pc.toNat false = m.registers.pc + 2 := by
  have next := toNat_pc_add_two fetched
  have bound := (m.registers.pc + 2).toNat_lt
  rw [← UInt16.toNat_inj, next]
  exact toNat_ofInt_natCast (next ▸ bound)

theorem storeKey_of_fetched (fetched : m.fetched? = some word) (m' : Machine) :
    m'.storeKey x m.registers.pc.toNat key =
      .done { m' with registers := m'.registers.assign x (.ofNat key) } (m.registers.pc + 2)
        #[] := by
  rw [← following_of_fetched fetched]
  rfl

theorem cycle_of_awaitKey {after : Machine} {events : Array Event}
    (fetched : m.fetched? = some word) (fits : (Instruction.awaitKey x).Fits word)
    (ends : (m.fetch word).awaitKey x m.registers.pc.toNat = .done after next events) :
    m.cycle.answer = .ok () ∧ m.cycle.state = { after with
      registers := { after.registers with pc := next }
      timers := if after.tickPerCycle then after.timers.tick.2 else after.timers
      cycles := after.cycles + 1 } := by
  have attempt : m.attempt word = .done after next events := by
    rw [Machine.attempt, Instruction.ofWord_of_fits fits]
    exact ends
  have done : (m.attempt word).answer = .ok next := congrArg Outcome.answer attempt
  rw [cycle_of_attempt fetched done, attempt]
  exact complete_eq after next

/-- A key has been taken `n` cycles later, and the instruction is over. -/
def Taken (m : Machine) (word : UInt16) (x : Register) (n : Nat) (after : Machine) : Prop :=
  ∃ key, after.keypad.IsLowest key ∧ (after.registers.value x).toNat = key.val ∧
    after.registers.pc.toNat = m.registers.pc.toNat + 2 ∧
    after = { (m.spend word n).take x key with
      keypad := after.keypad, keySource := after.keySource }

theorem taken_of_eq {after : Machine} {pad : Keypad} {asked : Option KeySource}
    (fetched : m.fetched? = some word) (first : pad.first? = some key)
    (state : after = { (m.spend word n).take x key with keypad := pad, keySource := asked }) :
    m.Taken word x n after := by
  subst state
  exact ⟨key, Keypad.first?_eq_some_iff.1 first, toNat_value_take m x key, toNat_pc_add_two fetched,
    rfl⟩

theorem cycle_of_down (fetched : m.fetched? = some word)
    (fits : (Instruction.awaitKey x).Fits word) (first : m.keypad.first? = some key) :
    m.cycle.answer = .ok () ∧ m.cycle.state = (m.spend word 1).take x key := by
  have same : (m.fetch word).keypad.first? = some key := first
  have ends : (m.fetch word).awaitKey x m.registers.pc.toNat =
      (m.fetch word).storeKey x m.registers.pc.toNat key := by
    simp only [awaitKey, same]
  exact cycle_of_awaitKey fetched fits (ends.trans (storeKey_of_fetched fetched _))

theorem cycle_of_given (fetched : m.fetched? = some word)
    (fits : (Instruction.awaitKey x).Fits word) (up : m.keypad.first? = none)
    (asks : m.keySource = some source) (count : source.next.1.length = 16)
    (first : (m.keypad.setAll source.next.1).2.first? = some key) :
    m.cycle.answer = .ok () ∧ m.cycle.state = { (m.spend word 1).take x key with
      keypad := (m.keypad.setAll source.next.1).2, keySource := some source.next.2 } := by
  have answer := (m.keypad.setAll_of_length count).1
  have ends : (m.fetch word).awaitKey x m.registers.pc.toNat =
      ((m.fetch word).asked source).storeKey x m.registers.pc.toNat key := by
    simp only [awaitKey, fetch, up, asks, answer, first, asked]
  exact cycle_of_awaitKey fetched fits (ends.trans (storeKey_of_fetched fetched _))

end Machine
end Chip8
