import Chip8.Proofs.Instruction.Patterns
import Chip8.Proofs.Machine.Frame

namespace Chip8

/-! ## Bytes as numbers -/

theorem toNat_byte_add (a b : UInt8) :
    a.toNat + b.toNat = 256 * (if 255 < a.toNat + b.toNat then 1 else 0) + (a + b).toNat := by
  have first := a.toNat_lt
  have second := b.toNat_lt
  rw [UInt8.toNat_add]
  split_ifs <;> omega

theorem toNat_byte_sub (a b : UInt8) :
    (a.toNat : Int) - b.toNat =
      (a - b).toNat - 256 * (1 - (if b.toNat ≤ a.toNat then 1 else 0 : Nat)) := by
  have first := a.toNat_lt
  have second := b.toNat_lt
  rw [UInt8.toNat_sub]
  split_ifs <;> omega

theorem toNat_shiftRight_one (a : UInt8) : (a >>> 1).toNat = a.toNat / 2 :=
  UInt8.toNat_shiftRight a 1

theorem toNat_shiftLeft_one (a : UInt8) : (a <<< 1).toNat = 2 * a.toNat % 256 := by
  rw [UInt8.toNat_shiftLeft]
  show a.toNat <<< 1 % 256 = _
  rw [Nat.shiftLeft_eq, Nat.mul_comm]

theorem byte_odd_iff (a : UInt8) : (a % 2 == 1) = true ↔ a.toNat % 2 = 1 := by
  rw [beq_iff_eq, ← UInt8.toNat_inj, UInt8.toNat_mod]
  rfl

theorem byte_le_iff (a b : UInt8) : decide (a ≤ b) = true ↔ a.toNat ≤ b.toNat :=
  decide_eq_true_iff.trans UInt8.le_iff_toNat_le

/-! ## Registers as numbers -/

namespace Registers

variable {k : Register} {up : Bool}

def number (r : Registers) (k : Register) : Nat := (r.value k).toNat

theorem number_assign_self (r : Registers) (x : Register) (value : UInt8) :
    (r.assign x value).number x = value.toNat := by
  rw [number, value_assign, if_pos rfl]

theorem number_flag_raise {p : Prop} [Decidable p] (r : Registers) (h : up = true ↔ p) :
    (r.raise up).number flag = if p then 1 else 0 := by
  rw [number, Machine.flag_raise]
  by_cases holds : p
  · rw [if_pos (h.2 holds), if_pos holds]
    rfl
  · rw [if_neg (holds ∘ h.1), if_neg holds]
    rfl

theorem number_raise_of_ne (r : Registers) (up : Bool) (h : k ≠ flag) :
    (r.raise up).number k = r.number k := by
  rw [number, raise, value_assign, if_neg h, number]

theorem number_shift (r : Registers) {x y : Register} (result : UInt8) (out : Bool)
    (operand : k = x ∨ k = y) (h : k ≠ flag) :
    (Machine.shift r x y result out).number k = result.toNat := by
  rw [Machine.shift, number_raise_of_ne _ _ h, number, value_assign, value_assign]
  rcases operand with rfl | rfl
  · rw [if_pos rfl]
  · rw [if_pos rfl, ite_self]

theorem number_difference (r : Registers) (x : Register) (a b : UInt8) :
    let after := (r.assign x (a - b)).raise (b ≤ a)
    after.number flag = (if b.toNat ≤ a.toNat then 1 else 0) ∧
      (x ≠ flag → (a.toNat : Int) - b.toNat = after.number x - 256 * (1 - after.number flag)) := by
  intro after
  have borrow : after.number flag = _ := number_flag_raise _ (byte_le_iff b a)
  refine ⟨borrow, fun other => ?_⟩
  have result : after.number x = _ := number_raise_of_ne _ _ other
  rw [borrow, result, number_assign_self]
  exact toNat_byte_sub a b

end Registers

/-! ## Arithmetic instructions -/

namespace Instruction

def isArithmetic : Instruction → Bool
  | addByte _ _ | copy _ _ | or _ _ | and _ _ | xor _ _ => true
  | add _ _ | sub _ _ | subFrom _ _ | shiftRight _ _ | shiftLeft _ _ => true
  | _ => false

open Registers (flag) in
/-- Where the flag register is an operand, the flag wins over the result. -/
def Computes (before after : Register → Nat) : Instruction → Prop
  | addByte x nn => after x = (before x + nn.toNat) % 256
  | copy x y => after x = before y
  | or x y => after x = before x ||| before y
  | and x y => after x = before x &&& before y
  | xor x y => after x = before x ^^^ before y
  | add x y =>
    after flag = (if 255 < before x + before y then 1 else 0) ∧
    (x ≠ flag → before x + before y = 256 * after flag + after x)
  | sub x y =>
    after flag = (if before y ≤ before x then 1 else 0) ∧
    (x ≠ flag → (before x : Int) - before y = after x - 256 * (1 - after flag))
  | subFrom x y =>
    after flag = (if before x ≤ before y then 1 else 0) ∧
    (x ≠ flag → (before y : Int) - before x = after x - 256 * (1 - after flag))
  | shiftRight x y =>
    after flag = before y % 2 ∧
    (x ≠ flag → after x = before y / 2) ∧ (y ≠ flag → after y = before y / 2)
  | shiftLeft x y =>
    after flag = before y / 128 ∧
    (x ≠ flag → after x = 2 * before y % 256) ∧ (y ≠ flag → after y = 2 * before y % 256)
  | _ => False

end Instruction

namespace Machine

open Registers

theorem computes_execute {ins : Instruction} (arithmetic : ins.isArithmetic = true) (m : Machine)
    (pc : Int) :
    ins.Computes m.registers.number (m.execute ins pc).state.registers.number := by
  let r := m.registers
  let after := (m.execute ins pc).state.registers
  cases ins
  case addByte x nn => exact (number_assign_self r x _).trans (UInt8.toNat_add _ _)
  case copy x y => exact number_assign_self r x _
  case or x y => exact (number_assign_self r x _).trans (UInt8.toNat_or _ _)
  case and x y => exact (number_assign_self r x _).trans (UInt8.toNat_and _ _)
  case xor x y => exact (number_assign_self r x _).trans (UInt8.toNat_xor _ _)
  case add x y =>
    have carry : after.number flag = _ := number_flag_raise _ decide_eq_true_iff
    refine ⟨carry, fun other => ?_⟩
    have result : after.number x = _ := number_raise_of_ne _ _ other
    rw [carry, result, number_assign_self]
    exact toNat_byte_add _ _
  case sub x y => exact number_difference r x (r.value x) (r.value y)
  case subFrom x y => exact number_difference r x (r.value y) (r.value x)
  case shiftRight x y =>
    have half := toNat_shiftRight_one (r.value y)
    refine ⟨?_, fun other => (number_shift r _ _ (.inl rfl) other).trans half,
      fun other => (number_shift r _ _ (.inr rfl) other).trans half⟩
    have out : after.number flag = _ := number_flag_raise _ (byte_odd_iff (r.value y))
    refine out.trans ?_
    show _ = (r.value y).toNat % 2
    split_ifs <;> omega
  case shiftLeft x y =>
    have double := toNat_shiftLeft_one (r.value y)
    refine ⟨?_, fun other => (number_shift r _ _ (.inl rfl) other).trans double,
      fun other => (number_shift r _ _ (.inr rfl) other).trans double⟩
    have bound := (r.value y).toNat_lt
    have out : after.number flag = _ := number_flag_raise _ (byte_le_iff 128 (r.value y))
    refine out.trans ?_
    show (if 128 ≤ (r.value y).toNat then 1 else 0) = (r.value y).toNat / 128
    split_ifs <;> omega
  all_goals cases arithmetic

theorem execute_of_isArithmetic {ins : Instruction} (arithmetic : ins.isArithmetic = true)
    (m : Machine) (pc : Int) :
    ∃ v, m.execute ins pc =
      .done { m with registers := { m.registers with v } } (.ofInt (pc + 2)) #[] := by
  cases ins
  case addByte | copy | or | and | xor | add | sub | subFrom | shiftRight | shiftLeft =>
    exact ⟨_, rfl⟩
  all_goals cases arithmetic

theorem arithmetic_is_exact (m : Machine) (ins : Instruction) (word : UInt16) (pc : Int)
    (arithmetic : ins.isArithmetic = true) (fits : ins.Fits word) :
    let o := m.execute (.ofWord word) pc
    o.answer = .ok (.ofInt (pc + 2)) ∧
    ins.Computes m.registers.number o.state.registers.number ∧
    (∀ k, ins.writes k = false → o.state.registers.value k = m.registers.value k) ∧
    o.state = { m with registers := { m.registers with v := o.state.registers.v } } := by
  rw [Instruction.ofWord_of_fits fits]
  intro o
  obtain ⟨v, done⟩ := execute_of_isArithmetic arithmetic m pc
  refine ⟨congrArg Outcome.answer done, computes_execute arithmetic m pc,
    (execute_frame m ins pc).value, ?_⟩
  show (m.execute ins pc).state = { m with registers :=
    { m.registers with v := (m.execute ins pc).state.registers.v } }
  rw [done]
  rfl

theorem arithmetic_is_exact_flag :
    let m : Machine := { Machine.initial (.stream (fun _ => 0) 0) with
      registers := { Registers.initial with v := Vector.replicate 16 200 }.assign flag 100 }
    let after (word : UInt16) := (m.execute (.ofWord word) 0x200).state.registers
    (Instruction.add flag 3).Fits 0x8F34 ∧ (after 0x8F34).number flag = 1 ∧
      (Instruction.sub 3 flag).Fits 0x83F5 ∧ (after 0x83F5).number flag = 1 ∧
      (200 : Int) - 100 = (after 0x83F5).number 3 - 256 * (1 - (after 0x83F5).number flag) ∧
      (Instruction.shiftLeft flag 3).Fits 0x8F3E ∧ (after 0x8F3E).number flag = 200 / 128 ∧
      (after 0x8F3E).number 3 = 2 * 200 % 256 ∧ (after 0x8F3E).value 4 = 200 := by
  intro m after
  have add : (Instruction.add flag 3).Fits 0x8F34 := ⟨rfl, rfl, rfl, rfl⟩
  have sub : (Instruction.sub 3 flag).Fits 0x83F5 := ⟨rfl, rfl, rfl, rfl⟩
  have shift : (Instruction.shiftLeft flag 3).Fits 0x8F3E := ⟨rfl, rfl, rfl, rfl⟩
  obtain ⟨-, ⟨carry, -⟩, -⟩ := arithmetic_is_exact m _ _ 0x200 rfl add
  obtain ⟨-, ⟨borrow, difference⟩, -⟩ := arithmetic_is_exact m _ _ 0x200 rfl sub
  obtain ⟨-, ⟨out, -, double⟩, others, -⟩ := arithmetic_is_exact m _ _ 0x200 rfl shift
  exact ⟨add, carry, sub, borrow, difference (by decide), shift, out, double (by decide),
    others 4 rfl⟩

end Machine
end Chip8
