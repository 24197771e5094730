import Chip8.Proofs.Framebuffer.Fitting
import Chip8.Proofs.Instruction.Patterns
import Chip8.Proofs.Machine.Frame

namespace Chip8.Machine

variable {m : Machine} {n : Nat}

def spriteBits (m : Machine) (n : Nat) : Finset (Nat × Nat) :=
  Framebuffer.setBits (fun row => m.memory.bytes.toList.getD (m.registers.i.toNat + row) 0) n

def spot (m : Machine) (x y : Register) (bit : Nat × Nat) : Framebuffer.Spot 64 32 :=
  (Fin.ofNat 64 ((m.registers.value x).toNat + bit.1),
    Fin.ofNat 32 ((m.registers.value y).toNat + bit.2))

theorem length_block (h : n = 0 ∨ m.registers.i.toNat + n ≤ Memory.size) :
    (m.block n).length = n := by
  have stored : m.memory.bytes.toList.length = Memory.size := Vector.length_toList
  rw [block, List.length_take, List.length_drop, stored]
  omega

theorem bitsOf_block (h : n = 0 ∨ m.registers.i.toNat + n ≤ Memory.size) :
    Framebuffer.bitsOf (m.block n) = m.spriteBits n := by
  rw [Framebuffer.bitsOf, length_block h, spriteBits, Framebuffer.setBits, Framebuffer.setBits]
  apply Finset.filter_congr
  intro bit member
  have inside : bit.2 < n := Finset.mem_range.1 (Finset.mem_product.1 member).2
  have byte : (m.block n).getD bit.2 0 =
      m.memory.bytes.toList.getD (m.registers.i.toNat + bit.2) 0 := by
    simp only [List.getD_eq_getElem?_getD, block, List.getElem?_take_of_lt inside,
      List.getElem?_drop]
  rw [byte]

theorem wrap_eq_spot (m : Machine) (x y : Register) (bit : Nat × Nat) :
    m.screen.wrap ((m.registers.value x).toNat + bit.1) ((m.registers.value y).toNat + bit.2) =
      m.spot x y bit :=
  Framebuffer.wrap_eq_iff.2 ⟨rfl, rfl⟩

theorem covered_block (h : n = 0 ∨ m.registers.i.toNat + n ≤ Memory.size) (x y : Register) :
    m.screen.covered (m.registers.value x).toNat (m.registers.value y).toNat (m.block n) =
      (m.spriteBits n).image (m.spot x y) := by
  rw [Framebuffer.covered, bitsOf_block h]
  exact Finset.image_congr fun bit _ => m.wrap_eq_spot x y bit

theorem apart_block (h : n = 0 ∨ m.registers.i.toNat + n ≤ Memory.size) (low : n ≤ 32)
    (x y : Register) :
    Set.InjOn (fun bit : Nat × Nat => m.screen.wrap ((m.registers.value x).toNat + bit.1)
      ((m.registers.value y).toNat + bit.2)) (Framebuffer.bitsOf (m.block n)) :=
  Framebuffer.injOn_wrap (by decide) ((length_block h).trans_le low)

theorem injOn_spot (h : n = 0 ∨ m.registers.i.toNat + n ≤ Memory.size) (low : n ≤ 32)
    (x y : Register) : Set.InjOn (m.spot x y) (m.spriteBits n) := by
  have apart := apart_block h low x y
  simp only [wrap_eq_spot, bitsOf_block h] at apart
  exact apart

theorem sprite_toggles_its_pixels (m : Machine) (word : UInt16) (x y : Register) (n : Fin 16)
    (pc : Int) (fits : (Instruction.draw x y n).Fits word)
    (inside : n.val = 0 ∨ m.registers.i.toNat + n.val ≤ Memory.size) :
    let o := m.execute (.ofWord word) pc
    let after := o.state.screen
    let bits := m.spriteBits n
    let out := Framebuffer.wentOut m.screen after
    o.answer = .ok (UInt16.ofInt (pc + 2)) ∧
    Set.InjOn (m.spot x y) bits ∧
    (∀ (px : Fin 64) (py : Fin 32), ∃ old, m.screen.pixel px.val py.val = .ok old ∧
      after.pixel px.val py.val = .ok (old ^^ decide ((px, py) ∈ bits.image (m.spot x y)))) ∧
    o.state.registers.value Registers.flag = (if out.Nonempty then 1 else 0) ∧
    (after.litCount : Int) = m.screen.litCount + bits.card - 2 * out.card ∧
    after.dirty = true ∧
    (∀ k ≠ Registers.flag, o.state.registers.value k = m.registers.value k) ∧
    o.state = { m with
      screen := after, registers := { m.registers with v := o.state.registers.v } } := by
  intro o
  let drawn := m.screen.draw (m.registers.value x).toNat (m.registers.value y).toNat (m.block n)
  have done : o = { m with screen := drawn.2 }.continueWith (m.registers.raise drawn.1) pc := by
    rw [show o = m.execute (.draw x y n) pc from by rw [← Instruction.ofWord_of_fits fits]]
    exact execute_draw inside x y pc
  clear_value o
  subst done
  intro after bits out
  have low : n.val ≤ 32 := by omega
  have apart := apart_block inside low x y
  refine ⟨rfl, injOn_spot inside low x y, ?_, ?_, ?_, rfl, ?_, rfl⟩
  · intro px py
    refine ⟨m.screen.lit (px, py), Framebuffer.pixel_eq_lit m.screen (px, py), ?_⟩
    rw [← covered_block inside, ← Framebuffer.lit_draw_of_apart apart]
    exact Framebuffer.pixel_eq_lit drawn.2 (px, py)
  · have hit : drawn.1 = decide out.Nonempty :=
      Bool.eq_iff_iff.2 ((Framebuffer.hit_draw_of_apart apart).trans decide_eq_true_iff.symm)
    refine (flag_raise m.registers drawn.1).trans ?_
    simp [hit]
  · have counted := Framebuffer.litCount_draw apart
    rwa [bitsOf_block inside] at counted
  · intro k other
    refine (Registers.value_assign _ _ _ _).trans ?_
    rw [if_neg other]

theorem sprite_toggles_its_pixels_edge :
    let m : Machine := { Machine.initial (.stream (fun _ => 0) 0) with
      registers := { Registers.initial with v := (Vector.replicate 16 32).set 15 62 }
      screen := ((default : Screen).draw 62 0 [0xF0]).2 }
    let o := m.execute (.ofWord 0xDF05) 0x200
    let out := Framebuffer.wentOut m.screen o.state.screen
    (Instruction.draw Registers.flag 0 5).Fits 0xDF05 ∧
      m.registers.i.toNat + 5 ≤ Memory.size ∧ m.screen.litCount = 4 ∧
      (m.spriteBits 5).card = 14 ∧ o.state.screen.litCount = 10 ∧ out.card = 4 ∧
      o.state.registers.value Registers.flag = 1 := by
  intro m o out
  have fits : (Instruction.draw Registers.flag 0 5).Fits 0xDF05 := ⟨rfl, rfl, rfl, rfl⟩
  have inside : m.registers.i.toNat + 5 ≤ Memory.size := by decide
  have before : m.screen.litCount = 4 := by decide +kernel
  have bits : (m.spriteBits 5).card = 14 := by decide +kernel
  have after : o.state.screen.litCount = 10 := by decide +kernel
  obtain ⟨-, -, -, flag, count, -⟩ := sprite_toggles_its_pixels m 0xDF05 Registers.flag 0 5 0x200
    fits (Or.inr inside)
  have gone : out.card = 4 := by
    rw [before, after] at count
    have counted : (10 : Int) = (4 : Nat) + (14 : Nat) - 2 * (out.card : Int) := by
      rw [← bits]
      exact count
    omega
  have some : out.Nonempty := Finset.card_pos.1 (by rw [gone]; decide)
  exact ⟨fits, inside, before, bits, after, gone, flag.trans (if_pos some)⟩

end Chip8.Machine
