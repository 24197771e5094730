import Chip8.Memory
import Mathlib.Tactic.SplitIfs

namespace Chip8.Memory

def wordAt? (m : Memory) (address : Nat) : Option UInt16 :=
  if h : address + 1 < size then
    some (.ofNat (256 * (m.bytes.get ⟨address, Nat.lt_of_succ_lt h⟩).toNat +
      (m.bytes.get ⟨address + 1, h⟩).toNat))
  else none

/-- The address that a fault names for a block that does not end in memory. -/
def strayAddress (start length : Nat) : Nat := if size ≤ start then start else start + length - 1

theorem inRange_natCast {address : Nat} : InRange (address : Int) ↔ address < size := by
  unfold InRange
  omega

theorem read_natCast (m : Memory) {address : Nat} (h : address < size) :
    m.read (address : Int) = .ok (m.bytes.get ⟨address, h⟩) :=
  dif_pos (inRange_natCast.2 h)

theorem read_natCast_of_le (m : Memory) {address : Nat} (h : size ≤ address) :
    m.read (address : Int) = .error (.outOfRange address) := by
  rw [read, dif_neg]
  rw [inRange_natCast]
  omega

theorem readWord_natCast (m : Memory) (address : Nat) :
    m.readWord (address : Int) = match m.wordAt? address with
      | some word => .ok word
      | none => .error (.outOfRange (if size ≤ address then address else size)) := by
  unfold readWord wordAt?
  have next : (address : Int) + 1 = ((address + 1 : Nat) : Int) := rfl
  by_cases inside : address + 1 < size
  · rw [next, read_natCast m inside, read_natCast m (by omega), dif_pos inside]
    rfl
  · rw [dif_neg inside]
    by_cases first : size ≤ address
    · rw [read_natCast_of_le m first, if_pos first]
      rfl
    · have last : address + 1 = size := by omega
      rw [next, read_natCast m (by omega), last, read_natCast_of_le m (Nat.le_refl _), if_neg first]
      rfl

theorem strayEnd?_natCast (address : Nat) {length : Nat} (h : 0 < length) :
    strayEnd? (address : Int) length =
      if address + length ≤ size then none else some (strayAddress address length : Int) := by
  unfold strayEnd? strayAddress
  have last : (address : Int) + length - 1 = ((address + length - 1 : Nat) : Int) := by omega
  rw [last]
  simp only [inRange_natCast]
  split_ifs <;> first | rfl | omega

theorem readBlock_natCast (m : Memory) (address length : Nat) :
    m.readBlock (address : Int) (length : Int) =
      if length = 0 ∨ address + length ≤ size then
        .ok ((m.bytes.toList.drop address).take length)
      else .error (.outOfRange (strayAddress address length)) := by
  unfold readBlock
  by_cases empty : length = 0
  · simp [empty]
  · rw [if_neg (by omega), Int.toNat_natCast, Int.toNat_natCast,
      strayEnd?_natCast address (Nat.pos_of_ne_zero empty)]
    by_cases fits : address + length ≤ size
    · rw [if_pos fits, if_pos (Or.inr fits)]
    · rw [if_neg fits, if_neg (not_or_intro empty fits)]

theorem writeBlock_natCast (m : Memory) (address : Nat) (data : List UInt8) (h : data ≠ []) :
    m.writeBlock (address : Int) data =
      if address + data.length ≤ size then
        (.ok (), { m with bytes := overlay m.bytes address data })
      else (.error (.outOfRange (strayAddress address data.length)), m) := by
  unfold writeBlock
  rw [if_neg (by simpa using h), strayEnd?_natCast address (List.length_pos_iff.2 h)]
  split_ifs <;> rfl

theorem get_set (bytes : Vector UInt8 size) (k : Nat) (h : k < size) (value : UInt8)
    (a : Fin size) : (bytes.set k value h).get a = if a.val = k then value else bytes.get a := by
  show (bytes.set k value h)[a.val] = if a.val = k then value else bytes[a.val]
  rw [Vector.getElem_set]
  simp only [eq_comm]

theorem get_overlay (bytes : Vector UInt8 size) (start : Nat) (data : List UInt8) (a : Fin size) :
    (overlay bytes start data).get a =
      if start ≤ a.val then data[a.val - start]?.getD (bytes.get a) else bytes.get a := by
  induction data generalizing bytes start with
  | nil => simp [overlay]
  | cons value rest ih =>
    unfold overlay
    by_cases inside : start < size
    · rw [dif_pos inside, ih, get_set]
      rcases Nat.lt_trichotomy a.val start with below | here | above
      · rw [if_neg (by omega), if_neg (by omega), if_neg (by omega)]
      · rw [if_neg (by omega), if_pos here, if_pos (by omega), here, Nat.sub_self]
        rfl
      · have next : a.val - start = a.val - (start + 1) + 1 := by omega
        rw [if_pos (by omega), if_neg (by omega), if_pos (by omega), next]
        rfl
    · have bound := a.isLt
      rw [dif_neg inside, if_neg (by omega)]

theorem get_overlay_of_outside {bytes : Vector UInt8 size} {start : Nat} {data : List UInt8}
    {a : Fin size} (h : ¬ (start ≤ a.val ∧ a.val < start + data.length)) :
    (overlay bytes start data).get a = bytes.get a := by
  rw [get_overlay]
  split_ifs with from_start
  · rw [List.getElem?_eq_none (by omega)]
    rfl
  · rfl

theorem get_writeBlock_of_outside (m : Memory) {address : Nat} {data : List UInt8} {a : Fin size}
    (h : ¬ (address ≤ a.val ∧ a.val < address + data.length)) :
    (m.writeBlock address data).2.bytes.get a = m.bytes.get a := by
  by_cases empty : data = []
  · rw [empty]
    rfl
  · rw [writeBlock_natCast m address data empty]
    split_ifs
    · exact get_overlay_of_outside h
    · rfl

end Chip8.Memory
