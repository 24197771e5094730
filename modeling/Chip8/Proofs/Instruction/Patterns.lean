import Chip8.Instruction.Decode
import Mathlib.Tactic.SplitIfs

namespace Chip8

theorem toNat_byteOfInt (value : Int) : ((UInt8.ofInt value).toNat : Int) = value % 256 := by
  have below := Int.emod_lt_of_pos value (show (0 : Int) < 256 by decide)
  have above := Int.emod_nonneg value (show (256 : Int) ≠ 0 by decide)
  have same : (value % 2 ^ 8).toNat < 256 := by omega
  rw [UInt8.ofInt, UInt8.toNat_ofNat_of_lt' same]
  omega

theorem byteOfInt_toNat (a : UInt8) : UInt8.ofInt a.toNat = a := by
  have wrapped := toNat_byteOfInt a.toNat
  have bound := a.toNat_lt
  rw [← UInt8.toNat_inj]
  omega

theorem toNat_ofInt (value : Int) : ((UInt16.ofInt value).toNat : Int) = value % 65536 := by
  have below := Int.emod_lt_of_pos value (show (0 : Int) < 65536 by decide)
  have above := Int.emod_nonneg value (show (65536 : Int) ≠ 0 by decide)
  have same : (value % 2 ^ 16).toNat < 65536 := by omega
  rw [UInt16.ofInt, UInt16.toNat_ofNat_of_lt' same]
  omega

theorem toNat_ofInt_natCast {value : Nat} (h : value < 65536) :
    (UInt16.ofInt value).toNat = value := by
  have wrapped := toNat_ofInt value
  omega

theorem ofInt_toNat (a : UInt16) : UInt16.ofInt a.toNat = a :=
  UInt16.toNat_inj.1 (toNat_ofInt_natCast a.toNat_lt)

namespace Instruction

/-- The bit pattern of an instruction: `00E0`, `1NNN`, `DXYN` and so on. No word fits `unknown`. -/
def Fits (word : UInt16) (ins : Instruction) : Prop :=
  let f := WordFields.ofWord word
  match ins with
  | clear => word = 0x00E0
  | ret => word = 0x00EE
  | jump nnn => f.family.val = 0x1 ∧ f.nnn = nnn
  | call nnn => f.family.val = 0x2 ∧ f.nnn = nnn
  | skipEqByte x nn => f.family.val = 0x3 ∧ f.x = x ∧ f.nn = nn
  | skipNeByte x nn => f.family.val = 0x4 ∧ f.x = x ∧ f.nn = nn
  | skipEq x y => f.family.val = 0x5 ∧ f.x = x ∧ f.y = y ∧ f.n.val = 0x0
  | loadByte x nn => f.family.val = 0x6 ∧ f.x = x ∧ f.nn = nn
  | addByte x nn => f.family.val = 0x7 ∧ f.x = x ∧ f.nn = nn
  | copy x y => f.family.val = 0x8 ∧ f.x = x ∧ f.y = y ∧ f.n.val = 0x0
  | or x y => f.family.val = 0x8 ∧ f.x = x ∧ f.y = y ∧ f.n.val = 0x1
  | and x y => f.family.val = 0x8 ∧ f.x = x ∧ f.y = y ∧ f.n.val = 0x2
  | xor x y => f.family.val = 0x8 ∧ f.x = x ∧ f.y = y ∧ f.n.val = 0x3
  | add x y => f.family.val = 0x8 ∧ f.x = x ∧ f.y = y ∧ f.n.val = 0x4
  | sub x y => f.family.val = 0x8 ∧ f.x = x ∧ f.y = y ∧ f.n.val = 0x5
  | shiftRight x y => f.family.val = 0x8 ∧ f.x = x ∧ f.y = y ∧ f.n.val = 0x6
  | subFrom x y => f.family.val = 0x8 ∧ f.x = x ∧ f.y = y ∧ f.n.val = 0x7
  | shiftLeft x y => f.family.val = 0x8 ∧ f.x = x ∧ f.y = y ∧ f.n.val = 0xE
  | skipNe x y => f.family.val = 0x9 ∧ f.x = x ∧ f.y = y ∧ f.n.val = 0x0
  | loadIndex nnn => f.family.val = 0xA ∧ f.nnn = nnn
  | jumpOffset nnn => f.family.val = 0xB ∧ f.nnn = nnn
  | random x nn => f.family.val = 0xC ∧ f.x = x ∧ f.nn = nn
  | draw x y n => f.family.val = 0xD ∧ f.x = x ∧ f.y = y ∧ f.n = n
  | skipPressed x => f.family.val = 0xE ∧ f.x = x ∧ f.nn.toNat = 0x9E
  | skipReleased x => f.family.val = 0xE ∧ f.x = x ∧ f.nn.toNat = 0xA1
  | readDelay x => f.family.val = 0xF ∧ f.x = x ∧ f.nn.toNat = 0x07
  | awaitKey x => f.family.val = 0xF ∧ f.x = x ∧ f.nn.toNat = 0x0A
  | setDelay x => f.family.val = 0xF ∧ f.x = x ∧ f.nn.toNat = 0x15
  | setSound x => f.family.val = 0xF ∧ f.x = x ∧ f.nn.toNat = 0x18
  | addIndex x => f.family.val = 0xF ∧ f.x = x ∧ f.nn.toNat = 0x1E
  | loadGlyph x => f.family.val = 0xF ∧ f.x = x ∧ f.nn.toNat = 0x29
  | storeDecimal x => f.family.val = 0xF ∧ f.x = x ∧ f.nn.toNat = 0x33
  | storeRegisters x => f.family.val = 0xF ∧ f.x = x ∧ f.nn.toNat = 0x55
  | loadRegisters x => f.family.val = 0xF ∧ f.x = x ∧ f.nn.toNat = 0x65
  | unknown _ => False

variable {word : UInt16} {ins : Instruction}

theorem ofWord_of_fits (h : ins.Fits word) : ofWord word = ins := by
  cases ins
  case clear => cases h; rfl
  case ret => cases h; rfl
  case unknown => exact h.elim
  all_goals
    simp only [Fits] at h
    simp [ofWord, arithmetic, transfer, ← UInt8.toNat_inj, h]

private theorem arithmetic_fits (family : (WordFields.ofWord word).family.val = 0x8) :
    arithmetic word (WordFields.ofWord word).x (WordFields.ofWord word).y
      (WordFields.ofWord word).n = unknown word ∨
    (arithmetic word (WordFields.ofWord word).x (WordFields.ofWord word).y
      (WordFields.ofWord word).n).Fits word := by
  unfold arithmetic
  split
  case h_10 => exact Or.inl rfl
  all_goals exact Or.inr ⟨family, rfl, rfl, ‹_›⟩

private theorem transfer_fits (family : (WordFields.ofWord word).family.val = 0xF) :
    transfer word (WordFields.ofWord word).x (WordFields.ofWord word).nn = unknown word ∨
    (transfer word (WordFields.ofWord word).x (WordFields.ofWord word).nn).Fits word := by
  unfold transfer
  split
  case h_10 => exact Or.inl rfl
  all_goals exact Or.inr ⟨family, rfl, ‹_›⟩

theorem ofWord_fits (word : UInt16) :
    ofWord word = unknown word ∨ (ofWord word).Fits word := by
  have bound : (WordFields.ofWord word).family.val < 16 := (WordFields.ofWord word).family.isLt
  unfold ofWord
  dsimp only
  split
  case h_1 =>
    split_ifs with clear ret
    · exact Or.inr clear
    · exact Or.inr ret
    · exact Or.inl rfl
  case h_6 family =>
    split_ifs with n
    · exact Or.inr ⟨family, rfl, rfl, n⟩
    · exact Or.inl rfl
  case h_9 family => exact arithmetic_fits family
  case h_10 family =>
    split_ifs with n
    · exact Or.inr ⟨family, rfl, rfl, n⟩
    · exact Or.inl rfl
  case h_15 family =>
    split_ifs with pressed released
    · exact Or.inr ⟨family, rfl, congrArg UInt8.toNat pressed⟩
    · exact Or.inr ⟨family, rfl, congrArg UInt8.toNat released⟩
    · exact Or.inl rfl
  case h_16 =>
    apply transfer_fits
    simp only [imp_false] at *
    omega
  case h_14 family => exact Or.inr ⟨family, rfl, rfl, rfl⟩
  case h_2 family => exact Or.inr ⟨family, rfl⟩
  case h_3 family => exact Or.inr ⟨family, rfl⟩
  case h_11 family => exact Or.inr ⟨family, rfl⟩
  case h_12 family => exact Or.inr ⟨family, rfl⟩
  all_goals exact Or.inr ⟨‹_›, rfl, rfl⟩

theorem ofWord_eq_iff (known : ∀ w, ins ≠ unknown w) : ofWord word = ins ↔ ins.Fits word := by
  constructor
  · rintro rfl
    rcases ofWord_fits word with unknown | fits
    · exact absurd unknown (known word)
    · exact fits
  · exact ofWord_of_fits

theorem not_fits_iff :
    (∀ ins : Instruction, ¬ ins.Fits word) ↔ ∃ w, ofWord word = unknown w := by
  constructor
  · intro none
    exact ⟨word, (ofWord_fits word).resolve_right (none _)⟩
  · rintro ⟨w, decoded⟩ ins fits
    cases (ofWord_of_fits fits).symm.trans decoded
    exact fits

theorem decode_toNat (word : UInt16) : decode word.toNat = ofWord word := by
  rw [decode, ofInt_toNat]

end Instruction
end Chip8
