import Chip8.Proofs.Instruction.Patterns
import Chip8.Proofs.Text.Fields
import Mathlib.Data.List.Nodup

namespace Chip8.Instruction

structure Row where
  pattern : String
  mnemonic : String
  instruction : WordFields → Instruction

def opcodeTable : List Row := [
  ⟨"00E0", "CLS", fun _ => clear⟩,
  ⟨"00EE", "RET", fun _ => ret⟩,
  ⟨"1NNN", "JP", fun f => jump f.nnn⟩,
  ⟨"2NNN", "CALL", fun f => call f.nnn⟩,
  ⟨"3XNN", "SE_IMM", fun f => skipEqByte f.x f.nn⟩,
  ⟨"4XNN", "SNE_IMM", fun f => skipNeByte f.x f.nn⟩,
  ⟨"5XY0", "SE_REG", fun f => skipEq f.x f.y⟩,
  ⟨"6XNN", "LD_IMM", fun f => loadByte f.x f.nn⟩,
  ⟨"7XNN", "ADD_IMM", fun f => addByte f.x f.nn⟩,
  ⟨"8XY0", "LD_REG", fun f => copy f.x f.y⟩,
  ⟨"8XY1", "OR", fun f => or f.x f.y⟩,
  ⟨"8XY2", "AND", fun f => and f.x f.y⟩,
  ⟨"8XY3", "XOR", fun f => xor f.x f.y⟩,
  ⟨"8XY4", "ADD_REG", fun f => add f.x f.y⟩,
  ⟨"8XY5", "SUB", fun f => sub f.x f.y⟩,
  ⟨"8XY6", "SHR", fun f => shiftRight f.x f.y⟩,
  ⟨"8XY7", "SUBN", fun f => subFrom f.x f.y⟩,
  ⟨"8XYE", "SHL", fun f => shiftLeft f.x f.y⟩,
  ⟨"9XY0", "SNE_REG", fun f => skipNe f.x f.y⟩,
  ⟨"ANNN", "LD_I", fun f => loadIndex f.nnn⟩,
  ⟨"BNNN", "JP_V0", fun f => jumpOffset f.nnn⟩,
  ⟨"CXNN", "RND", fun f => random f.x f.nn⟩,
  ⟨"DXYN", "DRW", fun f => draw f.x f.y f.n⟩,
  ⟨"EX9E", "SKP", fun f => skipPressed f.x⟩,
  ⟨"EXA1", "SKNP", fun f => skipReleased f.x⟩,
  ⟨"FX07", "LD_VX_DT", fun f => readDelay f.x⟩,
  ⟨"FX0A", "LD_VX_K", fun f => awaitKey f.x⟩,
  ⟨"FX15", "LD_DT_VX", fun f => setDelay f.x⟩,
  ⟨"FX18", "LD_ST_VX", fun f => setSound f.x⟩,
  ⟨"FX1E", "ADD_I_VX", fun f => addIndex f.x⟩,
  ⟨"FX29", "LD_F_VX", fun f => loadGlyph f.x⟩,
  ⟨"FX33", "LD_B_VX", fun f => storeDecimal f.x⟩,
  ⟨"FX55", "LD_MEM_VX", fun f => storeRegisters f.x⟩,
  ⟨"FX65", "LD_VX_MEM", fun f => loadRegisters f.x⟩]

def hexDigits (word : Nat) : List Nat :=
  [word / 4096 % 16, word / 256 % 16, word / 16 % 16, word % 16]

/-- The letters of operands stand for any digit, every other place for its own. -/
def StandsFor (place : Char) (digit : Nat) : Prop :=
  place ∈ ['X', 'Y', 'N'] ∨ Hex.digitOf place = digit

def Row.Matches (row : Row) (word : Nat) : Prop :=
  List.Forall₂ StandsFor row.pattern.toList (hexDigits word)

variable {word : UInt16} {ins : Instruction} {row row' : Row}

/-! ## Fields -/

theorem nn_ofWord (word : UInt16) :
    (WordFields.ofWord word).nn.toNat =
      16 * (WordFields.ofWord word).y.val + (WordFields.ofWord word).n.val := by
  simp only [WordFields.ofWord, UInt8.toNat_ofNat']
  omega

theorem nnn_ofWord (word : UInt16) :
    (WordFields.ofWord word).nnn.val =
      256 * (WordFields.ofWord word).x.val + (WordFields.ofWord word).nn.toNat := by
  simp only [WordFields.ofWord, UInt8.toNat_ofNat']
  omega

theorem toNat_ofWord (word : UInt16) :
    word.toNat = 4096 * (WordFields.ofWord word).family.val + (WordFields.ofWord word).nnn.val := by
  have bound := word.toNat_lt
  simp only [WordFields.ofWord]
  omega

/-! ## Rows -/

theorem mnemonic_of_mem (f : WordFields) :
    ∀ row ∈ opcodeTable, (row.instruction f).mnemonic = row.mnemonic := by
  simp [opcodeTable, mnemonic]

theorem ne_unknown_of_mem (f : WordFields) (w : UInt16) :
    ∀ row ∈ opcodeTable, row.instruction f ≠ unknown w := by
  simp [opcodeTable]

theorem mnemonic_ne_unknown : ∀ row ∈ opcodeTable, row.mnemonic ≠ "UNKNOWN" := by
  simp [opcodeTable]

theorem nodup_mnemonics : (opcodeTable.map Row.mnemonic).Nodup := by decide

theorem matches_iff_fits (word : UInt16) : ∀ row ∈ opcodeTable,
    row.Matches word.toNat ↔ (row.instruction (WordFields.ofWord word)).Fits word := by
  have bound := word.toNat_lt
  simp [opcodeTable, Row.Matches, hexDigits, StandsFor, Hex.digitOf, Fits, WordFields.ofWord,
    ← UInt16.toNat_inj, eq_comm]
  omega

theorem exists_row_of_fits (fits : ins.Fits word) :
    ∃ row ∈ opcodeTable, row.instruction (WordFields.ofWord word) = ins ∧
      row.Matches word.toNat := by
  have read : ∃ row ∈ opcodeTable, row.instruction (WordFields.ofWord word) = ins := by
    simp only [opcodeTable, List.mem_cons, List.not_mem_nil, or_false, exists_eq_or_imp,
      exists_eq_left]
    cases ins <;> simp only [Fits] at fits <;> simp [fits]
  obtain ⟨row, mem, rfl⟩ := read
  exact ⟨row, mem, rfl, (matches_iff_fits word row mem).2 fits⟩

/-! ## Words -/

theorem encode_of_fits (fits : ins.Fits word) : encode ins = word := by
  have fields := toNat_ofWord word
  have address := nnn_ofWord word
  have low := nn_ofWord word
  have bound := word.toNat_lt
  cases ins
  case clear => exact fits.symm
  case ret => exact fits.symm
  case unknown => exact fits.elim
  all_goals
    simp only [Fits] at fits
    apply UInt16.toNat_inj.1
    show (UInt16.ofNat (4096 * _ + _)).toNat = _
    simp only [UInt16.toNat_ofNat']
    grind

theorem encode_ofWord (word : UInt16) : encode (ofWord word) = word := by
  rcases ofWord_fits word with unknown | fits
  · rw [unknown]
    rfl
  · exact encode_of_fits fits

theorem matches_iff_mnemonic (mem : row ∈ opcodeTable) :
    row.Matches word.toNat ↔ (ofWord word).mnemonic = row.mnemonic := by
  constructor
  · intro fits
    rw [ofWord_of_fits ((matches_iff_fits word row mem).1 fits), mnemonic_of_mem _ row mem]
  · intro named
    rcases ofWord_fits word with unknown | fits
    · rw [unknown] at named
      exact absurd named.symm (mnemonic_ne_unknown row mem)
    · obtain ⟨row', mem', same, fits'⟩ := exists_row_of_fits fits
      rw [← same, mnemonic_of_mem _ row' mem'] at named
      cases List.inj_on_of_nodup_map nodup_mnemonics mem' mem named
      exact fits'

theorem mnemonic_eq_unknown_iff (word : UInt16) :
    (ofWord word).mnemonic = "UNKNOWN" ↔ ∀ row ∈ opcodeTable, ¬ row.Matches word.toNat := by
  constructor
  · intro unknown row mem fits
    rw [matches_iff_mnemonic mem, unknown] at fits
    exact mnemonic_ne_unknown row mem fits.symm
  · intro none
    rcases ofWord_fits word with unknown | fits
    · rw [unknown]
      rfl
    · obtain ⟨row, mem, -, fits⟩ := exists_row_of_fits fits
      exact absurd fits (none row mem)

theorem pairwise_not_matches (word : UInt16) :
    opcodeTable.Pairwise fun row row' => ¬ (row.Matches word.toNat ∧ row'.Matches word.toNat) := by
  have distinct := List.pairwise_map.1 nodup_mnemonics
  refine distinct.imp_of_mem fun mem mem' differ => ?_
  rintro ⟨fits, fits'⟩
  rw [matches_iff_mnemonic mem] at fits
  rw [matches_iff_mnemonic mem'] at fits'
  exact differ (fits.symm.trans fits')

theorem decode_follows_opcodeTable (code : Int) :
    let f : WordFields := .ofWord (UInt16.ofInt code)
    let u := code % 65536
    (decode code = decode u ∧ f = WordFields.ofWord (UInt16.ofInt u)) ∧
    ((decode code).encode.toNat : Int) = u ∧
    (u = 4096 * (u / 4096) + f.nnn.val ∧ f.nnn.val = 256 * f.x.val + f.nn.toNat ∧
      f.nn.toNat = 16 * f.y.val + f.n.val) ∧
    (f.x.val < 16 ∧ f.y.val < 16 ∧ f.n.val < 16 ∧ f.nn.toNat < 256 ∧ f.nnn.val < 4096) ∧
    opcodeTable.length = 34 ∧
    (∀ row ∈ opcodeTable,
      (row.Matches u.toNat ↔ (decode code).mnemonic = row.mnemonic) ∧
      (row.Matches u.toNat ↔ decode code = row.instruction f)) ∧
    (opcodeTable.Pairwise fun row row' => ¬ (row.Matches u.toNat ∧ row'.Matches u.toNat)) ∧
    ((decode code).mnemonic = "UNKNOWN" ↔ ∀ row ∈ opcodeTable, ¬ row.Matches u.toNat) := by
  intro f u
  have wrapped : ((UInt16.ofInt code).toNat : Int) = u := toNat_ofInt code
  have word : u.toNat = (UInt16.ofInt code).toNat := by omega
  have same : UInt16.ofInt u = UInt16.ofInt code := by rw [← wrapped, ofInt_toNat]
  rw [word, decode, decode, same]
  refine ⟨⟨rfl, rfl⟩, ?_, ⟨?_, nnn_ofWord _, nn_ofWord _⟩,
    ⟨f.x.isLt, f.y.isLt, f.n.isLt, f.nn.toNat_lt, f.nnn.isLt⟩, rfl, ?_,
    pairwise_not_matches _, ?_⟩
  · rw [encode_ofWord, wrapped]
  · have address : f.nnn.val = (UInt16.ofInt code).toNat % 4096 := rfl
    omega
  · intro row mem
    refine ⟨matches_iff_mnemonic mem, ?_⟩
    rw [matches_iff_fits _ row mem, ofWord_eq_iff fun w => ne_unknown_of_mem f w row mem]
  · exact mnemonic_eq_unknown_iff _

end Chip8.Instruction
