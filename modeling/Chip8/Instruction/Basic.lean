/-!
# Instructions

One constructor for each of the thirty-four instructions, with the operands that it uses, and
`unknown` for every other word. Operands are registers (`x`, `y`), a sprite height (`n`), a byte
(`nn`) and an address below 4096 (`nnn`).
-/

namespace Chip8

abbrev Register := Fin 16

inductive Instruction where
  | clear  -- 00E0
  | ret  -- 00EE
  | jump (nnn : Fin 4096)  -- 1NNN
  | call (nnn : Fin 4096)  -- 2NNN
  | skipEqByte (x : Register) (nn : UInt8)  -- 3XNN
  | skipNeByte (x : Register) (nn : UInt8)  -- 4XNN
  | skipEq (x y : Register)  -- 5XY0
  | loadByte (x : Register) (nn : UInt8)  -- 6XNN
  | addByte (x : Register) (nn : UInt8)  -- 7XNN
  | copy (x y : Register)  -- 8XY0
  | or (x y : Register)  -- 8XY1
  | and (x y : Register)  -- 8XY2
  | xor (x y : Register)  -- 8XY3
  | add (x y : Register)  -- 8XY4
  | sub (x y : Register)  -- 8XY5
  | shiftRight (x y : Register)  -- 8XY6
  | subFrom (x y : Register)  -- 8XY7
  | shiftLeft (x y : Register)  -- 8XYE
  | skipNe (x y : Register)  -- 9XY0
  | loadIndex (nnn : Fin 4096)  -- ANNN
  | jumpOffset (nnn : Fin 4096)  -- BNNN
  | random (x : Register) (nn : UInt8)  -- CXNN
  | draw (x y : Register) (n : Fin 16)  -- DXYN
  | skipPressed (x : Register)  -- EX9E
  | skipReleased (x : Register)  -- EXA1
  | readDelay (x : Register)  -- FX07
  | awaitKey (x : Register)  -- FX0A
  | setDelay (x : Register)  -- FX15
  | setSound (x : Register)  -- FX18
  | addIndex (x : Register)  -- FX1E
  | loadGlyph (x : Register)  -- FX29
  | storeDecimal (x : Register)  -- FX33
  | storeRegisters (x : Register)  -- FX55
  | loadRegisters (x : Register)  -- FX65
  | unknown (word : UInt16)
deriving DecidableEq, Repr

namespace Instruction

def mnemonic : Instruction → String
  | clear => "CLS"
  | ret => "RET"
  | jump _ => "JP"
  | call _ => "CALL"
  | skipEqByte _ _ => "SE_IMM"
  | skipNeByte _ _ => "SNE_IMM"
  | skipEq _ _ => "SE_REG"
  | loadByte _ _ => "LD_IMM"
  | addByte _ _ => "ADD_IMM"
  | copy _ _ => "LD_REG"
  | or _ _ => "OR"
  | and _ _ => "AND"
  | xor _ _ => "XOR"
  | add _ _ => "ADD_REG"
  | sub _ _ => "SUB"
  | shiftRight _ _ => "SHR"
  | subFrom _ _ => "SUBN"
  | shiftLeft _ _ => "SHL"
  | skipNe _ _ => "SNE_REG"
  | loadIndex _ => "LD_I"
  | jumpOffset _ => "JP_V0"
  | random _ _ => "RND"
  | draw _ _ _ => "DRW"
  | skipPressed _ => "SKP"
  | skipReleased _ => "SKNP"
  | readDelay _ => "LD_VX_DT"
  | awaitKey _ => "LD_VX_K"
  | setDelay _ => "LD_DT_VX"
  | setSound _ => "LD_ST_VX"
  | addIndex _ => "ADD_I_VX"
  | loadGlyph _ => "LD_F_VX"
  | storeDecimal _ => "LD_B_VX"
  | storeRegisters _ => "LD_MEM_VX"
  | loadRegisters _ => "LD_VX_MEM"
  | unknown _ => "UNKNOWN"

end Instruction
end Chip8
