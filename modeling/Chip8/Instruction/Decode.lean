import Chip8.Instruction.Basic
import Chip8.Text.Hex

namespace Chip8

structure WordFields where
  family : Fin 16
  x : Fin 16
  y : Fin 16
  n : Fin 16
  nn : UInt8
  nnn : Fin 4096
deriving DecidableEq, Repr

def WordFields.ofWord (word : UInt16) : WordFields where
  family := ⟨word.toNat / 4096 % 16, Nat.mod_lt _ (by decide)⟩
  x := ⟨word.toNat / 256 % 16, Nat.mod_lt _ (by decide)⟩
  y := ⟨word.toNat / 16 % 16, Nat.mod_lt _ (by decide)⟩
  n := ⟨word.toNat % 16, Nat.mod_lt _ (by decide)⟩
  nn := UInt8.ofNat (word.toNat % 256)
  nnn := ⟨word.toNat % 4096, Nat.mod_lt _ (by decide)⟩

namespace Instruction

def arithmetic (word : UInt16) (x y : Register) (n : Fin 16) : Instruction :=
  match n.val with
  | 0x0 => copy x y
  | 0x1 => or x y
  | 0x2 => and x y
  | 0x3 => xor x y
  | 0x4 => add x y
  | 0x5 => sub x y
  | 0x6 => shiftRight x y
  | 0x7 => subFrom x y
  | 0xE => shiftLeft x y
  | _ => unknown word

def transfer (word : UInt16) (x : Register) (nn : UInt8) : Instruction :=
  match nn.toNat with
  | 0x07 => readDelay x
  | 0x0A => awaitKey x
  | 0x15 => setDelay x
  | 0x18 => setSound x
  | 0x1E => addIndex x
  | 0x29 => loadGlyph x
  | 0x33 => storeDecimal x
  | 0x55 => storeRegisters x
  | 0x65 => loadRegisters x
  | _ => unknown word

def ofWord (word : UInt16) : Instruction :=
  let f := WordFields.ofWord word
  match f.family.val with
  | 0x0 => if word = 0x00E0 then clear else if word = 0x00EE then ret else unknown word
  | 0x1 => jump f.nnn
  | 0x2 => call f.nnn
  | 0x3 => skipEqByte f.x f.nn
  | 0x4 => skipNeByte f.x f.nn
  | 0x5 => if f.n.val = 0 then skipEq f.x f.y else unknown word
  | 0x6 => loadByte f.x f.nn
  | 0x7 => addByte f.x f.nn
  | 0x8 => arithmetic word f.x f.y f.n
  | 0x9 => if f.n.val = 0 then skipNe f.x f.y else unknown word
  | 0xA => loadIndex f.nnn
  | 0xB => jumpOffset f.nnn
  | 0xC => random f.x f.nn
  | 0xD => draw f.x f.y f.n
  | 0xE =>
    if f.nn = 0x9E then skipPressed f.x
    else if f.nn = 0xA1 then skipReleased f.x
    else unknown word
  | _ => transfer word f.x f.nn

def decode (code : Int) : Instruction := ofWord (UInt16.ofInt code)

def listing (word : UInt16) : String :=
  s!"{Hex.word word.toNat} {(ofWord word).mnemonic}"

private def wordOf (family nnn : Nat) : UInt16 := UInt16.ofNat (4096 * family + nnn)

def encode : Instruction → UInt16
  | clear => 0x00E0
  | ret => 0x00EE
  | jump nnn => wordOf 0x1 nnn
  | call nnn => wordOf 0x2 nnn
  | skipEqByte x nn => wordOf 0x3 (256 * x + nn.toNat)
  | skipNeByte x nn => wordOf 0x4 (256 * x + nn.toNat)
  | skipEq x y => wordOf 0x5 (256 * x + 16 * y)
  | loadByte x nn => wordOf 0x6 (256 * x + nn.toNat)
  | addByte x nn => wordOf 0x7 (256 * x + nn.toNat)
  | copy x y => wordOf 0x8 (256 * x + 16 * y)
  | or x y => wordOf 0x8 (256 * x + 16 * y + 0x1)
  | and x y => wordOf 0x8 (256 * x + 16 * y + 0x2)
  | xor x y => wordOf 0x8 (256 * x + 16 * y + 0x3)
  | add x y => wordOf 0x8 (256 * x + 16 * y + 0x4)
  | sub x y => wordOf 0x8 (256 * x + 16 * y + 0x5)
  | shiftRight x y => wordOf 0x8 (256 * x + 16 * y + 0x6)
  | subFrom x y => wordOf 0x8 (256 * x + 16 * y + 0x7)
  | shiftLeft x y => wordOf 0x8 (256 * x + 16 * y + 0xE)
  | skipNe x y => wordOf 0x9 (256 * x + 16 * y)
  | loadIndex nnn => wordOf 0xA nnn
  | jumpOffset nnn => wordOf 0xB nnn
  | random x nn => wordOf 0xC (256 * x + nn.toNat)
  | draw x y n => wordOf 0xD (256 * x + 16 * y + n)
  | skipPressed x => wordOf 0xE (256 * x + 0x9E)
  | skipReleased x => wordOf 0xE (256 * x + 0xA1)
  | readDelay x => wordOf 0xF (256 * x + 0x07)
  | awaitKey x => wordOf 0xF (256 * x + 0x0A)
  | setDelay x => wordOf 0xF (256 * x + 0x15)
  | setSound x => wordOf 0xF (256 * x + 0x18)
  | addIndex x => wordOf 0xF (256 * x + 0x1E)
  | loadGlyph x => wordOf 0xF (256 * x + 0x29)
  | storeDecimal x => wordOf 0xF (256 * x + 0x33)
  | storeRegisters x => wordOf 0xF (256 * x + 0x55)
  | loadRegisters x => wordOf 0xF (256 * x + 0x65)
  | unknown word => word

end Instruction
end Chip8
