import Chip8.Proofs.Instruction.Patterns
import Chip8.Proofs.Machine.Counts
import Chip8.Proofs.Memory.Blocks
import Mathlib.Logic.Function.Basic

namespace Chip8.Memory

abbrev ByteMap := Fin size → UInt8

variable {m : Memory} {map : ByteMap} {address : Int}

def InRange.index (h : InRange address) : Fin size := ⟨address.toNat, h.toNat_lt⟩

def Holds (m : Memory) (map : ByteMap) : Prop :=
  ∀ address, m.read address =
    if h : InRange address then .ok (map h.index) else .error (.outOfRange address)

def Within (address : Int) (length : Nat) : Prop :=
  ∀ k : Nat, k < length → InRange (address + k)

/-- Bytes written singly, one after the other, until one of them is refused. -/
def writeEach (m : Memory) (address : Int) : List UInt8 → Except Fault Unit × Memory
  | [] => (.ok (), m)
  | byte :: rest =>
    match m.write address byte.toNat with
    | (.ok (), m) => m.writeEach (address + 1) rest
    | refused => refused

def withProgram (map : ByteMap) (rom : List UInt8) : ByteMap := fun k =>
  if programStart ≤ k.val then rom[k.val - programStart]?.getD (map k) else map k

def fontMap : ByteMap := fun k => fontBytes.getD k.val 0

structure Obeys (m : Memory) (map : ByteMap) : Prop where
  holds : m.Holds map
  readWord_ok : ∀ a, (∃ word, m.readWord a = .ok word) ↔ 0 ≤ a ∧ a ≤ 4094
  readWord : ∀ a word, m.readWord a = .ok word →
    ∃ (high : InRange a) (low : InRange (a + 1)),
      word.toNat = 256 * (map high.index).toNat + (map low.index).toNat
  readBlock_empty : ∀ a n, n ≤ 0 → m.readBlock a n = .ok []
  readBlock_ok : ∀ a n, 1 ≤ n → ((∃ bytes, m.readBlock a n = .ok bytes) ↔ Within a n.toNat)
  readBlock : ∀ a n bytes, m.readBlock a n = .ok bytes →
    (List.range n.toNat).map (fun k => m.read (a + (k : Nat))) = bytes.map .ok
  write_ok : ∀ a value, (m.write a value).1 = .ok () ↔ InRange a
  write : ∀ a value (h : InRange a), ∃ byte, (byte.toNat : Int) = value % 256 ∧
    (m.write a value).2.Holds (Function.update map h.index byte)
  writeWord_ok : ∀ a value, (m.writeWord a value).1 = .ok () ↔ 0 ≤ a ∧ a ≤ 4094
  writeWord : ∀ a value, (m.writeWord a value).1 = .ok () →
    (∃ word, (m.writeWord a value).2.readWord a = .ok word ∧
      (word.toNat : Int) = value % 65536) ∧
    ∀ b, b ≠ a → b ≠ a + 1 → (m.writeWord a value).2.read b = m.read b
  writeBlock_ok : ∀ a data, data ≠ [] →
    ((m.writeBlock a data).1 = .ok () ↔ Within a data.length)
  writeBlock : ∀ a data, (m.writeBlock a data).1 = .ok () →
    m.writeBlock a data = m.writeEach a data
  loadRom_ok : ∀ rom, (m.loadRom rom).1 = .ok () ↔ rom.length ≤ 3584
  loadRom : ∀ rom, (m.loadRom rom).1 = .ok () →
    (m.loadRom rom).2.Holds (withProgram map rom) ∧ (m.loadRom rom).2.romSize = rom.length
  romSize : ∀ op : Operation, op ≠ .clear → (op.perform m).2.romSize = m.romSize
  clear : (Operation.clear.perform m).2.Holds fontMap ∧ (Operation.clear.perform m).2.romSize = 0

/-! ## Single bytes -/

theorem inRange_iff_le : InRange address ↔ 0 ≤ address ∧ address ≤ 4095 := by
  have last : (size : Int) = 4096 := rfl
  rw [InRange, last]
  omega

theorem read_of_inRange (m : Memory) (h : InRange address) :
    m.read address = .ok (m.bytes.get h.index) := dif_pos h

theorem read_of_not_inRange (m : Memory) (h : ¬ InRange address) :
    m.read address = .error (.outOfRange address) := dif_neg h

theorem inRange_of_read {byte : UInt8} (h : m.read address = .ok byte) : InRange address := by
  by_contra outside
  rw [read_of_not_inRange m outside] at h
  cases h

theorem holds_of_get (h : ∀ k, m.bytes.get k = map k) : m.Holds map := by
  intro address
  split_ifs with inside
  · rw [read_of_inRange m inside, h]
  · exact read_of_not_inRange m inside

theorem write_of_inRange (m : Memory) (value : Int) (h : InRange address) :
    m.write address value =
      (.ok (), { m with bytes := m.bytes.set address.toNat (UInt8.ofInt value) h.toNat_lt }) :=
  dif_pos h

theorem write_of_not_inRange (m : Memory) (value : Int) (h : ¬ InRange address) :
    m.write address value = (.error (.outOfRange address), m) := dif_neg h

theorem write_eq_ok_iff {value : Int} : (m.write address value).1 = .ok () ↔ InRange address := by
  by_cases inside : InRange address
  · rw [write_of_inRange m value inside]
    exact iff_of_true rfl inside
  · rw [write_of_not_inRange m value inside]
    exact iff_of_false nofun inside

theorem holds_write (m : Memory) (value : Int) (h : InRange address) :
    (m.write address value).2.Holds
      (Function.update m.bytes.get h.index (UInt8.ofInt value)) := by
  rw [write_of_inRange m value h]
  apply holds_of_get
  intro k
  have here : k.val = address.toNat ↔ k = h.index := (Fin.ext_iff (b := h.index)).symm
  rw [get_set, Function.update_apply]
  exact if_congr here rfl rfl

theorem read_write_of_ne {value other : Int} (h : other ≠ address) :
    (m.write address value).2.read other = m.read other := by
  by_cases inside : InRange address
  · rw [write_of_inRange m value inside]
    by_cases readable : InRange other
    · rw [read_of_inRange _ readable, read_of_inRange _ readable, get_set, if_neg]
      have first := inside.1
      have second := readable.1
      show other.toNat ≠ address.toNat
      omega
    · rw [read_of_not_inRange _ readable, read_of_not_inRange _ readable]
  · rw [write_of_not_inRange m value inside]

theorem read_write_self (m : Memory) (value : Int) (h : InRange address) :
    (m.write address value).2.read address = .ok (UInt8.ofInt value) := by
  rw [write_of_inRange m value h, read_of_inRange _ h, get_set]
  exact congrArg Except.ok (if_pos rfl)

/-! ## Words -/

theorem inRange_word_iff :
    InRange address ∧ InRange (address + 1) ↔ 0 ≤ address ∧ address ≤ 4094 := by
  rw [inRange_iff_le, inRange_iff_le]
  omega

theorem readWord_eq_ok_iff {word : UInt16} :
    m.readWord address = .ok word ↔ ∃ high low, m.read address = .ok high ∧
      m.read (address + 1) = .ok low ∧ word = .ofNat (256 * high.toNat + low.toNat) := by
  unfold readWord
  cases m.read address with
  | error fault => exact iff_of_false nofun nofun
  | ok high =>
    cases m.read (address + 1) with
    | error fault => exact iff_of_false nofun nofun
    | ok low =>
      constructor
      · rintro ⟨⟩
        exact ⟨high, low, rfl, rfl, rfl⟩
      · rintro ⟨_, _, ⟨⟩, ⟨⟩, rfl⟩
        rfl

theorem exists_readWord_iff :
    (∃ word, m.readWord address = .ok word) ↔ InRange address ∧ InRange (address + 1) := by
  constructor
  · rintro ⟨word, done⟩
    obtain ⟨_, _, high, low, -⟩ := readWord_eq_ok_iff.1 done
    exact ⟨inRange_of_read high, inRange_of_read low⟩
  · rintro ⟨high, low⟩
    have first := read_of_inRange m high
    have second := read_of_inRange m low
    exact ⟨_, readWord_eq_ok_iff.2 ⟨_, _, first, second, rfl⟩⟩

theorem toNat_word (high low : UInt8) :
    (UInt16.ofNat (256 * high.toNat + low.toNat)).toNat = 256 * high.toNat + low.toNat := by
  have first := high.toNat_lt
  have second := low.toNat_lt
  exact UInt16.toNat_ofNat_of_lt' (by show _ < 65536; omega)

theorem writeWord_of_inRange (m : Memory) (value : Int) (h : InRange address) :
    m.writeWord address value = (m.write address (value / 256)).2.write (address + 1) value := by
  rw [writeWord, write_of_inRange m _ h]

theorem writeWord_of_not_inRange (m : Memory) (value : Int) (h : ¬ InRange address) :
    m.writeWord address value = (.error (.outOfRange address), m) := by
  rw [writeWord, write_of_not_inRange m _ h]

theorem writeWord_eq_ok_iff {value : Int} :
    (m.writeWord address value).1 = .ok () ↔ InRange address ∧ InRange (address + 1) := by
  by_cases inside : InRange address
  · rw [writeWord_of_inRange m value inside, write_eq_ok_iff, and_iff_right inside]
  · rw [writeWord_of_not_inRange m value inside]
    exact iff_of_false nofun (inside ∘ And.left)

theorem readWord_writeWord (m : Memory) (value : Int) (high : InRange address)
    (low : InRange (address + 1)) :
    ∃ word, (m.writeWord address value).2.readWord address = .ok word ∧
      (word.toNat : Int) = value % 65536 := by
  rw [writeWord_of_inRange m value high]
  have first : ((m.write address (value / 256)).2.write (address + 1) value).2.read address =
      .ok (UInt8.ofInt (value / 256)) :=
    (read_write_of_ne (by omega)).trans (read_write_self m _ high)
  have second := read_write_self (m.write address (value / 256)).2 value low
  refine ⟨_, readWord_eq_ok_iff.2 ⟨_, _, first, second, rfl⟩, ?_⟩
  have upper := toNat_byteOfInt (value / 256)
  have lower := toNat_byteOfInt value
  rw [toNat_word]
  omega

theorem read_writeWord_of_ne {value other : Int} (high : InRange address) (h : other ≠ address)
    (h' : other ≠ address + 1) : (m.writeWord address value).2.read other = m.read other := by
  rw [writeWord_of_inRange m value high, read_write_of_ne h', read_write_of_ne h]

/-! ## Blocks -/

theorem within_iff {length : Nat} (h : 0 < length) :
    Within address length ↔ 0 ≤ address ∧ address + length ≤ 4096 := by
  simp only [Within, inRange_iff_le]
  constructor
  · intro within
    have first := within 0 h
    have last := within (length - 1) (by omega)
    omega
  · intro ⟨above, below⟩ k inside
    omega

theorem strayEnd?_eq_none_iff {length : Nat} (h : 0 < length) :
    strayEnd? address length = none ↔ Within address length := by
  rw [within_iff h, strayEnd?]
  simp only [inRange_iff_le]
  split_ifs <;> simp <;> omega

theorem natCast_of_within {length : Nat} (h : 0 < length) (within : Within address length) :
    ∃ start : Nat, address = start ∧ start + length ≤ size := by
  obtain ⟨above, below⟩ := (within_iff h).1 within
  have last : size = 4096 := rfl
  exact ⟨address.toNat, by omega, by omega⟩

theorem readBlock_eq_ok_iff {length : Int} (h : 1 ≤ length) :
    (∃ bytes, m.readBlock address length = .ok bytes) ↔ Within address length.toNat := by
  rw [readBlock, if_neg (by omega), ← strayEnd?_eq_none_iff (by omega)]
  cases strayEnd? address length.toNat with
  | none => exact iff_of_true ⟨_, rfl⟩ rfl
  | some stray => exact iff_of_false nofun nofun

theorem map_read_readBlock (m : Memory) {start length : Nat} (fits : start + length ≤ size) :
    (List.range length).map (fun k => m.read (start + (k : Nat))) =
      ((m.bytes.toList.drop start).take length).map .ok := by
  have stored : m.bytes.toList.length = size := Vector.length_toList
  apply List.ext_getElem
  · simp only [List.length_map, List.length_range, List.length_take, List.length_drop, stored]
    omega
  · intro k inside _
    rw [List.length_map, List.length_range] at inside
    have bound : start + k < size := by omega
    have readable := m.read_natCast bound
    rw [Int.natCast_add] at readable
    simp only [List.getElem_map, List.getElem_range, List.getElem_take, List.getElem_drop]
    exact readable

theorem map_read_of_readBlock {length : Int} {bytes : List UInt8}
    (h : m.readBlock address length = .ok bytes) :
    (List.range length.toNat).map (fun k => m.read (address + (k : Nat))) = bytes.map .ok := by
  by_cases empty : length ≤ 0
  · rw [readBlock, if_pos empty] at h
    cases h
    rw [Int.toNat_of_nonpos empty]
    rfl
  · have within := (readBlock_eq_ok_iff (by omega)).1 ⟨bytes, h⟩
    obtain ⟨start, rfl, fits⟩ := natCast_of_within (by omega) within
    obtain ⟨count, rfl⟩ := Int.eq_ofNat_of_zero_le (Int.le_of_lt (Int.not_le.1 empty))
    rw [readBlock_natCast, if_pos (.inr fits)] at h
    cases h
    exact map_read_readBlock m fits

theorem writeBlock_eq_ok_iff {data : List UInt8} (h : data ≠ []) :
    (m.writeBlock address data).1 = .ok () ↔ Within address data.length := by
  rw [writeBlock, if_neg (by simpa using h),
    ← strayEnd?_eq_none_iff (List.length_pos_iff.2 h)]
  cases strayEnd? address data.length with
  | none => exact iff_of_true rfl rfl
  | some stray => exact iff_of_false nofun nofun

theorem writeEach_of_fits (m : Memory) {start : Nat} {data : List UInt8}
    (fits : start + data.length ≤ size) :
    m.writeEach start data = (.ok (), { m with bytes := overlay m.bytes start data }) := by
  induction data generalizing m start with
  | nil => rfl
  | cons byte rest ih =>
    rw [List.length_cons] at fits
    have inside : start < size := by omega
    have stored : m.write start byte.toNat =
        (.ok (), { m with bytes := m.bytes.set start byte inside }) := by
      simp only [write_of_inRange m _ (inRange_natCast.2 inside), byteOfInt_toNat,
        Int.toNat_natCast]
    have later : start + 1 + rest.length ≤ size := by omega
    -- Bytes that are written later lie above this one.
    rw [writeEach, stored, overlay, dif_pos inside]
    exact ih { m with bytes := m.bytes.set start byte inside } later

theorem writeBlock_eq_writeEach {data : List UInt8} (h : (m.writeBlock address data).1 = .ok ()) :
    m.writeBlock address data = m.writeEach address data := by
  by_cases empty : data = []
  · rw [empty]
    rfl
  · have within := (writeBlock_eq_ok_iff empty).1 h
    obtain ⟨start, rfl, fits⟩ := natCast_of_within (List.length_pos_iff.2 empty) within
    rw [writeBlock_natCast m start data empty, if_pos fits, writeEach_of_fits m fits]

/-! ## Programs and the font -/

theorem loadRom_eq_ok_iff {rom : List UInt8} :
    (m.loadRom rom).1 = .ok () ↔ rom.length ≤ romCapacity := by
  rw [loadRom]
  split_ifs with fits
  · exact iff_of_true rfl fits
  · exact iff_of_false nofun fits

theorem holds_loadRom {rom : List UInt8} (h : rom.length ≤ romCapacity) :
    (m.loadRom rom).2.Holds (withProgram m.bytes.get rom) := by
  rw [loadRom, if_pos h]
  exact holds_of_get fun k => get_overlay m.bytes programStart rom k

theorem get_padded {glyphs : List UInt8} {n : Nat}
    (h : (glyphs ++ List.replicate n 0).toArray.size = size) (k : Fin size) :
    (Vector.mk (glyphs ++ List.replicate n 0).toArray h).get k = glyphs.getD k.val 0 := by
  have bound : k.val < (glyphs ++ List.replicate n 0).length := Nat.lt_of_lt_of_eq k.isLt h.symm
  show (glyphs ++ List.replicate n 0)[k.val] = glyphs.getD k.val 0
  rw [List.getElem_append, List.getD_eq_getElem?_getD]
  split_ifs with glyph
  · rw [List.getElem?_eq_getElem glyph]
    rfl
  · rw [List.getElem_replicate, List.getElem?_eq_none (by omega)]
    rfl

theorem holds_blank : blank.Holds fontMap := holds_of_get fun k => get_padded _ k

/-! ## Sessions -/

inductive Request where
  | access (op : Operation)
  | loadRom (rom : List UInt8)

def Request.perform : Request → Memory → Outcome Memory Reply
  | access op, m => ⟨(op.perform m).1, (op.perform m).2, #[]⟩
  | loadRom rom, m => ⟨(m.loadRom rom).1.map fun _ => .nothing, (m.loadRom rom).2, #[]⟩

theorem romSize_perform {op : Operation} (h : op ≠ .clear) :
    (op.perform m).2.romSize = m.romSize := by
  cases op with
  | write address value => exact romSize_write m address value
  | writeWord address value => exact romSize_writeWord m address value
  | writeBlock address data => exact romSize_writeBlock m address data
  | clear => exact absurd rfl h
  | _ => rfl

theorem obeys (m : Memory) : m.Obeys m.bytes.get where
  holds := holds_of_get fun _ => rfl
  readWord_ok _ := exists_readWord_iff.trans inRange_word_iff
  readWord a word done := by
    obtain ⟨_, _, high, low, rfl⟩ := readWord_eq_ok_iff.1 done
    have first := inRange_of_read high
    have second := inRange_of_read low
    rw [read_of_inRange m first] at high
    rw [read_of_inRange m second] at low
    cases high
    cases low
    exact ⟨first, second, toNat_word _ _⟩
  readBlock_empty _ _ empty := if_pos empty
  readBlock_ok _ _ := readBlock_eq_ok_iff
  readBlock _ _ _ := map_read_of_readBlock
  write_ok _ _ := write_eq_ok_iff
  write _ value h := ⟨_, toNat_byteOfInt value, holds_write m value h⟩
  writeWord_ok _ _ := writeWord_eq_ok_iff.trans inRange_word_iff
  writeWord a value done := by
    obtain ⟨high, low⟩ := writeWord_eq_ok_iff.1 done
    exact ⟨readWord_writeWord m value high low, fun _ => read_writeWord_of_ne high⟩
  writeBlock_ok _ _ := writeBlock_eq_ok_iff
  writeBlock _ _ := writeBlock_eq_writeEach
  loadRom_ok _ := loadRom_eq_ok_iff
  loadRom rom done := by
    have fits := loadRom_eq_ok_iff.1 done
    refine ⟨holds_loadRom fits, ?_⟩
    rw [Memory.loadRom, if_pos fits]
  romSize _ := romSize_perform
  clear := ⟨holds_blank, rfl⟩

theorem memory_is_a_byte_map (history : List Request) :
    ∃ map, Obeys (Session.final Request.perform history blank) map :=
  ⟨_, obeys _⟩

end Chip8.Memory
