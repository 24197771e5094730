import Chip8.Proofs.Framebuffer.Text
import Chip8.Summary

namespace Chip8.Machine

variable {m m' : Machine}

def screenLines (m : Machine) : List String := m.screen.textRows "#" "."

def statusLine (m : Machine) : String :=
  s!"PC=${Hex.word m.registers.pc.toNat}  I=${Hex.word m.registers.i.toNat}  " ++
  s!"SP={m.stack.depth}  DT={m.timers.delay.toNat}  ST={m.timers.sound.toNat}  cycles={m.cycles}"

def registerLine (m : Machine) : String :=
  " ".intercalate ((List.finRange 16).map m.registerText)

theorem summary_eq (m : Machine) : m.summary = m.statusLine ++ "\n" ++ m.registerLine := by
  rw [← String.toList_inj]
  simp [summary, statusLine, registerLine, toString]

theorem screenLines_ne_nil (m : Machine) : m.screenLines ≠ [] := m.screen.textRows_ne_nil _ _

theorem screenLines_inj : m.screenLines = m'.screenLines ↔ m.screen.pixels = m'.screen.pixels :=
  Framebuffer.textRows_inj rfl rfl (by decide)

def statusFields (m : Machine) : List String := [
    "PC=$" ++ Hex.word m.registers.pc.toNat, "", "I=$" ++ Hex.word m.registers.i.toNat, "",
    "SP=" ++ toString m.stack.depth, "", "DT=" ++ toString m.timers.delay.toNat, "",
    "ST=" ++ toString m.timers.sound.toNat, "", "cycles=" ++ toString m.cycles
  ]

theorem statusLine_eq (m : Machine) : m.statusLine = " ".intercalate m.statusFields := by
  rw [← String.toList_inj]
  simp [statusLine, statusFields, toString]

theorem isSolid_of_mem_statusFields : ∀ field ∈ m.statusFields, IsSolid field := by
  have literals : IsSolid "PC=$" ∧ IsSolid "I=$" ∧ IsSolid "SP=" ∧ IsSolid "DT=" ∧ IsSolid "ST=" ∧
      IsSolid "cycles=" ∧ IsSolid "" := by decide
  simp [statusFields, isSolid_append, Hex.word, isSolid_padded, isSolid_repr, literals]

theorem registerText_eq (m : Machine) (x : Register) :
    m.registerText x = "V" ++ Hex.padded 1 x.val ++ "=" ++ Hex.byte (m.registers.value x) := rfl

theorem isSolid_registerText (m : Machine) (x : Register) : IsSolid (m.registerText x) := by
  have literals : IsSolid "V" ∧ IsSolid "=" := by decide
  simp only [registerText_eq, isSolid_append, Hex.byte, isSolid_padded, literals, and_self]

structure SameSummary (m m' : Machine) : Prop where
  pc : m.registers.pc = m'.registers.pc
  i : m.registers.i = m'.registers.i
  depth : m.stack.depth = m'.stack.depth
  delay : m.timers.delay = m'.timers.delay
  sound : m.timers.sound = m'.timers.sound
  cycles : m.cycles = m'.cycles
  value : ∀ x, m.registers.value x = m'.registers.value x

theorem statusLine_inj : m.statusLine = m'.statusLine ↔ m.statusFields = m'.statusFields := by
  rw [statusLine_eq, statusLine_eq]
  exact intercalate_inj rfl (fun field mem => (isSolid_of_mem_statusFields field mem).1) nofun
    (fun field mem => (isSolid_of_mem_statusFields field mem).1) nofun

theorem registerLine_inj : m.registerLine = m'.registerLine ↔
    ∀ x, m.registers.value x = m'.registers.value x := by
  have solid (m : Machine) : ∀ text ∈ (List.finRange 16).map m.registerText, ' ' ∉ text.toList := by
    intro _ mem
    obtain ⟨x, -, rfl⟩ := List.mem_map.1 mem
    exact (isSolid_registerText m x).1
  rw [registerLine, registerLine, intercalate_inj rfl (solid m) nofun (solid m') nofun,
    List.map_inj_left]
  simp [registerText_eq, Hex.byte_inj]

theorem statusFields_inj : m.statusFields = m'.statusFields ↔
    m.registers.pc = m'.registers.pc ∧ m.registers.i = m'.registers.i ∧
      m.stack.depth = m'.stack.depth ∧ m.timers.delay = m'.timers.delay ∧
      m.timers.sound = m'.timers.sound ∧ m.cycles = m'.cycles := by
  simp [statusFields, Hex.word_inj, Nat.repr_inj, UInt8.toNat_inj]

theorem lines_eq_iff :
    m.statusLine = m'.statusLine ∧ m.registerLine = m'.registerLine ↔ SameSummary m m' := by
  rw [statusLine_inj, statusFields_inj, registerLine_inj]
  constructor
  · rintro ⟨⟨pc, i, depth, delay, sound, cycles⟩, value⟩
    exact ⟨pc, i, depth, delay, sound, cycles, value⟩
  · intro same
    exact ⟨⟨same.pc, same.i, same.depth, same.delay, same.sound, same.cycles⟩, same.value⟩

theorem not_mem_statusLine : '\n' ∉ m.statusLine.toList := by
  rw [statusLine_eq]
  exact not_mem_intercalate rfl isSolid_of_mem_statusFields

theorem not_mem_registerLine : '\n' ∉ m.registerLine.toList := by
  refine not_mem_intercalate rfl fun _ mem => ?_
  obtain ⟨x, -, rfl⟩ := List.mem_map.1 mem
  exact isSolid_registerText m x

theorem isAscii_screenLines : ∀ line ∈ m.screenLines, IsAscii line := by
  intro line mem c inside
  by_contra high
  have other : ∀ d, d.toNat < 128 → c ≠ d := fun d low same => high (same ▸ low)
  exact Framebuffer.not_mem_textRows rfl rfl (other '#' (by decide)) (other '.' (by decide)) line
    mem inside

theorem isAscii_statusLine (m : Machine) : IsAscii m.statusLine := by
  have literals : IsAscii "PC=$" ∧ IsAscii "I=$" ∧ IsAscii "SP=" ∧ IsAscii "DT=" ∧ IsAscii "ST=" ∧
      IsAscii "cycles=" ∧ IsAscii "" := by decide
  rw [statusLine_eq]
  refine isAscii_intercalate (by decide) ?_
  simp [statusFields, isAscii_append, Hex.word, isAscii_padded, isAscii_repr, literals]

theorem isAscii_registerLine (m : Machine) : IsAscii m.registerLine := by
  refine isAscii_intercalate (by decide) fun _ mem => ?_
  obtain ⟨x, -, rfl⟩ := List.mem_map.1 mem
  have literals : IsAscii "V" ∧ IsAscii "=" := by decide
  simp only [registerText_eq, isAscii_append, Hex.byte, isAscii_padded, literals, and_self]

end Chip8.Machine
