import Chip8.Proofs.Machine.Course

namespace Chip8

namespace Machine

variable {m : Machine}

def keyAtHand (m : Machine) : Bool :=
  m.keypad.anyDown || m.keySource.any fun source => source.next.1.any id

def target (m : Machine) (pc : Nat) (ins : Instruction) : Nat :=
  let v (x : Register) : UInt8 := m.registers.value x
  let key (value : UInt8) : Key := ⟨value.toNat % 16, Nat.mod_lt _ (by decide)⟩
  let skipIf (condition : Bool) : Nat := if condition then pc + 4 else pc + 2
  match ins with
  | .jump nnn | .call nnn => nnn
  | .ret => (m.stack.entries.getLastD 0).toNat
  | .jumpOffset nnn => (v 0).toNat + nnn
  | .skipEqByte x nn => skipIf (v x == nn)
  | .skipNeByte x nn => skipIf (v x != nn)
  | .skipEq x y => skipIf (v x == v y)
  | .skipNe x y => skipIf (v x != v y)
  | .skipPressed x => skipIf (m.keypad.isDown (key (v x)))
  | .skipReleased x => skipIf (!m.keypad.isDown (key (v x)))
  | .awaitKey _ => if m.keyAtHand then pc + 2 else pc
  | _ => pc + 2

theorem toNat_following {pc : Nat} (h : pc + 4 < 65536) (skip : Bool) :
    (following pc skip).toNat = if skip then pc + 4 else pc + 2 := by
  unfold following
  cases skip with
  | true => exact @toNat_ofInt_natCast (pc + 4) h
  | false => exact @toNat_ofInt_natCast (pc + 2) (by omega)

theorem execute_awaitKey_target {x : Register} {pc : Nat} {next : UInt16}
    (h : pc + 4 < 65536) (answer : (m.execute (.awaitKey x) pc).answer = .ok next) :
    next.toNat = m.target pc (.awaitKey x) := by
  have ended : (m.awaitKey x pc).answer = .ok next := answer
  have moves : (following pc false).toNat = pc + 2 := toNat_following h false
  have stays : (UInt16.ofInt pc).toNat = pc := toNat_ofInt_natCast (by omega)
  show next.toNat = if m.keyAtHand then pc + 2 else pc
  cases m.waitEnds x pc with
  | down key first ends =>
    have down : m.keypad.anyDown = true := by
      rw [← Bool.not_eq_false, ← Keypad.first?_eq_none_iff_anyDown, first]
      exact nofun
    rw [ends] at ended
    cases ended
    simp [keyAtHand, down, moves]
  | alone up alone ends =>
    have down := (Keypad.first?_eq_none_iff_anyDown _).1 up
    rw [ends] at ended
    cases ended
    simp [keyAtHand, down, alone, stays]
  | refused source up asks count ends =>
    rw [ends] at ended
    cases ended
  | given source key up asks count first ends =>
    have given : source.next.1.any id = true := by
      rw [← Keypad.anyDown_setAll m.keypad count, ← Bool.not_eq_false,
        ← Keypad.first?_eq_none_iff_anyDown]
      exact fun none => absurd (first.symm.trans none) nofun
    rw [ends] at ended
    cases ended
    simp [keyAtHand, asks, given, moves]
  | vain source up asks count first ends =>
    have down := (Keypad.first?_eq_none_iff_anyDown _).1 up
    have none : source.next.1.any id = false := by
      rw [← Keypad.anyDown_setAll m.keypad count]
      exact (Keypad.first?_eq_none_iff_anyDown _).1 first
    rw [ends] at ended
    cases ended
    simp [keyAtHand, down, asks, none, stays]

theorem execute_target {ins : Instruction} {pc : Nat} {next : UInt16} (h : pc + 4 < 65536)
    (answer : (m.execute ins pc).answer = .ok next) : next.toNat = m.target pc ins := by
  have straight : (following pc false).toNat = pc + 2 := toNat_following h false
  cases ins
  case ret =>
    by_cases empty : m.stack.entries = []
    · rw [execute_of_refuses (.ret empty)] at answer
      cases answer
    · obtain ⟨address, below, entries, through⟩ := execute_ret empty pc
      rw [through] at answer
      cases answer
      show next.toNat = (m.stack.entries.getLastD 0).toNat
      rw [entries, List.getLastD_concat]
  case call nnn =>
    by_cases full : m.stack.entries.length = 16
    · rw [execute_of_refuses (.call full)] at answer
      cases answer
    · obtain ⟨above, -, through⟩ := execute_call full nnn pc
      rw [through] at answer
      cases answer
      exact UInt16.toNat_ofNat_of_lt' (show _ < 65536 by omega)
  case jump nnn =>
    cases answer
    exact UInt16.toNat_ofNat_of_lt' (show _ < 65536 by omega)
  case jumpOffset nnn =>
    have below := (m.registers.value ⟨0, by decide⟩).toNat_lt
    cases answer
    exact UInt16.toNat_ofNat_of_lt' (show _ < 65536 by omega)
  case awaitKey x => exact execute_awaitKey_target h answer
  case skipPressed x =>
    cases answer
    rw [toNat_following h, Key.ofInt_natCast]
    rfl
  case skipReleased x =>
    cases answer
    rw [toNat_following h, Key.ofInt_natCast]
    rfl
  case skipEqByte | skipNeByte | skipEq | skipNe =>
    cases answer
    exact toNat_following h _
  case draw x y n =>
    simp only [execute] at answer
    split at answer
    · cases answer
      exact straight
    · cases answer
  case storeDecimal | storeRegisters | loadRegisters =>
    simp only [execute] at answer
    split at answer
    · cases answer
      exact straight
    · cases answer
  all_goals
    cases answer
    exact straight

end Machine
end Chip8
