import Chip8.Proofs.Memory.ByteMap

namespace Chip8.Memory

variable {m : Memory} {address value : Int}

/-- What a refused request leaves. -/
def Request.leftover (m : Memory) : Request → Memory
  | .access (.writeWord address value) =>
    if address = 4095 then (m.write 4095 (value / 256)).2 else m
  | _ => m

theorem told_eq_error_iff {α : Type} {answer : Except Fault α} {say : α → Reply} {error : Error} :
    told answer say = .error error ↔ ∃ fault, answer = .error fault ∧ error = .fault fault := by
  cases answer with
  | ok value => exact iff_of_false nofun nofun
  | error fault =>
    constructor
    · rintro ⟨⟩
      exact ⟨fault, rfl, rfl⟩
    · rintro ⟨_, ⟨⟩, rfl⟩
      rfl

theorem write_of_error {fault : Fault} (h : (m.write address value).1 = .error fault) :
    (m.write address value).2 = m := by
  by_cases inside : InRange address
  · rw [write_of_inRange m value inside] at h
    cases h
  · rw [write_of_not_inRange m value inside]

theorem writeWord_of_error {fault : Fault} (h : (m.writeWord address value).1 = .error fault) :
    (m.writeWord address value).2 =
      if address = 4095 then (m.write 4095 (value / 256)).2 else m := by
  by_cases high : InRange address
  · rw [writeWord_of_inRange m value high] at h ⊢
    rw [write_of_error h]
    have low : ¬ InRange (address + 1) := fun inside => by
      rw [write_eq_ok_iff.2 inside] at h
      cases h
    -- The high byte fits and the low one does not: that is so at one address only.
    have last : address = 4095 := by
      rw [inRange_iff_le] at high low
      omega
    rw [if_pos last, last]
  · have elsewhere : address ≠ 4095 := by
      rw [inRange_iff_le] at high
      omega
    rw [writeWord_of_not_inRange m value high, if_neg elsewhere]

theorem writeBlock_of_error {data : List UInt8} {fault : Fault}
    (h : (m.writeBlock address data).1 = .error fault) : (m.writeBlock address data).2 = m := by
  unfold writeBlock at h ⊢
  split_ifs with empty
  · rfl
  · rw [if_neg empty] at h
    split at h
    · rfl
    · cases h

theorem loadRom_of_error {rom : List UInt8} {error : Error}
    (h : (m.loadRom rom).1 = .error error) : (m.loadRom rom).2 = m := by
  unfold loadRom at h ⊢
  split_ifs with fits
  · rw [if_pos fits] at h
    cases h
  · rfl

theorem state_of_refused {request : Request} {error : Error}
    (refused : (request.perform m).answer = .error error) :
    (request.perform m).state = request.leftover m := by
  cases request with
  | loadRom rom =>
    cases answer : (m.loadRom rom).1 with
    | error _ => exact loadRom_of_error answer
    | ok _ =>
      rw [Request.perform, answer] at refused
      cases refused
  | access op =>
    cases op with
    | read | readWord | readBlock => rfl
    | clear => cases refused
    | write address value =>
      obtain ⟨_, fault, -⟩ := told_eq_error_iff.1 refused
      exact write_of_error fault
    | writeWord address value =>
      obtain ⟨_, fault, -⟩ := told_eq_error_iff.1 refused
      exact writeWord_of_error fault
    | writeBlock address data =>
      obtain ⟨_, fault, -⟩ := told_eq_error_iff.1 refused
      exact writeBlock_of_error fault

theorem romSize_leftover (m : Memory) (request : Request) :
    (request.leftover m).romSize = m.romSize := by
  unfold Request.leftover
  split
  · split_ifs
    · exact romSize_write m _ _
    · rfl
  · rfl

theorem read_leftover_of_ne (m : Memory) (request : Request) (h : address ≠ 4095) :
    (request.leftover m).read address = m.read address := by
  unfold Request.leftover
  split
  · split_ifs
    · exact read_write_of_ne h
    · rfl
  · rfl

/-- A refused request changes nothing, unless it is for a word at the last address. -/
theorem refused_request_leaves (m : Memory) (request : Request) (error : Error)
    (refused : (request.perform m).answer = .error error) :
    (request.perform m).state = request.leftover m ∧
      (request.perform m).state.romSize = m.romSize ∧
      ∀ address, address ≠ 4095 → (request.perform m).state.read address = m.read address := by
  rw [state_of_refused refused]
  exact ⟨rfl, romSize_leftover m request, fun _ => read_leftover_of_ne m request⟩

theorem refused_request_leaves_block :
    let block : Request := .access (.writeBlock 4094 [0x11, 0x22, 0x33])
    (block.perform blank).answer = .error (.fault (.outOfRange 4096)) ∧
      (block.perform blank).state = blank := by
  intro block
  have refused : (block.perform blank).answer = .error (.fault (.outOfRange 4096)) := rfl
  exact ⟨refused, (refused_request_leaves blank block _ refused).1⟩

/-- The word `1234` at the last address is refused, and half of it has been stored. -/
theorem refused_word_is_half_stored :
    let after := blank.writeWord 4095 0x1234
    after.1 = .error (.outOfRange 4096) ∧
      blank.read 4095 = .ok 0 ∧ after.2.read 4095 = .ok 0x12 := by
  intro after
  have high : InRange 4095 := by decide
  have low : ¬ InRange (4095 + 1) := by decide
  have split : after = (.error (.outOfRange 4096), (blank.write 4095 0x12).2) := by
    show blank.writeWord 4095 0x1234 = _
    rw [writeWord_of_inRange _ _ high, write_of_not_inRange _ _ low]
    rfl
  rw [split]
  exact ⟨rfl, holds_blank 4095, read_write_self blank 0x12 high⟩

end Chip8.Memory
