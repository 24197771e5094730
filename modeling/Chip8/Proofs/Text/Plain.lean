import Chip8.Fault
import Chip8.Text.Plain
import Mathlib.Data.Nat.Digits.Defs

namespace Chip8

theorem exists_digitChar_of_mem_toDigits {b n : Nat} (base : 1 < b) {c : Char}
    (h : c ∈ Nat.toDigits b n) : ∃ d < b, c = Nat.digitChar d := by
  induction n using Nat.strong_induction_on with
  | _ n ih =>
    rw [Nat.toDigits_eq_if base] at h
    split at h
    · rename_i single
      exact ⟨n, single, List.mem_singleton.1 h⟩
    · rcases List.mem_append.1 h with high | low
      · exact ih (n / b) (Nat.div_lt_self (by omega) base) high
      · exact ⟨n % b, Nat.mod_lt _ (by omega), List.mem_singleton.1 low⟩

theorem Hex.mem_padded {width : Nat} {value : Int} {c : Char}
    (h : c ∈ (Hex.padded width value).toList) :
    c = '-' ∨ ∃ d < 16, c = (Nat.digitChar d).toUpper := by
  have filled {width : Nat} (h : c ∈ (Hex.upperDigits value.natAbs).leftpad width '0') :
      ∃ d < 16, c = (Nat.digitChar d).toUpper := by
    rcases List.mem_append.1 h with zero | digit
    · exact ⟨0, by decide, List.eq_of_mem_replicate zero⟩
    · obtain ⟨_, lower, rfl⟩ := List.mem_map.1 digit
      obtain ⟨d, below, rfl⟩ := exists_digitChar_of_mem_toDigits (by decide) lower
      exact ⟨d, below, rfl⟩
  unfold Hex.padded at h
  split at h
  · rw [String.toList_ofList] at h
    exact (List.mem_cons.1 h).imp_right filled
  · rw [String.toList_ofList] at h
    exact .inr (filled h)

namespace Plain

def IsPlain (text : String) : Prop := escape ∉ text.toList

instance (text : String) : Decidable (IsPlain text) := inferInstanceAs (Decidable (_ ∉ _))

theorem ofText_of_isPlain {text : String} (h : IsPlain text) : ofText text = text := by
  rw [ofText, strip_of_not_mem h, String.ofList_toList]

theorem isPlain_append {s t : String} : IsPlain (s ++ t) ↔ IsPlain s ∧ IsPlain t := by
  simp [IsPlain]

theorem isPlain_word (value : Int) : IsPlain (Hex.word value) := by
  intro escaped
  obtain sign | ⟨d, below, digit⟩ := Hex.mem_padded escaped
  · exact absurd sign (by decide)
  · exact (by decide : ∀ d < 16, escape ≠ (Nat.digitChar d).toUpper) d below digit

theorem isPlain_toString (n : Nat) : IsPlain (toString n) := by
  rw [Nat.toString_eq_ofList_toDigits, IsPlain, String.toList_ofList]
  intro escaped
  obtain ⟨d, below, same⟩ := exists_digitChar_of_mem_toDigits (by decide) escaped
  exact (by decide : ∀ d < 10, escape ≠ Nat.digitChar d) d below same

end Plain

open Plain

namespace Fault

@[simp]
theorem message_locate (f : Fault) (pc opcode : Option Int) :
    (f.locate pc opcode).message = f.message := by
  unfold locate
  split <;> rfl

theorem isPlain_text {f : Fault} (h : IsPlain f.message) : IsPlain f.text := by
  unfold text
  split
  · simp only [toString, isPlain_append, isPlain_word, h, and_true]
    decide
  · simp only [toString, isPlain_append, isPlain_word, h, and_true]
    decide
  · exact h

theorem isPlain_outOfRange (address : Int) : IsPlain (outOfRange address).message := by
  have usual : (outOfRange address).message =
      "memory address $" ++ Hex.word address ++ " out of range" := rfl
  simp only [usual, isPlain_append, isPlain_word, and_true]
  decide

end Fault
end Chip8
