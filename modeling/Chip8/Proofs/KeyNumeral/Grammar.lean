import Chip8.KeyNumeral

namespace Chip8.KeyNumeral

/-! ## Numerals -/

def IsDigit (c : Char) (d : Nat) : Prop := d < 16 ∧ c = Nat.digitChar d

inductive Digits : List Char → Nat → Prop
  | one {c : Char} {d : Nat} : IsDigit c d → Digits [c] d
  | next {text : List Char} {value : Nat} {c : Char} {d : Nat} :
      Digits text value → IsDigit c d → Digits (text ++ [c]) (16 * value + d)
  | apart {text : List Char} {value : Nat} {c : Char} {d : Nat} :
      Digits text value → IsDigit c d → Digits (text ++ ['_', c]) (16 * value + d)

inductive Magnitude : List Char → Nat → Prop
  | plain {text : List Char} {value : Nat} : Digits text value → Magnitude text value
  | marked {text : List Char} {value : Nat} :
      Digits text value → Magnitude ('0' :: 'x' :: text) value
  | apart {text : List Char} {value : Nat} :
      Digits text value → Magnitude ('0' :: 'x' :: '_' :: text) value

inductive Signed : List Char → Int → Prop
  | bare {text : List Char} {value : Nat} : Magnitude text value → Signed text value
  | plus {text : List Char} {value : Nat} : Magnitude text value → Signed ('+' :: text) value
  | minus {text : List Char} {value : Nat} : Magnitude text value → Signed ('-' :: text) (-value)

/-! ## Digits -/

variable {c : Char} {text : List Char}

theorem digitValue?_eq_some_iff {d : Nat} : digitValue? c = some d ↔ IsDigit c d := by
  constructor
  · intro value
    have letters : ∀ d < 16, 10 ≤ d → (Nat.digitChar d).toNat = d + 87 := by decide
    unfold digitValue? at value
    split at value
    next decimal =>
      have low : 48 ≤ c.toNat := decimal.1
      have high : c.toNat ≤ 57 := decimal.2
      cases value
      refine ⟨by omega, Char.toNat_inj.1 ?_⟩
      rw [Nat.toNat_digitChar_of_lt_ten (by omega)]
      omega
    next =>
      obtain ⟨letter, value⟩ := Option.ite_none_right_eq_some.1 value
      have low : 97 ≤ c.toNat := letter.1
      have high : c.toNat ≤ 102 := letter.2
      cases value
      refine ⟨by omega, Char.toNat_inj.1 ?_⟩
      rw [letters _ (by omega) (by omega)]
      omega
  · rintro ⟨below, rfl⟩
    have values : ∀ d < 16, digitValue? (Nat.digitChar d) = some d := by decide
    exact values d below

theorem readRest_append {value result : Nat} (more : List Char)
    (read : readRest value text = some result) :
    readRest value (text ++ more) = readRest result more := by
  fun_induction readRest value text with
  | case1 value =>
    cases read
    rfl
  | case2 value c rest ih =>
    obtain ⟨d, digit, read⟩ := Option.bind_eq_some_iff.1 read
    rw [List.cons_append, List.cons_append, readRest, digit]
    exact ih d read
  | case3 value c rest other ih =>
    obtain ⟨d, digit, read⟩ := Option.bind_eq_some_iff.1 read
    have notSpaced : ∀ c' rest', c = '_' → rest ++ more = c' :: rest' → False := by
      rintro _ _ rfl
      cases digit
    rw [List.cons_append, readRest.eq_3 _ _ _ notSpaced, digit]
    exact ih d read

theorem readDigits?_append {value : Nat} (more : List Char)
    (read : readDigits? text = some value) :
    readDigits? (text ++ more) = readRest value more := by
  cases text with
  | nil => cases read
  | cons c rest =>
    obtain ⟨d, digit, read⟩ := Option.bind_eq_some_iff.1 read
    rw [List.cons_append, readDigits?, digit]
    exact readRest_append more read

theorem readDigits?_of_digits {value : Nat} (digits : Digits text value) :
    readDigits? text = some value := by
  induction digits with
  | one digit => simp [readDigits?, digitValue?_eq_some_iff.2 digit, readRest]
  | next _ digit ih =>
    rw [readDigits?_append _ ih]
    simp [readRest, digitValue?_eq_some_iff.2 digit]
  | apart _ digit ih =>
    rw [readDigits?_append _ ih]
    simp [readRest, digitValue?_eq_some_iff.2 digit]

theorem digits_of_readRest {value result : Nat} {front : List Char} (digits : Digits front value)
    (read : readRest value text = some result) : Digits (front ++ text) result := by
  fun_induction readRest value text generalizing front with
  | case1 value =>
    cases read
    rwa [List.append_nil]
  | case2 value c rest ih =>
    obtain ⟨d, digit, read⟩ := Option.bind_eq_some_iff.1 read
    have longer := ih d (digits.apart (digitValue?_eq_some_iff.1 digit)) read
    rwa [List.append_assoc] at longer
  | case3 value c rest other ih =>
    obtain ⟨d, digit, read⟩ := Option.bind_eq_some_iff.1 read
    have longer := ih d (digits.next (digitValue?_eq_some_iff.1 digit)) read
    rwa [List.append_assoc] at longer

theorem readDigits?_eq_some_iff {value : Nat} :
    readDigits? text = some value ↔ Digits text value := by
  refine ⟨fun read => ?_, readDigits?_of_digits⟩
  cases text with
  | nil => cases read
  | cons c rest =>
    obtain ⟨d, digit, read⟩ := Option.bind_eq_some_iff.1 read
    exact digits_of_readRest (.one (digitValue?_eq_some_iff.1 digit)) read

/-! ## Marks and signs -/

theorem dropMark?_eq_some_iff {rest : List Char} :
    dropMark? text = some rest ↔ text = '0' :: 'x' :: rest := by
  constructor
  · intro dropped
    unfold dropMark? at dropped
    split at dropped
    next =>
      cases dropped
      rfl
    next => cases dropped
  · rintro rfl
    rfl

theorem dropMark?_of_digits {value : Nat} (digits : Digits text value) : dropMark? text = none := by
  rw [Option.eq_none_iff_forall_ne_some]
  intro rest marked
  have read := readDigits?_eq_some_iff.2 digits
  rw [dropMark?_eq_some_iff.1 marked] at read
  cases read

theorem readMagnitude?_eq_some_iff {value : Nat} :
    readMagnitude? text = some value ↔ Magnitude text value := by
  constructor
  · intro read
    unfold readMagnitude? at read
    split at read
    next rest marked =>
      rw [dropMark?_eq_some_iff.1 marked]
      exact .apart (readDigits?_eq_some_iff.1 read)
    next rest _ marked =>
      rw [dropMark?_eq_some_iff.1 marked]
      exact .marked (readDigits?_eq_some_iff.1 read)
    next => exact .plain (readDigits?_eq_some_iff.1 read)
  · intro magnitude
    cases magnitude with
    | plain digits =>
      rw [readMagnitude?, dropMark?_of_digits digits]
      exact readDigits?_eq_some_iff.2 digits
    | marked digits =>
      have read := readDigits?_eq_some_iff.2 digits
      unfold readMagnitude?
      split
      next marked =>
        cases marked
        cases read
      next rest _ marked =>
        cases marked
        exact read
      next unmarked => cases unmarked
    | apart digits => exact readDigits?_eq_some_iff.2 digits

theorem readSigned?_eq_some_iff {value : Int} :
    readSigned? text = some value ↔ Signed text value := by
  constructor
  · intro accepted
    unfold readSigned? at accepted
    split at accepted <;> obtain ⟨_, read, rfl⟩ := Option.map_eq_some_iff.1 accepted
    next => exact .plus (readMagnitude?_eq_some_iff.1 read)
    next =>
      obtain ⟨_, magnitude, same⟩ := Option.bind_eq_some_iff.1 read
      cases same
      exact .minus (readMagnitude?_eq_some_iff.1 magnitude)
    next => exact .bare (readMagnitude?_eq_some_iff.1 read)
  · intro signed
    cases signed with
    | bare magnitude =>
      have read := readMagnitude?_eq_some_iff.2 magnitude
      have notPlus : ∀ rest, text = '+' :: rest → False := by
        rintro rest rfl
        cases read
      have notMinus : ∀ rest, text = '-' :: rest → False := by
        rintro rest rfl
        cases read
      rw [readSigned?.eq_3 _ notPlus notMinus, read]
      rfl
    | plus magnitude =>
      rw [readSigned?, readMagnitude?_eq_some_iff.2 magnitude]
      rfl
    | minus magnitude =>
      rw [readSigned?, readMagnitude?_eq_some_iff.2 magnitude]
      rfl

/-! ## Characters -/

def alphabet : List Char := [
    '0', '1', '2', '3', '4', '5', '6', '7', '8', '9', 'a', 'b', 'c', 'd', 'e', 'f', 'x', '_', '+', '-'
  ]

theorem IsDigit.mem_alphabet {d : Nat} (digit : IsDigit c d) : c ∈ alphabet := by
  obtain ⟨below, rfl⟩ := digit
  have all : ∀ d < 16, Nat.digitChar d ∈ alphabet := by decide
  exact all d below

theorem Digits.subset_alphabet {value : Nat} (digits : Digits text value) : text ⊆ alphabet := by
  have underscore : '_' ∈ alphabet := by decide
  induction digits with
  | one digit => simp [digit.mem_alphabet]
  | next _ digit ih => simp [ih, digit.mem_alphabet]
  | apart _ digit ih => simp [ih, digit.mem_alphabet, underscore]

theorem Magnitude.subset_alphabet {value : Nat} (magnitude : Magnitude text value) :
    text ⊆ alphabet := by
  have mark : ['0', 'x', '_'] ⊆ alphabet := by decide
  cases magnitude with
  | plain digits => exact digits.subset_alphabet
  | marked digits => simp_all [digits.subset_alphabet]
  | apart digits => simp_all [digits.subset_alphabet]

theorem Signed.subset_alphabet {value : Int} (signed : Signed text value) : text ⊆ alphabet := by
  have signs : ['+', '-'] ⊆ alphabet := by decide
  cases signed with
  | bare magnitude => exact magnitude.subset_alphabet
  | plus magnitude => simp_all [magnitude.subset_alphabet]
  | minus magnitude => simp_all [magnitude.subset_alphabet]

end Chip8.KeyNumeral
