import Chip8.Proofs.KeyNumeral.Grammar
import Mathlib.Data.List.DropRight

namespace Chip8

namespace Numeric

variable {c a : Char}

theorem digitValue?_eq_none (outside : ∀ first ∈ zeros, ¬(first ≤ c.toNat ∧ c.toNat < first + 10)) :
    digitValue? c = none := by
  rw [digitValue?, Option.map_eq_none_iff, List.find?_eq_none]
  intro first mem
  simpa using outside first mem

theorem digitValue?_of_low (low : c.toNat < 0x660) : digitValue? c = none := by
  have first : ∀ start ∈ zeros, 0x660 ≤ start := by decide
  refine digitValue?_eq_none fun start mem => ?_
  have := first start mem
  omega

theorem digitValue?_lt {value : Nat} (digit : digitValue? c = some value) : value < 10 := by
  obtain ⟨first, found, rfl⟩ := Option.map_eq_some_iff.1 digit
  have range := List.find?_some found
  simp only [Bool.and_eq_true, decide_eq_true_eq] at range
  omega

theorem digitValue?_of_isWideBlank (wide : isWideBlank c) : digitValue? c = none := by
  have gaps : ∀ start ∈ zeros, 0x660 ≤ start ∧ (start + 10 ≤ 0x1680 ∨ 0x1680 < start) ∧
      (start + 10 ≤ 0x2000 ∨ 0x3000 < start) := by decide
  refine digitValue?_eq_none fun start mem => ?_
  have := gaps start mem
  simp only [isWideBlank, Bool.or_eq_true, Bool.and_eq_true, beq_iff_eq, decide_eq_true_eq] at wide
  omega

theorem isBlank_of_high (high : 127 ≤ c.toNat) : isBlank c = false := by
  have notSpace : c ≠ ' ' := by
    rintro rfl
    exact absurd high (by decide)
  simp only [isBlank, beq_false_of_ne notSpace, Bool.false_or, Bool.and_eq_false_iff,
    decide_eq_false_iff_not]
  omega

theorem isWideBlank_of_low (low : c.toNat < 127) : isWideBlank c = false := by
  rw [Bool.eq_false_iff]
  intro wide
  simp only [isWideBlank, Bool.or_eq_true, Bool.and_eq_true, beq_iff_eq, decide_eq_true_eq] at wide
  omega

theorem char_ofNat_eq_digitChar {value : Nat} (below : value < 10) :
    Char.ofNat (48 + value) = Nat.digitChar value := by
  have all : ∀ value < 10, Char.ofNat (48 + value) = Nat.digitChar value := by decide
  exact all value below

end Numeric

namespace KeyNumeral

/-! ## What characters count as -/

def isSpace (c : Char) : Bool := Numeric.isBlank c || Numeric.isWideBlank c

def asDigit (c : Char) : Char := ((Numeric.digitValue? c).map Nat.digitChar).getD c

/-- What is neither white space nor a decimal digit nor else in any numeral. -/
def Foreign (c : Char) : Prop :=
  isSpace c = false ∧ Numeric.digitValue? c = none ∧ c ∉ alphabet

def stripped (text : List Char) : List Char := (text.dropWhile isSpace).rdropWhile isSpace

def unmarked (text : List Char) : List Char := (dropMark? text).getD text

def core (text : List Char) : List Char := (stripped text).map asDigit

variable {c a : Char} {text : List Char} {value : Int}

theorem mem_alphabet_lt (mem : c ∈ alphabet) : c.toNat < 127 := by
  have all : alphabet.all (·.toNat < 127) = true := by decide
  exact of_decide_eq_true (List.all_eq_true.1 all c mem)

theorem asDigit_of_none (other : Numeric.digitValue? c = none) : asDigit c = c := by
  rw [asDigit, other]
  rfl

theorem asDigit_of_some {d : Nat} (digit : Numeric.digitValue? c = some d) :
    asDigit c = Nat.digitChar d := by
  rw [asDigit, digit]
  rfl

theorem asciiOf?_cases (c : Char) :
    (c.toNat < 127 ∧ Numeric.asciiOf? c = some c) ∨
    (127 ≤ c.toNat ∧ Numeric.isWideBlank c = true ∧ Numeric.asciiOf? c = some ' ') ∨
    (127 ≤ c.toNat ∧ Numeric.isWideBlank c = false ∧
      ∃ d < 10, Numeric.digitValue? c = some d ∧ Numeric.asciiOf? c = some (Nat.digitChar d)) ∨
    (Foreign c ∧ Numeric.asciiOf? c = none) := by
  by_cases low : c.toNat < 127
  · exact .inl ⟨low, if_pos low⟩
  have high : 127 ≤ c.toNat := by omega
  have reading : Numeric.asciiOf? c = _ := if_neg low
  cases wide : Numeric.isWideBlank c with
  | true =>
    rw [wide] at reading
    exact .inr (.inl ⟨high, rfl, reading⟩)
  | false =>
    rw [wide] at reading
    cases digit : Numeric.digitValue? c with
    | some d =>
      have below := Numeric.digitValue?_lt digit
      rw [digit] at reading
      have ascii : Numeric.asciiOf? c = some (Nat.digitChar d) :=
        reading.trans (congrArg some (Numeric.char_ofNat_eq_digitChar below))
      exact .inr (.inr (.inl ⟨high, rfl, d, below, rfl, ascii⟩))
    | none =>
      rw [digit] at reading
      have narrow : isSpace c = false := by rw [isSpace, Numeric.isBlank_of_high high, wide]; rfl
      have outside : c ∉ alphabet := fun mem => low (mem_alphabet_lt mem)
      exact .inr (.inr (.inr ⟨⟨narrow, digit, outside⟩, reading⟩))

theorem foreign_of_asciiOf? (unread : Numeric.asciiOf? c = none) : Foreign c := by
  obtain ⟨-, ascii⟩ | ⟨-, -, ascii⟩ | ⟨-, -, _, -, -, ascii⟩ | ⟨foreign, -⟩ := asciiOf?_cases c
  all_goals first | exact foreign | cases unread.symm.trans ascii

/-! ## Texts in ASCII -/

def asAscii (c : Char) : Char := (Numeric.asciiOf? c).getD c

theorem isBlank_asAscii (c : Char) : Numeric.isBlank (asAscii c) = isSpace c := by
  obtain ⟨low, ascii⟩ | ⟨-, wide, ascii⟩ | ⟨high, narrow, d, below, -, ascii⟩ | ⟨foreign, ascii⟩ :=
    asciiOf?_cases c
  · rw [asAscii, ascii, Option.getD_some, isSpace, Numeric.isWideBlank_of_low low, Bool.or_false]
  · rw [asAscii, ascii, Option.getD_some, isSpace, wide, Bool.or_true]
    rfl
  · have digits : ∀ d < 10, Numeric.isBlank (Nat.digitChar d) = false := by decide
    rw [asAscii, ascii, Option.getD_some, isSpace, narrow, Numeric.isBlank_of_high high]
    exact digits d below
  · rw [asAscii, ascii, Option.getD_none, foreign.1]
    exact (Bool.or_eq_false_iff.1 foreign.1).1

theorem asAscii_eq (c : Char) :
    asAscii c = asDigit c ∨ asAscii c ∉ alphabet ∧ asDigit c ∉ alphabet := by
  obtain ⟨low, ascii⟩ | ⟨high, wide, ascii⟩ | ⟨-, -, d, -, digit, ascii⟩ | ⟨foreign, ascii⟩ :=
    asciiOf?_cases c
  · left
    rw [asAscii, ascii, asDigit_of_none (Numeric.digitValue?_of_low (by omega))]
    rfl
  · right
    rw [asAscii, ascii, Option.getD_some,
      asDigit_of_none (Numeric.digitValue?_of_isWideBlank wide)]
    refine ⟨by decide, fun mem => ?_⟩
    have := mem_alphabet_lt mem
    omega
  · left
    rw [asAscii, ascii, asDigit_of_some digit]
    rfl
  · left
    rw [asAscii, ascii, asDigit_of_none foreign.2.1]
    rfl

theorem asciiForm?_eq_some {ascii : List Char} (form : Numeric.asciiForm? text = some ascii) :
    ascii = text.map asAscii := by
  unfold Numeric.asciiForm? at form
  induction text generalizing ascii with
  | nil =>
    cases form
    rfl
  | cons c rest ih =>
    rw [List.mapM_cons] at form
    obtain ⟨a, first, rest⟩ := Option.bind_eq_some_iff.1 form
    obtain ⟨others, read, same⟩ := Option.bind_eq_some_iff.1 rest
    cases same
    rw [List.map_cons, asAscii, first, ← ih read]
    rfl

theorem exists_foreign_of_asciiForm? (form : Numeric.asciiForm? text = none) :
    ∃ c ∈ text, Foreign c := by
  unfold Numeric.asciiForm? at form
  induction text with
  | nil => cases form
  | cons c rest ih =>
    rw [List.mapM_cons] at form
    cases ascii : Numeric.asciiOf? c with
    | none => exact ⟨c, List.mem_cons_self, foreign_of_asciiOf? ascii⟩
    | some a =>
      cases others : rest.mapM Numeric.asciiOf? with
      | none =>
        obtain ⟨c, mem, foreign⟩ := ih others
        exact ⟨c, List.mem_cons_of_mem _ mem, foreign⟩
      | some others' =>
        rw [ascii, others] at form
        cases form

theorem trim_map_asAscii (text : List Char) :
    Numeric.trim (text.map asAscii) = (stripped text).map asAscii := by
  have blank : Numeric.isBlank ∘ asAscii = isSpace := funext isBlank_asAscii
  rw [Numeric.trim, List.dropWhile_map, ← List.map_reverse, List.dropWhile_map, ← List.map_reverse,
    blank]
  rfl

theorem signed_map_asAscii : Signed (text.map asAscii) value ↔ Signed (text.map asDigit) value := by
  by_cases same : ∀ c ∈ text, asAscii c = asDigit c
  · rw [List.map_congr_left same]
  · push Not at same
    obtain ⟨c, mem, differ⟩ := same
    obtain ⟨outside, outside'⟩ := (asAscii_eq c).resolve_left differ
    exact iff_of_false (fun signed => outside (signed.subset_alphabet (List.mem_map_of_mem mem)))
      fun signed => outside' (signed.subset_alphabet (List.mem_map_of_mem mem))

theorem mem_dropWhile_of_not {p : Char → Bool} (mem : c ∈ text) (fails : p c = false) :
    c ∈ text.dropWhile p := by
  rw [← List.takeWhile_append_dropWhile (p := p) (l := text)] at mem
  refine (List.mem_append.1 mem).resolve_left fun front => ?_
  exact Bool.false_ne_true (fails.symm.trans (List.mem_takeWhile_imp front))

theorem mem_stripped (mem : c ∈ text) (narrow : isSpace c = false) : c ∈ stripped text := by
  have kept := List.mem_reverse.2 (mem_dropWhile_of_not mem narrow)
  exact List.mem_reverse.2 (mem_dropWhile_of_not kept narrow)

theorem not_signed_of_foreign (mem : c ∈ text) (foreign : Foreign c) :
    ¬Signed (core text) value := by
  intro signed
  have inside : asDigit c ∈ core text := List.mem_map_of_mem (mem_stripped mem foreign.1)
  rw [asDigit_of_none foreign.2.1] at inside
  exact foreign.2.2 (signed.subset_alphabet inside)

theorem read_eq_some_iff :
    (Numeric.asciiForm? text).bind (fun ascii => readSigned? (Numeric.trim ascii)) = some value ↔
      Signed (core text) value := by
  cases form : Numeric.asciiForm? text with
  | none =>
    obtain ⟨c, mem, foreign⟩ := exists_foreign_of_asciiForm? form
    exact iff_of_false (by simp) (not_signed_of_foreign mem foreign)
  | some ascii =>
    rw [Option.bind_some, asciiForm?_eq_some form, trim_map_asAscii, readSigned?_eq_some_iff,
      signed_map_asAscii, core]

/-! ## Lower case -/

/-- ASCII stays ASCII, white space and digits have no case, and any other character may turn into
several, but never into what a numeral could be made of. -/
inductive Lowered : List Char → List Char → Prop
  | nil : Lowered [] []
  | ascii {c : Char} {text lower : List Char} :
      c.toNat < 128 → Lowered text lower → Lowered (c :: text) (c.toLower :: lower)
  | caseless {c : Char} {text lower : List Char} :
      128 ≤ c.toNat → isSpace c ∨ (Numeric.digitValue? c).isSome →
      Lowered text lower → Lowered (c :: text) (c :: lower)
  | foreign {c : Char} {image text lower : List Char} :
      128 ≤ c.toNat → isSpace c = false → Numeric.digitValue? c = none → (∃ a ∈ image, Foreign a) →
      Lowered text lower → Lowered (c :: text) (image ++ lower)

theorem toLower_of_high (high : 128 ≤ c.toNat) : c.toLower = c := by
  refine dif_neg fun letter => ?_
  have upper : c.toNat ≤ 90 := letter.2
  omega

theorem foreign_of_high (high : 128 ≤ c.toNat) (narrow : isSpace c = false)
    (other : Numeric.digitValue? c = none) : Foreign c := by
  refine ⟨narrow, other, fun mem => ?_⟩
  have := mem_alphabet_lt mem
  omega

theorem lowered_map_toLower (text : List Char) : Lowered text (text.map Char.toLower) := by
  induction text with
  | nil => exact .nil
  | cons c rest ih =>
    by_cases low : c.toNat < 128
    · exact .ascii low ih
    have high : 128 ≤ c.toNat := by omega
    rw [List.map_cons, toLower_of_high high]
    by_cases caseless : isSpace c ∨ (Numeric.digitValue? c).isSome
    · exact .caseless high caseless ih
    · obtain ⟨wide, digit⟩ := not_or.1 caseless
      have narrow : isSpace c = false := Bool.eq_false_iff.2 wide
      have other : Numeric.digitValue? c = none := Option.not_isSome_iff_eq_none.1 digit
      have image : ∃ a ∈ [c], Foreign a :=
        ⟨c, List.mem_singleton_self c, foreign_of_high high narrow other⟩
      exact .foreign high narrow other image ih

theorem eq_or_foreign_cons {lower : List Char} (a : Char)
    (h : lower = text ∨ (∃ c ∈ lower, Foreign c) ∧ ∃ c ∈ text, Foreign c) :
    a :: lower = a :: text ∨ (∃ c ∈ a :: lower, Foreign c) ∧ ∃ c ∈ a :: text, Foreign c := by
  refine h.imp (congrArg (a :: ·)) fun ⟨⟨c, mem, foreign⟩, c', mem', foreign'⟩ => ?_
  exact ⟨⟨c, List.mem_cons_of_mem a mem, foreign⟩, c', List.mem_cons_of_mem a mem', foreign'⟩

theorem Lowered.eq_or_foreign {lower : List Char} (lowered : Lowered text lower) :
    lower = text.map Char.toLower ∨
      (∃ c ∈ lower, Foreign c) ∧ ∃ c ∈ text.map Char.toLower, Foreign c := by
  induction lowered with
  | nil => exact .inl rfl
  | @ascii c text lower low _ ih => exact eq_or_foreign_cons c.toLower ih
  | @caseless c text lower high _ _ ih =>
    rw [List.map_cons, toLower_of_high high]
    exact eq_or_foreign_cons c ih
  | @foreign c image text lower high narrow other found _ _ =>
    -- Both texts hold a character that no numeral has, and are refused alike.
    obtain ⟨a, mem, foreign⟩ := found
    rw [List.map_cons, toLower_of_high high]
    exact .inr ⟨⟨a, List.mem_append_left _ mem, foreign⟩, c, List.mem_cons_self,
      foreign_of_high high narrow other⟩

theorem mem_unmarked (mem : c ∈ text) (foreign : Foreign c) : c ∈ unmarked text := by
  cases dropped : dropMark? text with
  | none => rwa [unmarked, dropped]
  | some rest =>
    rw [unmarked, dropped]
    rw [dropMark?_eq_some_iff.1 dropped] at mem
    have zero : c ≠ '0' := by
      rintro rfl
      exact foreign.2.2 (by decide)
    have mark : c ≠ 'x' := by
      rintro rfl
      exact foreign.2.2 (by decide)
    exact List.mem_of_ne_of_mem mark (List.mem_of_ne_of_mem zero mem)

theorem Lowered.signed_iff {lower : List Char} (lowered : Lowered text lower) :
    Signed (core (unmarked lower)) value ↔
      Signed (core (unmarked (text.map Char.toLower))) value := by
  obtain rfl | ⟨⟨a, mem, foreign⟩, b, mem', foreign'⟩ := lowered.eq_or_foreign
  · exact Iff.rfl
  · exact iff_of_false (not_signed_of_foreign (mem_unmarked mem foreign) foreign)
      (not_signed_of_foreign (mem_unmarked mem' foreign') foreign')

/-! ## The language -/

theorem value?_eq_some_iff {text : String} {lower : List Char}
    (lowered : Lowered text.toList lower) :
    value? text = some value ↔ Signed (core (unmarked lower)) value := by
  rw [lowered.signed_iff]
  exact read_eq_some_iff

theorem ofNumeral_cases (text : String) :
    (∃ key : Key, value? text = some (key.val : Int) ∧ Key.ofNumeral text = .ok key) ∨
    (∃ value, value? text = some value ∧ ¬(0 ≤ value ∧ value ≤ 15) ∧
      Key.ofNumeral text = .error (.badKey (.notOnKeypad text))) ∨
    (value? text = none ∧ Key.ofNumeral text = .error (.badKey (.notNumeral text))) := by
  unfold Key.ofNumeral
  cases value? text with
  | none => exact .inr (.inr ⟨rfl, rfl⟩)
  | some value =>
    by_cases inside : 0 ≤ value ∧ value ≤ 15
    · refine .inl ⟨Key.ofInt value, ?_, if_pos inside⟩
      have same : ((Key.ofInt value).val : Int) = value := by
        show ((value % 16).toNat : Int) = value
        omega
      rw [same]
    · exact .inr (.inl ⟨value, rfl, inside, if_neg inside⟩)

theorem message_notOnKeypad_ne (text : String) :
    (BadKey.notOnKeypad text).message ≠ (BadKey.notNumeral text).message := by
  intro same
  have number : (BadKey.notOnKeypad text).message =
      "keypad key must be 0-F, got '" ++ text ++ "'" := rfl
  have none : (BadKey.notNumeral text).message =
      "'" ++ text ++ "' is not a hex keypad key (0-F)" := rfl
  rw [number, none] at same
  have heads := congrArg (fun message : String => message.toList.head?) same
  simp only [String.toList_append, List.append_assoc] at heads
  cases heads

def Refused (text message : String) : Prop :=
  ∃ cause : BadKey, Key.ofNumeral text = .error (.badKey cause) ∧ cause.message = message

theorem not_refused_of_ok {text message : String} {key : Key}
    (read : Key.ofNumeral text = .ok key) : ¬Refused text message := by
  rintro ⟨cause, refused, -⟩
  cases read.symm.trans refused

theorem refused_iff {text message : String} {cause : BadKey}
    (read : Key.ofNumeral text = .error (.badKey cause)) :
    Refused text message ↔ cause.message = message := by
  constructor
  · rintro ⟨cause', refused, same⟩
    cases read.symm.trans refused
    exact same
  · exact fun same => ⟨cause, read, same⟩

theorem ofNumeral_follows_grammar {text : String} {lower : List Char}
    (lowered : Lowered text.toList lower) :
    let written := core (unmarked lower)
    (∀ key, Key.ofNumeral text = .ok key ↔ Signed written (key.val : Int)) ∧
    (Refused text s!"keypad key must be 0-F, got '{text}'" ↔
      ∃ value, Signed written value ∧ ¬(0 ≤ value ∧ value ≤ 15)) ∧
    (Refused text s!"'{text}' is not a hex keypad key (0-F)" ↔ ¬∃ value, Signed written value) := by
  intro written
  simp only [← value?_eq_some_iff lowered, written]
  have differ := message_notOnKeypad_ne text
  obtain ⟨key, value, read⟩ | ⟨value, found, outside, read⟩ | ⟨value, read⟩ := ofNumeral_cases text
  · rw [value, read]
    refine ⟨fun key' => ?_, iff_of_false (not_refused_of_ok read) ?_,
      iff_of_false (not_refused_of_ok read) ?_⟩
    · rw [Except.ok.injEq, Option.some.injEq, Fin.ext_iff, Int.natCast_inj]
    · rintro ⟨value, same, outside⟩
      cases same
      have := key.isLt
      omega
    · exact not_not_intro ⟨_, rfl⟩
  · rw [found, read, refused_iff read, refused_iff read]
    refine ⟨fun key => iff_of_false (by simp) ?_, iff_of_true rfl ⟨value, rfl, outside⟩,
      iff_of_false differ (not_not_intro ⟨value, rfl⟩)⟩
    intro same
    cases same
    have := key.isLt
    omega
  · rw [value, read, refused_iff read, refused_iff read]
    exact ⟨fun key => iff_of_false (by simp) (by simp), iff_of_false differ.symm (by simp),
      iff_of_true rfl (by simp)⟩

theorem ofNumeral_follows_grammar_marks :
    let marks := ['0', 'X', '\u3000', '+', '0', 'X', '_', '٠', '_', 'B', ' ']
    let minus := ['-', '1']
    let kelvin := ['\u212A']
    Lowered marks (marks.map Char.toLower) ∧ Key.ofNumeral (.ofList marks) = .ok 11 ∧
      Lowered minus minus ∧
      Refused (.ofList minus) s!"keypad key must be 0-F, got '{String.ofList minus}'" ∧
      Lowered kelvin ['k'] ∧
      Refused (.ofList kelvin) s!"'{String.ofList kelvin}' is not a hex keypad key (0-F)" := by
  intro marks minus kelvin
  have lowered : Lowered marks (marks.map Char.toLower) := lowered_map_toLower marks
  have lowered' : Lowered minus minus := lowered_map_toLower minus
  have foreign : Foreign 'k' := ⟨rfl, rfl, by decide⟩
  have lowered'' : Lowered kelvin ['k'] :=
    .foreign (by decide) rfl rfl ⟨'k', List.mem_singleton_self _, foreign⟩ .nil
  have zero : Digits ['0'] 0 := .one ⟨by decide, rfl⟩
  have last : IsDigit 'b' 11 := ⟨by decide, rfl⟩
  have eleven : Digits ['0', '_', 'b'] 11 := zero.apart last
  have one : Digits ['1'] 1 := .one ⟨by decide, rfl⟩
  have language {text lower : List Char} (lowered : Lowered text lower) :=
    @ofNumeral_follows_grammar (.ofList text) lower (by rwa [String.toList_ofList])
  obtain ⟨accepted, -⟩ := language lowered
  have written :
      core (unmarked (marks.map Char.toLower)) = ['+', '0', 'x', '_', '0', '_', 'b'] := by
    decide
  rw [written] at accepted
  obtain ⟨-, unplaced, -⟩ := language lowered'
  obtain ⟨-, -, unread⟩ := language lowered''
  refine ⟨lowered, (accepted 11).2 (.plus (.apart eleven)), lowered',
    unplaced.2 ⟨-(1 : Nat), .minus (.plain one), by decide⟩, lowered'', unread.2 ?_⟩
  rintro ⟨value, signed⟩
  exact not_signed_of_foreign (List.mem_singleton_self 'k') foreign signed

end KeyNumeral
end Chip8
