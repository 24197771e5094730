import Chip8.Proofs.Text.Plain
import Std.Data.String.ToNat

namespace Chip8

namespace Hex

def digitOf (c : Char) : Nat := if c.toNat < 65 then c.toNat - 48 else c.toNat - 55

def valueOf (value : Nat) (text : List Char) : Nat :=
  text.foldl (fun value c => 16 * value + digitOf c) value

theorem digitOf_toUpper_digitChar {d : Nat} (below : d < 16) :
    digitOf (Nat.digitChar d).toUpper = d := by
  have all : ∀ d < 16, digitOf (Nat.digitChar d).toUpper = d := by decide
  exact all d below

theorem valueOf_upperDigits (n : Nat) : valueOf 0 (upperDigits n) = n := by
  unfold upperDigits
  induction n using Nat.strong_induction_on with
  | _ n ih =>
    rw [Nat.toDigits_eq_if (by decide)]
    split
    next small =>
      show 16 * 0 + digitOf (Nat.digitChar n).toUpper = n
      rw [digitOf_toUpper_digitChar small, Nat.mul_zero, Nat.zero_add]
    next large =>
      have last := digitOf_toUpper_digitChar (Nat.mod_lt n (by decide : 16 > 0))
      have high : valueOf 0 ((Nat.toDigits 16 (n / 16)).map Char.toUpper) = n / 16 :=
        ih (n / 16) (by omega)
      unfold valueOf at high ⊢
      rw [List.map_append, List.foldl_append, high]
      show 16 * (n / 16) + digitOf (Nat.digitChar (n % 16)).toUpper = n
      omega

theorem valueOf_leftpad (width : Nat) (text : List Char) :
    valueOf 0 (text.leftpad width '0') = valueOf 0 text := by
  have zeros (k : Nat) : valueOf 0 (List.replicate k '0') = 0 := by
    induction k with
    | zero => rfl
    | succ k ih => exact ih
  unfold valueOf at zeros ⊢
  rw [List.leftpad, List.foldl_append, zeros]

theorem padded_natCast (width n : Nat) :
    padded width n = String.ofList ((upperDigits n).leftpad width '0') :=
  if_neg (Int.not_lt.2 (Int.natCast_nonneg n))

theorem padded_inj {width m n : Nat} : padded width m = padded width n ↔ m = n := by
  constructor
  · intro same
    have texts := congrArg (fun text : String => valueOf 0 text.toList) same
    simpa only [padded_natCast, String.toList_ofList, valueOf_leftpad, valueOf_upperDigits]
      using texts
  · rintro rfl
    rfl

theorem word_inj {m n : UInt16} : word m.toNat = word n.toNat ↔ m = n :=
  padded_inj.trans UInt16.toNat_inj

theorem byte_inj {m n : UInt8} : byte m = byte n ↔ m = n :=
  padded_inj.trans UInt8.toNat_inj

end Hex

variable {separator : String} {c : Char} {texts texts' : List String}

theorem splitOn_intercalate (single : separator.toList = [c])
    (apart : ∀ text ∈ texts, c ∉ text.toList) (some : texts ≠ []) :
    (separator.intercalate texts).toList.splitOn c = texts.map String.toList := by
  rw [String.toList_intercalate, single]
  refine List.splitOn_intercalate c ?_ (mt List.map_eq_nil_iff.1 some)
  intro _ mem
  obtain ⟨text, inside, rfl⟩ := List.mem_map.1 mem
  exact apart text inside

theorem intercalate_inj (single : separator.toList = [c])
    (apart : ∀ text ∈ texts, c ∉ text.toList) (some : texts ≠ [])
    (apart' : ∀ text ∈ texts', c ∉ text.toList) (some' : texts' ≠ []) :
    separator.intercalate texts = separator.intercalate texts' ↔ texts = texts' := by
  constructor
  · intro same
    have split := congrArg (fun text : String => text.toList.splitOn c) same
    simp only [splitOn_intercalate single apart some,
      splitOn_intercalate single apart' some'] at split
    exact (List.map_inj_right fun _ _ => String.toList_inj.1).1 split
  · rintro rfl
    rfl

def IsSolid (text : String) : Prop := ' ' ∉ text.toList ∧ '\n' ∉ text.toList

instance (text : String) : Decidable (IsSolid text) := inferInstanceAs (Decidable (_ ∧ _))

theorem isSolid_append {s t : String} : IsSolid (s ++ t) ↔ IsSolid s ∧ IsSolid t := by
  simp only [IsSolid, String.toList_append, List.mem_append, not_or]
  exact and_and_and_comm

theorem isSolid_padded (width : Nat) (value : Int) : IsSolid (Hex.padded width value) := by
  have apart {c : Char} (sign : c ≠ '-') (digits : ∀ d < 16, c ≠ (Nat.digitChar d).toUpper) :
      c ∉ (Hex.padded width value).toList := by
    intro mem
    obtain same | ⟨d, below, same⟩ := Hex.mem_padded mem
    · exact sign same
    · exact digits d below same
  exact ⟨apart (by decide) (by decide), apart (by decide) (by decide)⟩

theorem isSolid_repr (n : Nat) : IsSolid n.repr := by
  have apart {c : Char} (digits : ∀ d < 10, c ≠ Nat.digitChar d) : c ∉ n.repr.toList := by
    intro mem
    rw [Nat.toList_repr] at mem
    obtain ⟨d, below, same⟩ := exists_digitChar_of_mem_toDigits (by decide) mem
    exact digits d below same
  exact ⟨apart (by decide), apart (by decide)⟩

theorem not_mem_intercalate (single : separator.toList = [' '])
    (solid : ∀ text ∈ texts, IsSolid text) : '\n' ∉ (separator.intercalate texts).toList := by
  induction texts with
  | nil => simp
  | cons first rest ih =>
    by_cases some : rest = []
    · rw [some, String.intercalate_singleton]
      exact (solid first List.mem_cons_self).2
    · have broken := ih fun text mem => solid text (List.mem_cons_of_mem _ mem)
      rw [String.intercalate_cons_of_ne_nil some, String.toList_append, String.toList_append,
        List.mem_append, List.mem_append, single]
      exact not_or.2 ⟨not_or.2 ⟨(solid first List.mem_cons_self).2, by decide⟩, broken⟩

def IsAscii (text : String) : Prop := ∀ c ∈ text.toList, c.toNat < 128

instance (text : String) : Decidable (IsAscii text) := List.decidableBAll _ text.toList

theorem isAscii_append {s t : String} : IsAscii (s ++ t) ↔ IsAscii s ∧ IsAscii t := by
  simp only [IsAscii, String.toList_append, List.forall_mem_append]

theorem isAscii_padded (width : Nat) (value : Int) : IsAscii (Hex.padded width value) := by
  intro c mem
  obtain rfl | ⟨d, below, rfl⟩ := Hex.mem_padded mem
  · decide
  · exact (by decide : ∀ d < 16, (Nat.digitChar d).toUpper.toNat < 128) d below

theorem isAscii_repr (n : Nat) : IsAscii n.repr := by
  intro c mem
  rw [Nat.toList_repr] at mem
  obtain ⟨d, below, rfl⟩ := exists_digitChar_of_mem_toDigits (by decide) mem
  exact (by decide : ∀ d < 10, (Nat.digitChar d).toNat < 128) d below

theorem isAscii_intercalate (between : IsAscii separator) (each : ∀ text ∈ texts, IsAscii text) :
    IsAscii (separator.intercalate texts) := by
  induction texts with
  | nil => simp [IsAscii]
  | cons first rest ih =>
    obtain ⟨head, tail⟩ := List.forall_mem_cons.1 each
    by_cases some : rest = []
    · rwa [some, String.intercalate_singleton]
    · rw [String.intercalate_cons_of_ne_nil some, isAscii_append, isAscii_append]
      exact ⟨⟨head, between⟩, ih tail⟩

end Chip8
