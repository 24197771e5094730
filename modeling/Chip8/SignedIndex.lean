import Chip8.Error

/-! An index below zero counts from the end of a list. Indices and sizes are words of 64 bits with a
sign; what does not fit is refused as such, whatever the list. -/

namespace Chip8

def signedIndex? (n : Nat) (index : Int) : Option (Fin n) :=
  if low : 0 ≤ index ∧ index < n then some ⟨index.toNat, by omega⟩
  else if high : index < 0 ∧ -n ≤ index then some ⟨(index + n).toNat, by omega⟩
  else none

theorem signedIndex?_natCast {n k : Nat} (h : k < n) : signedIndex? n k = some ⟨k, h⟩ := by
  simp [signedIndex?, h]

def indexBound : Nat := UInt64.size / 2

def fitsIndex (index : Int) : Bool := -indexBound ≤ index && index < indexBound

/-- The refusal of an index that names no position: `outside`, unless no list could have it. -/
def Error.ofIndex (index : Int) (outside : Error) : Error :=
  if fitsIndex index then outside else .indexTooWide

/-- Checks that a list of a size can be made. One of a size below zero is empty. -/
def checkSize (room : Nat → Bool) (size : Int) : Except Error Unit :=
  if !fitsIndex size then .error .sizeTooWide
  else if 0 < size && !room size.toNat then .error .noRoom
  else .ok ()

end Chip8
