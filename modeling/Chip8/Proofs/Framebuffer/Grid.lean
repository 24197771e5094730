import Chip8.Framebuffer
import Mathlib.Data.Fintype.Fin
import Mathlib.Data.Fintype.Prod
import Mathlib.Logic.Equiv.Fin.Basic

namespace Chip8.Framebuffer

variable {width height : Nat}

abbrev Spot (width height : Nat) : Type := Fin width × Fin height

def index : Spot width height ≃ Fin (width * height) :=
  (Equiv.prodComm _ _).trans (finProdFinEquiv.trans (finCongr (Nat.mul_comm height width)))

theorem val_index (spot : Spot width height) :
    (index spot).val = spot.2.val * width + spot.1.val := by
  show spot.1.val + width * spot.2.val = _
  rw [Nat.mul_comm, Nat.add_comm]

def lit (fb : Framebuffer width height) (spot : Spot width height) : Bool :=
  fb.pixels.get (index spot)

theorem pixel_eq_lit (fb : Framebuffer width height) (spot : Spot width height) :
    fb.pixel spot.1.val spot.2.val = .ok (fb.lit spot) := by
  have stored : (spot.2.val * width + spot.1.val : Int) = ((index spot).val : Nat) := by
    rw [val_index]
    rfl
  rw [pixel, stored, signedIndex?_natCast (index spot).isLt]
  rfl

theorem pixels_eq_of_lit {fb fb' : Framebuffer width height}
    (h : ∀ spot, fb.lit spot = fb'.lit spot) : fb.pixels = fb'.pixels := by
  apply Vector.ext
  intro k below
  have same := h (index.symm ⟨k, below⟩)
  rwa [lit, lit, Equiv.apply_symm_apply] at same

theorem toNat_emod_lt {n : Nat} (positive : 0 < n) (x : Int) : (x % n).toNat < n := by
  have nonneg := Int.emod_nonneg x (Int.natCast_ne_zero.2 (Nat.ne_of_gt positive))
  have below := Int.emod_lt_of_pos x (Int.natCast_pos.2 positive)
  omega

def wrap (fb : Framebuffer width height) (x y : Int) : Spot width height :=
  (⟨(x % width).toNat, toNat_emod_lt fb.width_pos x⟩,
    ⟨(y % height).toNat, toNat_emod_lt fb.height_pos y⟩)

theorem index_wrap (fb : Framebuffer width height) (x y : Int) :
    index (fb.wrap x y) = fb.position x y :=
  Fin.ext (val_index _)

theorem wrap_eq_iff {fb : Framebuffer width height} {x y : Int} {spot : Spot width height} :
    fb.wrap x y = spot ↔ x % width = spot.1.val ∧ y % height = spot.2.val := by
  have column := Int.emod_nonneg x (Int.natCast_ne_zero.2 (Nat.ne_of_gt fb.width_pos))
  have row := Int.emod_nonneg y (Int.natCast_ne_zero.2 (Nat.ne_of_gt fb.height_pos))
  simp only [Prod.ext_iff, Fin.ext_iff, wrap]
  omega

theorem wrap_eq_wrap_iff {fb : Framebuffer width height} {x y x' y' : Int} :
    fb.wrap x y = fb.wrap x' y' ↔ x % width = x' % width ∧ y % height = y' % height := by
  obtain ⟨column, row⟩ := wrap_eq_iff.1 (rfl : fb.wrap x' y' = _)
  rw [wrap_eq_iff, column, row]

def litSpots (fb : Framebuffer width height) : Finset (Spot width height) :=
  Finset.univ.filter fun spot => fb.lit spot = true

theorem litCount_eq_card (fb : Framebuffer width height) : fb.litCount = fb.litSpots.card := by
  let stored : List.Vector Bool (width * height) := ⟨fb.pixels.toList, Vector.length_toList⟩
  have counted : fb.litCount = (Finset.univ.filter fun k => stored.get k = true).card :=
    (Fin.card_filter_univ_eq_vector_get_eq_count true stored).symm
  rw [counted]
  refine (Finset.card_equiv index fun spot => ?_).symm
  simp only [litSpots, Finset.mem_filter_univ]
  rfl

end Chip8.Framebuffer
