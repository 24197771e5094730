import Chip8.Proofs.Framebuffer.Sprites
import Mathlib.Data.Int.ModEq

namespace Chip8.Framebuffer

variable {width height : Nat} {fb : Framebuffer width height} {x y : Int} {rows : List UInt8}

def covered (fb : Framebuffer width height) (x y : Int) (rows : List UInt8) :
    Finset (Spot width height) :=
  (bitsOf rows).image fun bit => fb.wrap (x + bit.1) (y + bit.2)

def wentOut (before after : Framebuffer width height) : Finset (Spot width height) :=
  Finset.univ.filter fun spot => before.lit spot = true ∧ after.lit spot = false

theorem eq_of_modEq_add {n a b : Nat} {x : Int} (h : x + a ≡ x + b [ZMOD n]) (ha : a < n)
    (hb : b < n) : a = b := by
  have same : a ≡ b [MOD n] := Int.natCast_modEq_iff.1 (Int.ModEq.add_left_cancel' x h)
  exact same.eq_of_lt_of_lt ha hb

theorem injOn_wrap (wide : 8 ≤ width) (high : rows.length ≤ height) :
    Set.InjOn (fun bit : Nat × Nat => fb.wrap (x + bit.1) (y + bit.2)) (bitsOf rows) := by
  intro bit member bit' member' same
  obtain ⟨columns, rows⟩ := wrap_eq_wrap_iff.1 same
  simp only [bitsOf, setBits, Finset.coe_filter, Finset.mem_product, Finset.mem_range,
    Set.mem_ofPred_eq] at member member'
  apply Prod.ext
  · exact eq_of_modEq_add columns (by omega) (by omega)
  · exact eq_of_modEq_add rows (by omega) (by omega)

section Apart

variable (apart : Set.InjOn (fun bit : Nat × Nat => fb.wrap (x + bit.1) (y + bit.2)) (bitsOf rows))

include apart

theorem coverage_of_apart (spot : Spot width height) :
    coverage x y rows spot = if spot ∈ fb.covered x y rows then 1 else 0 := by
  have fiber : coverage x y rows spot =
      ((bitsOf rows).filter fun bit => fb.wrap (x + bit.1) (y + bit.2) = spot).card := by
    simp only [coverage, wrap_eq_iff]
  rw [fiber]
  split_ifs with member
  · obtain ⟨bit, listed, falls⟩ := Finset.mem_image.1 member
    apply Nat.le_antisymm
    · apply Finset.card_le_one.2
      intro bit' here bit'' there
      rw [Finset.mem_filter] at here there
      exact apart here.1 there.1 (here.2.trans there.2.symm)
    · exact Finset.card_pos.2 ⟨bit, Finset.mem_filter.2 ⟨listed, falls⟩⟩
  · rw [Finset.card_eq_zero, Finset.filter_eq_empty_iff]
    intro bit listed falls
    exact member (Finset.mem_image.2 ⟨bit, listed, falls⟩)

theorem lit_draw_of_apart (spot : Spot width height) :
    (fb.draw x y rows).2.lit spot = (fb.lit spot ^^ decide (spot ∈ fb.covered x y rows)) := by
  rw [lit_draw, coverage_of_apart apart]
  split_ifs with member <;> simp [member]

theorem wentOut_draw :
    wentOut fb (fb.draw x y rows).2 = fb.litSpots ∩ fb.covered x y rows := by
  ext spot
  simp only [wentOut, litSpots, Finset.mem_filter_univ, Finset.mem_inter, lit_draw_of_apart apart]
  refine and_congr_right fun lit => ?_
  simp [lit]

theorem hit_draw_of_apart :
    (fb.draw x y rows).1 = true ↔ (wentOut fb (fb.draw x y rows).2).Nonempty := by
  rw [hit_draw, wentOut_draw apart]
  refine exists_congr fun spot => ?_
  rw [coverage_of_apart apart]
  split_ifs with member <;> simp [litSpots, member]

theorem litSpots_draw :
    (fb.draw x y rows).2.litSpots =
      fb.litSpots \ fb.covered x y rows ∪ fb.covered x y rows \ fb.litSpots := by
  ext spot
  simp only [litSpots, Finset.mem_filter_univ, lit_draw_of_apart apart, Finset.mem_union,
    Finset.mem_sdiff]
  cases fb.lit spot <;> simp

theorem litCount_draw :
    ((fb.draw x y rows).2.litCount : Int) = fb.litCount + (bitsOf rows).card -
      2 * (wentOut fb (fb.draw x y rows).2).card := by
  have all : (fb.covered x y rows).card = (bitsOf rows).card := Finset.card_image_of_injOn apart
  have stay := Finset.card_sdiff_add_card_inter fb.litSpots (fb.covered x y rows)
  have come := Finset.card_sdiff_add_card_inter (fb.covered x y rows) fb.litSpots
  rw [Finset.inter_comm] at come
  rw [litCount_eq_card, litCount_eq_card, wentOut_draw apart, litSpots_draw apart,
    Finset.card_union_of_disjoint disjoint_sdiff_sdiff]
  omega

end Apart

end Chip8.Framebuffer
