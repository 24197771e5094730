import Chip8.Proofs.Framebuffer.Grid
import Chip8.Proofs.Framebuffer.Toggling
import Mathlib.Data.Finset.Prod
import Mathlib.Data.List.Sigma

namespace Chip8.Framebuffer

variable {width height : Nat}

/-- The set bits of some bytes, by column and row. The most significant bit is in column 0. -/
def setBits (byte : Nat → UInt8) (count : Nat) : Finset (Nat × Nat) :=
  (Finset.range 8 ×ˢ Finset.range count).filter fun bit =>
    (byte bit.2).toNat.testBit (7 - bit.1) = true

abbrev bitsOf (rows : List UInt8) : Finset (Nat × Nat) := setBits (rows.getD · 0) rows.length

/-- How many set bits of a sprite at a point of the plane fall on a spot. -/
def coverage (x y : Int) (rows : List UInt8) (spot : Spot width height) : Nat :=
  ((bitsOf rows).filter fun bit =>
    (x + bit.1) % width = spot.1.val ∧ (y + bit.2) % height = spot.2.val).card

theorem mem_spriteBits {rows : List UInt8} {bit : Nat × Nat} :
    bit ∈ spriteBits rows ↔ bit ∈ bitsOf rows := by
  obtain ⟨dx, dy⟩ := bit
  simp only [spriteBits, litColumns, bitsOf, setBits, List.mem_flatMap, List.mem_map,
    List.mem_filter, Finset.mem_filter, Finset.mem_product, Finset.mem_range, List.mem_range]
  constructor
  · rintro ⟨⟨row, dy'⟩, listed, dx', ⟨below, bit⟩, same⟩
    cases same
    rw [List.mk_mem_zipIdx_iff_getElem?] at listed
    obtain ⟨inside, -⟩ := List.getElem?_eq_some_iff.1 listed
    refine ⟨⟨below, inside⟩, ?_⟩
    rwa [List.getD_eq_getElem?_getD, listed]
  · rintro ⟨⟨below, inside⟩, bit⟩
    have row := List.getElem?_eq_getElem inside
    rw [List.getD_eq_getElem?_getD, row] at bit
    exact ⟨(rows[dy], dy), List.mk_mem_zipIdx_iff_getElem?.2 row, dx, ⟨below, bit⟩, rfl⟩

theorem nodup_spriteBits (rows : List UInt8) : (spriteBits rows).Nodup := by
  rw [spriteBits, List.nodup_flatMap]
  constructor
  · intro entry _
    apply List.Nodup.map
    · intro dx dx' same
      exact (Prod.mk.inj same).1
    · exact List.nodup_range.filter _
  · have numbered := List.pairwise_map.1 (List.nodup_zipIdx_map_snd rows)
    refine numbered.imp fun {entry entry'} apart => ?_
    intro bit here there
    obtain ⟨dx, -, rfl⟩ := List.mem_map.1 here
    obtain ⟨dx', -, same⟩ := List.mem_map.1 there
    exact apart (Prod.mk.inj same).2.symm

def touched (fb : Framebuffer width height) (x y : Int) (rows : List UInt8) :
    List (Fin (width * height)) :=
  (spriteBits rows).map fun (dx, dy) => fb.position (x + dx) (y + dy)

theorem count_touched (fb : Framebuffer width height) (x y : Int) (rows : List UInt8)
    (spot : Spot width height) :
    (fb.touched x y rows).count (index spot) = coverage x y rows spot := by
  have falls (bit : Nat × Nat) : fb.position (x + bit.1) (y + bit.2) = index spot ↔
      (x + bit.1) % width = spot.1.val ∧ (y + bit.2) % height = spot.2.val := by
    rw [← index_wrap, index.injective.eq_iff, wrap_eq_iff]
  rw [touched, List.count_eq_countP, List.countP_map, List.countP_eq_length_filter,
    ← List.toFinset_card_of_nodup ((nodup_spriteBits rows).filter _)]
  congr 1
  ext bit
  simp [mem_spriteBits, falls]

theorem draw_eq (fb : Framebuffer width height) (x y : Int) (rows : List UInt8) :
    fb.draw x y rows =
      ((toggleAll false fb.pixels (fb.touched x y rows)).1,
        { fb with pixels := (toggleAll false fb.pixels (fb.touched x y rows)).2, dirty := true }) :=
  rfl

theorem lit_draw (fb : Framebuffer width height) (x y : Int) (rows : List UInt8)
    (spot : Spot width height) :
    (fb.draw x y rows).2.lit spot = (fb.lit spot ^^ (coverage x y rows spot).bodd) := by
  rw [draw_eq, lit, get_toggleAll, count_touched]
  rfl

theorem hit_draw (fb : Framebuffer width height) (x y : Int) (rows : List UInt8) :
    (fb.draw x y rows).1 = true ↔
      ∃ spot : Spot width height,
        1 ≤ coverage x y rows spot ∧ fb.lit spot = true ∨ 2 ≤ coverage x y rows spot := by
  rw [draw_eq, hit_toggleAll, Collides, index.surjective.exists]
  simp only [Bool.false_eq_true, false_or, ← List.count_pos_iff, count_touched, lit]
  refine exists_congr fun spot => ?_
  constructor
  · rintro ⟨covered, lit | twice⟩
    · exact Or.inl ⟨covered, lit⟩
    · exact Or.inr twice
  · rintro (⟨covered, lit⟩ | twice)
    · exact ⟨covered, Or.inl lit⟩
    · exact ⟨Nat.lt_of_lt_of_le Nat.zero_lt_two twice, Or.inr twice⟩

theorem drawing_follows_coverage (fb : Framebuffer width height) (x y : Int) (rows : List UInt8) :
    let hit := (fb.draw x y rows).1
    let after := (fb.draw x y rows).2
    (∀ bit ∈ bitsOf rows,
      let k := fb.position (x + bit.1) (y + bit.2)
      (k.val : Int) = (y + bit.2) % height * width + (x + bit.1) % width ∧
        k.val < fb.pixels.toList.length) ∧
    after.pixels.toList.length = width * height ∧
    (∀ (px : Fin width) (py : Fin height), ∃ old, fb.pixel px.val py.val = .ok old ∧
      after.pixel px.val py.val = .ok (old ^^ (coverage x y rows (px, py)).bodd)) ∧
    (hit = true ↔ ∃ (px : Fin width) (py : Fin height),
      1 ≤ coverage x y rows (px, py) ∧ fb.pixel px.val py.val = .ok true ∨
        2 ≤ coverage x y rows (px, py)) ∧
    after.dirty = true := by
  intro hit after
  refine ⟨?_, Vector.length_toList, ?_, ?_, rfl⟩
  · intro bit _ k
    obtain ⟨column, row⟩ := wrap_eq_iff.1 (rfl : fb.wrap (x + bit.1) (y + bit.2) = _)
    refine ⟨?_, k.isLt.trans_eq Vector.length_toList.symm⟩
    rw [column, row, show k = _ from (index_wrap fb _ _).symm, val_index]
    rfl
  · intro px py
    refine ⟨fb.lit (px, py), pixel_eq_lit fb (px, py), ?_⟩
    rw [← lit_draw]
    exact pixel_eq_lit after (px, py)
  · have lit (px : Fin width) (py : Fin height) :
        fb.pixel px.val py.val = .ok true ↔ fb.lit (px, py) = true := by
      rw [pixel_eq_lit fb (px, py), Except.ok.injEq]
    simp only [lit]
    exact (hit_draw fb x y rows).trans Prod.exists

example :
    let fb : Framebuffer 5 1 := blank (by decide) (by decide)
    let (hit, after) := fb.draw 7 (-3) [0x94]
    hit = true ∧ after.rows = [[true, false, false, false, false]] ∧
      coverage 7 (-3) [0x94] ((2, 0) : Spot 5 1) = 2 := by
  decide

end Chip8.Framebuffer
