import Chip8.Proofs.Framebuffer.Sprites
import Mathlib.Algebra.BigOperators.Group.List.Basic
import Mathlib.Data.Int.ModEq

namespace Chip8

structure Drawing where
  x : Int
  y : Int
  rows : List UInt8

namespace Framebuffer

variable {width height : Nat}

def drawAll (fb : Framebuffer width height) (drawings : List Drawing) :
    Framebuffer width height :=
  drawings.foldl (fun fb d => (fb.draw d.x d.y d.rows).2) fb

/-- How many set bits of all drawings fall on a spot. -/
def totalCoverage (drawings : List Drawing) (spot : Spot width height) : Nat :=
  (drawings.map fun d => coverage d.x d.y d.rows spot).sum

theorem lit_drawAll (fb : Framebuffer width height) (drawings : List Drawing)
    (spot : Spot width height) :
    (fb.drawAll drawings).lit spot = (fb.lit spot ^^ (totalCoverage drawings spot).bodd) := by
  induction drawings generalizing fb with
  | nil => simp [drawAll, totalCoverage]
  | cons d rest ih =>
    have parity : (totalCoverage (d :: rest) spot).bodd =
        ((coverage d.x d.y d.rows spot).bodd ^^ (totalCoverage rest spot).bodd) := by
      rw [totalCoverage, List.map_cons, List.sum_cons, Nat.bodd_add]
      rfl
    -- The first drawing toggles by its own coverage, the others toggle what it leaves.
    rw [parity, ← Bool.xor_assoc, ← lit_draw]
    exact ih _

theorem pixels_drawAll_eq (fb : Framebuffer width height) {drawings drawings' : List Drawing}
    (h : ∀ spot : Spot width height,
      (totalCoverage drawings spot).bodd = (totalCoverage drawings' spot).bodd) :
    (fb.drawAll drawings).pixels = (fb.drawAll drawings').pixels := by
  apply pixels_eq_of_lit
  intro spot
  rw [lit_drawAll, lit_drawAll, h]

theorem totalCoverage_perm {drawings drawings' : List Drawing} (h : drawings.Perm drawings')
    (spot : Spot width height) : totalCoverage drawings spot = totalCoverage drawings' spot :=
  (h.map _).sum_eq

@[simp]
theorem totalCoverage_append (drawings drawings' : List Drawing) (spot : Spot width height) :
    totalCoverage (drawings ++ drawings') spot =
      totalCoverage drawings spot + totalCoverage drawings' spot := by
  simp [totalCoverage]

@[simp]
theorem totalCoverage_singleton (d : Drawing) (spot : Spot width height) :
    totalCoverage [d] spot = coverage d.x d.y d.rows spot := by
  simp [totalCoverage]

theorem coverage_of_modEq {x x' y y' : Int} (column : x ≡ x' [ZMOD width])
    (row : y ≡ y' [ZMOD height]) (rows : List UInt8) (spot : Spot width height) :
    coverage x y rows spot = coverage x' y' rows spot := by
  unfold coverage
  congr 1
  apply Finset.filter_congr
  intro bit _
  rw [column.add_right bit.1, row.add_right bit.2]

theorem hit_draw_twice (fb : Framebuffer width height) (x y : Int) {rows : List UInt8}
    (shows : (bitsOf rows).Nonempty) :
    (fb.draw x y rows).1 = true ∨ ((fb.draw x y rows).2.draw x y rows).1 = true := by
  obtain ⟨bit, member⟩ := shows
  let spot := fb.wrap (x + bit.1) (y + bit.2)
  have covered : 1 ≤ coverage x y rows spot := by
    apply Finset.card_pos.2
    exact ⟨bit, Finset.mem_filter.2 ⟨member, wrap_eq_iff.1 rfl⟩⟩
  rw [hit_draw, hit_draw]
  rcases Nat.lt_or_eq_of_le covered with twice | once
  · exact Or.inl ⟨spot, Or.inr twice⟩
  · cases lit : fb.lit spot with
    | true => exact Or.inl ⟨spot, Or.inl ⟨covered, lit⟩⟩
    | false =>
      refine Or.inr ⟨spot, Or.inl ⟨covered, ?_⟩⟩
      rw [lit_draw, lit, ← once]
      rfl

theorem drawings_commute_and_cancel (fb : Framebuffer width height) :
    (∀ drawings drawings' : List Drawing, drawings.Perm drawings' →
      (fb.drawAll drawings).pixels = (fb.drawAll drawings').pixels) ∧
    (∀ (before between after : List Drawing) (d d' : Drawing), d.rows = d'.rows →
      d.x ≡ d'.x [ZMOD width] → d.y ≡ d'.y [ZMOD height] →
      (fb.drawAll (before ++ [d] ++ between ++ [d'] ++ after)).pixels =
        (fb.drawAll (before ++ between ++ after)).pixels) ∧
    (∀ (x y : Int) (rows : List UInt8), (bitsOf rows).Nonempty →
      (fb.draw x y rows).1 = true ∨ ((fb.draw x y rows).2.draw x y rows).1 = true) := by
  refine ⟨?_, ?_, fun x y rows shows => hit_draw_twice fb x y shows⟩
  · intro drawings drawings' perm
    apply pixels_drawAll_eq
    intro spot
    rw [totalCoverage_perm perm]
  · intro before between after d d' rows column row
    apply pixels_drawAll_eq
    intro spot
    have same : coverage d.x d.y d.rows spot = coverage d'.x d'.y d'.rows spot := by
      rw [rows, coverage_of_modEq column row]
    have twice : totalCoverage (before ++ [d] ++ between ++ [d'] ++ after) spot =
        totalCoverage (before ++ between ++ after) spot + 2 * coverage d'.x d'.y d'.rows spot := by
      simp only [totalCoverage_append, totalCoverage_singleton, same]
      omega
    rw [twice, Nat.bodd_add, Nat.bodd_mul, Nat.bodd_two, Bool.false_and, Bool.xor_false]

theorem drawings_commute_and_cancel_around :
    let fb : Framebuffer 5 2 := ((blank (by decide) (by decide)).draw 4 1 [0x80]).2
    let d : Drawing := ⟨-1, 3, [0x94, 0x03]⟩
    let d' : Drawing := ⟨4, 1, [0x94, 0x03]⟩
    let other : Drawing := ⟨0, 0, [0xF0]⟩
    (fb.drawAll [d, other]).pixels = (fb.drawAll [other, d]).pixels ∧
      (fb.drawAll [d, other, d']).pixels = (fb.drawAll [other]).pixels ∧
      ((fb.draw 4 1 d.rows).1 = true ∨ ((fb.draw 4 1 d.rows).2.draw 4 1 d.rows).1 = true) := by
  intro fb d d' other
  obtain ⟨commute, cancel, hits⟩ := drawings_commute_and_cancel fb
  have shows : (bitsOf d.rows).Nonempty := ⟨(0, 0), by decide⟩
  exact ⟨commute _ _ (.swap other d []), cancel [] [other] [] d d' rfl (by decide) (by decide),
    hits 4 1 d.rows shows⟩

end Framebuffer
end Chip8
