import Chip8.Proofs.Framebuffer.Grid
import Chip8.Proofs.Text.Fields

namespace Chip8.Framebuffer

variable {width height : Nat}

theorem getElem_pixels (fb : Framebuffer width height) (spot : Spot width height)
    (stored : spot.2.val * width + spot.1.val < fb.pixels.toList.length) :
    fb.pixels.toList[spot.2.val * width + spot.1.val] = fb.lit spot := by
  have position := val_index spot
  simp only [Vector.getElem_toList, ← position]
  rfl

theorem row_eq (fb : Framebuffer width height) (y : Fin height) :
    (fb.pixels.toList.drop (y.val * width)).take width =
      (List.finRange width).map fun x => fb.lit (x, y) := by
  have inside : y.val * width + width ≤ width * height := by
    calc y.val * width + width = (y.val + 1) * width := by rw [Nat.add_mul, Nat.one_mul]
      _ ≤ height * width := Nat.mul_le_mul_right _ y.isLt
      _ = width * height := Nat.mul_comm _ _
  apply List.ext_getElem
  · rw [List.length_take, List.length_drop, Vector.length_toList, List.length_map,
      List.length_finRange]
    omega
  · intro x below below'
    rw [List.length_map, List.length_finRange] at below'
    rw [List.getElem_take, List.getElem_drop, List.getElem_map, List.getElem_finRange]
    exact fb.getElem_pixels (⟨x, below'⟩, y) _

theorem rows_eq (fb : Framebuffer width height) :
    fb.rows = (List.finRange height).map fun y =>
      (List.finRange width).map fun x => fb.lit (x, y) := by
  rw [rows, ← List.map_coe_finRange_eq_range, List.map_map]
  exact List.map_congr_left fun y _ => fb.row_eq y

theorem textRows_eq (fb : Framebuffer width height) (on off : String) :
    fb.textRows on off = (List.finRange height).map fun y =>
      String.join ((List.finRange width).map fun x => if fb.lit (x, y) then on else off) := by
  rw [textRows, rows_eq, List.map_map]
  refine List.map_congr_left fun y _ => ?_
  rw [Function.comp_apply, List.map_map]
  rfl

theorem length_textRows (fb : Framebuffer width height) (on off : String) :
    (fb.textRows on off).length = height := by
  rw [textRows_eq, List.length_map, List.length_finRange]

theorem textRows_ne_nil (fb : Framebuffer width height) (on off : String) :
    fb.textRows on off ≠ [] := by
  rw [← List.length_pos_iff, length_textRows]
  exact fb.height_pos

section Single

variable {on off : String} {a b : Char} (single : on.toList = [a]) (single' : off.toList = [b])

include single single'

theorem map_toList_textRows (fb : Framebuffer width height) :
    (fb.textRows on off).map String.toList = (List.finRange height).map fun y =>
      (List.finRange width).map fun x => if fb.lit (x, y) then a else b := by
  rw [textRows_eq, List.map_map]
  refine List.map_congr_left fun y _ => ?_
  have shown (lit : Bool) : (if lit then on else off).toList = [if lit then a else b] := by
    cases lit
    · exact single'
    · exact single
  simp only [Function.comp_apply, String.toList_join, List.flatMap_map, shown]
  exact List.map_eq_flatMap.symm

theorem not_mem_textRows {fb : Framebuffer width height} {c : Char} (other : c ≠ a)
    (other' : c ≠ b) : ∀ row ∈ fb.textRows on off, c ∉ row.toList := by
  intro row mem inside
  have shown : row.toList ∈ (fb.textRows on off).map String.toList := List.mem_map_of_mem mem
  rw [map_toList_textRows single single'] at shown
  obtain ⟨y, -, same⟩ := List.mem_map.1 shown
  rw [← same] at inside
  obtain ⟨x, -, same⟩ := List.mem_map.1 inside
  split at same
  · exact other same.symm
  · exact other' same.symm

theorem textRows_inj {fb fb' : Framebuffer width height} (differ : a ≠ b) :
    fb.textRows on off = fb'.textRows on off ↔ fb.pixels = fb'.pixels := by
  constructor
  · intro same
    have shown := congrArg (List.map String.toList) same
    rw [map_toList_textRows single single', map_toList_textRows single single',
      List.map_inj_left] at shown
    have tells : Function.Injective fun lit : Bool => if lit then a else b := by
      intro lit lit' same
      cases lit <;> cases lit'
      case false.true => exact absurd same.symm differ
      case true.false => exact absurd same differ
      all_goals rfl
    refine pixels_eq_of_lit fun (x, y) => tells ?_
    exact List.map_inj_left.1 (shown y (List.mem_finRange y)) x (List.mem_finRange x)
  · intro same
    rw [textRows, textRows, rows, rows, same]

end Single

end Chip8.Framebuffer
