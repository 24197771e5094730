import Chip8.Proofs.Framebuffer.Text

namespace Chip8.Framebuffer

variable {width height : Nat} {fb fb' : Framebuffer width height}

theorem getElem?_rows (fb : Framebuffer width height) (y : Fin height) :
    fb.rows[y.val]? = some ((List.finRange width).map fun x => fb.lit (x, y)) := by
  simp [rows_eq]

theorem length_of_mem_rows : ∀ row ∈ fb.rows, row.length = width := by
  simp [rows_eq]

theorem getElem?_bytes (fb : Framebuffer width height) (spot : Spot width height) :
    fb.bytes[spot.2.val * width + spot.1.val]? = some (if fb.lit spot then 255 else 0) := by
  have stored : spot.2.val * width + spot.1.val < fb.pixels.toList.length := by
    rw [← val_index, Vector.length_toList]
    exact (index spot).isLt
  rw [bytes, List.getElem?_map, List.getElem?_eq_getElem stored, fb.getElem_pixels]
  rfl

theorem getElem?_textRows (fb : Framebuffer width height) (on off : String) (y : Fin height) :
    (fb.textRows on off)[y.val]? =
      some (String.join ((List.finRange width).map fun x =>
        if fb.lit (x, y) then on else off)) := by
  simp [textRows_eq]

section Single

variable {on off : String} {a b : Char} (single : on.toList = [a]) (single' : off.toList = [b])

include single single'

theorem length_of_mem_textRows : ∀ row ∈ fb.textRows on off, row.toList.length = width := by
  intro row mem
  have shown : row.toList ∈ (fb.textRows on off).map String.toList := List.mem_map_of_mem mem
  rw [map_toList_textRows single single'] at shown
  obtain ⟨y, -, same⟩ := List.mem_map.1 shown
  simp [← same]

variable (line : a ≠ '\n') (line' : b ≠ '\n')

include line line'

theorem splitOn_text (fb : Framebuffer width height) :
    (fb.text on off).toList.splitOn '\n' = (fb.textRows on off).map String.toList :=
  splitOn_intercalate rfl (not_mem_textRows single single' line.symm line'.symm)
    (fb.textRows_ne_nil on off)

theorem text_inj (differ : a ≠ b) :
    fb.text on off = fb'.text on off ↔ fb.pixels = fb'.pixels := by
  rw [← textRows_inj single single' differ]
  have solid {fb : Framebuffer width height} : ∀ row ∈ fb.textRows on off, '\n' ∉ row.toList :=
    not_mem_textRows single single' line.symm line'.symm
  exact intercalate_inj rfl solid (fb.textRows_ne_nil on off) solid (fb'.textRows_ne_nil on off)

end Single

theorem views_agree (fb : Framebuffer width height) :
    (∀ (x : Fin width) (y : Fin height), fb.pixel x.val y.val = .ok (fb.lit (x, y)) ∧
      (fb.rows[y.val]?.bind fun row => row[x.val]?) = some (fb.lit (x, y)) ∧
      fb.bytes[y.val * width + x.val]? = some (if fb.lit (x, y) then 255 else 0)) ∧
    (fb.rows.length = height ∧ ∀ row ∈ fb.rows, row.length = width) ∧
    fb.bytes.length = width * height ∧
    (∀ on off : String, (fb.textRows on off).length = height ∧
      ∀ y : Fin height, (fb.textRows on off)[y.val]? =
        some (String.join ((List.finRange width).map fun x =>
          if fb.lit (x, y) then on else off))) ∧
    fb.litCount =
      (Finset.univ.filter fun spot : Spot width height => fb.lit spot = true).card ∧
    ∀ (on off : String) (a b : Char), on.toList = [a] → off.toList = [b] → a ≠ b → a ≠ '\n' →
      b ≠ '\n' →
      (fb.text on off).toList.splitOn '\n' = (fb.textRows on off).map String.toList ∧
      (∀ row ∈ fb.textRows on off, row.toList.length = width) ∧
      ∀ fb' : Framebuffer width height,
        fb.text on off = fb'.text on off ↔ fb.pixels = fb'.pixels := by
  refine ⟨fun x y => ⟨pixel_eq_lit fb (x, y), ?_, getElem?_bytes fb (x, y)⟩,
    ⟨by simp [rows], length_of_mem_rows⟩, by simp [bytes],
    fun on off => ⟨length_textRows fb on off, getElem?_textRows fb on off⟩,
    litCount_eq_card fb, ?_⟩
  · rw [getElem?_rows]
    simp
  · intro on off a b single single' differ line line'
    exact ⟨splitOn_text single single' line line' fb, length_of_mem_textRows single single',
      fun _ => text_inj single single' line line' differ⟩

theorem views_agree_dot :
    let fb : Framebuffer 3 2 := ((blank (by decide) (by decide)).draw 1 1 [0x80]).2
    (fb.text "#" ".").toList.splitOn '\n' = [['.', '.', '.'], ['.', '#', '.']] ∧
      fb.text "#" "." ≠ fb.clear.text "#" "." := by
  intro fb
  obtain ⟨-, -, -, -, -, texts⟩ := views_agree fb
  obtain ⟨split, -, same⟩ := texts "#" "." '#' '.' rfl rfl (by decide) (by decide) (by decide)
  have rows : (fb.textRows "#" ".").map String.toList = [['.', '.', '.'], ['.', '#', '.']] := by
    decide
  refine ⟨split.trans rows, fun equal => ?_⟩
  have lit : fb.pixels ≠ fb.clear.pixels := by decide
  exact lit ((same fb.clear).1 equal)

end Chip8.Framebuffer
