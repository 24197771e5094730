import Chip8.Framebuffer
import Mathlib.Data.Nat.Bits

namespace Chip8.Framebuffer

variable {width height : Nat}

theorem get_toggle (pixels : Vector Bool (width * height)) (k j : Fin (width * height)) :
    (toggle pixels k).2.get j = (pixels.get j ^^ decide (j = k)) := by
  show (pixels.set k.val (!pixels.get k) k.isLt)[j.val] = (pixels[j.val] ^^ decide (j = k))
  rw [Vector.getElem_set]
  by_cases same : k = j
  · subst same
    simp [Vector.get]
  · have apart : k.val ≠ j.val := fun h => same (Fin.ext h)
    simp [apart, Ne.symm same]

theorem get_toggleAll (hit : Bool) (pixels : Vector Bool (width * height))
    (listed : List (Fin (width * height))) (j : Fin (width * height)) :
    (toggleAll hit pixels listed).2.get j = (pixels.get j ^^ (listed.count j).bodd) := by
  induction listed generalizing hit pixels with
  | nil => simp [toggleAll]
  | cons first rest ih =>
    rw [toggleAll, ih, get_toggle, Bool.xor_assoc]
    congr 1
    by_cases same : first = j
    · simp [same, Nat.bodd_succ]
    · simp [same, Ne.symm same]

/-- A listed pixel is lit before its turn: it was lit at the start, or it is listed twice. -/
def Collides (pixels : Vector Bool (width * height)) (listed : List (Fin (width * height))) :
    Prop :=
  ∃ j ∈ listed, pixels.get j = true ∨ 2 ≤ listed.count j

theorem collides_cons {pixels : Vector Bool (width * height)} {first : Fin (width * height)}
    {rest : List (Fin (width * height))} :
    Collides pixels (first :: rest) ↔
      pixels.get first = true ∨ Collides (toggle pixels first).2 rest := by
  constructor
  · rintro ⟨j, member, reason⟩
    by_cases same : j = first
    · subst same
      rcases reason with lit | twice
      · exact Or.inl lit
      · have again : j ∈ rest := by
          rw [List.count_cons_self] at twice
          exact List.count_pos_iff.1 (by omega)
        cases lit : pixels.get j with
        | true => exact Or.inl rfl
        | false => exact Or.inr ⟨j, again, Or.inl (by simp [get_toggle, lit])⟩
    · refine Or.inr ⟨j, (List.mem_cons.1 member).resolve_left same, ?_⟩
      rw [List.count_cons_of_ne (Ne.symm same)] at reason
      simpa [get_toggle, same] using reason
  · rintro (lit | ⟨j, member, reason⟩)
    · exact ⟨first, List.mem_cons_self, Or.inl lit⟩
    · refine ⟨j, List.mem_cons_of_mem first member, ?_⟩
      by_cases same : j = first
      · subst same
        have positive := List.count_pos_iff.2 member
        rw [List.count_cons_self]
        exact Or.inr (by omega)
      · rw [List.count_cons_of_ne (Ne.symm same)]
        simpa [get_toggle, same] using reason

theorem hit_toggleAll {hit : Bool} {pixels : Vector Bool (width * height)}
    {listed : List (Fin (width * height))} :
    (toggleAll hit pixels listed).1 = true ↔ hit = true ∨ Collides pixels listed := by
  induction listed generalizing hit pixels with
  | nil => simp [toggleAll, Collides]
  | cons first rest ih =>
    rw [toggleAll, ih, Bool.or_eq_true, or_assoc, collides_cons]
    rfl

end Chip8.Framebuffer
