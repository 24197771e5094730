import Chip8.Headless.Run
import Chip8.Proofs.Machine.Summary

namespace Chip8.Headless.Invocation

variable {inv : Invocation} {m m' : Machine}

def lines (inv : Invocation) (m : Machine) : List String :=
  m.screenLines ++ if inv.summary then ["", m.statusLine, m.registerLine] else []

theorem picture_eq (inv : Invocation) (m : Machine) :
    inv.picture m = "\n".intercalate (inv.lines m) := by
  unfold picture lines
  cases inv.summary with
  | true =>
    have some : ["", m.statusLine, m.registerLine] ≠ [] := List.cons_ne_nil _ _
    rw [if_pos rfl, if_pos rfl, String.intercalate_append_of_ne_nil m.screenLines_ne_nil some,
      m.summary_eq]
    simp only [String.intercalate_cons_cons, String.intercalate_singleton, String.append_assoc]
    rfl
  | false =>
    rw [if_neg Bool.false_ne_true, if_neg Bool.false_ne_true, List.append_nil]
    rfl

theorem not_mem_lines : ∀ line ∈ inv.lines m, '\n' ∉ line.toList := by
  have screen : ∀ line ∈ m.screenLines, '\n' ∉ line.toList :=
    Framebuffer.not_mem_textRows rfl rfl (by decide) (by decide)
  intro line mem
  rcases List.mem_append.1 mem with row | below
  · exact screen line row
  · split at below
    · simp only [List.mem_cons, List.not_mem_nil, or_false] at below
      rcases below with rfl | rfl | rfl
      · decide
      · exact Machine.not_mem_statusLine
      · exact Machine.not_mem_registerLine
    · cases below

theorem lines_ne_nil : inv.lines m ≠ [] :=
  List.append_ne_nil_of_left_ne_nil m.screenLines_ne_nil _

theorem lines_inj : inv.lines m = inv.lines m' ↔
    m.screen.pixels = m'.screen.pixels ∧ (inv.summary = true → Machine.SameSummary m m') := by
  have rows : m.screenLines.length = m'.screenLines.length := by
    rw [Machine.screenLines, Machine.screenLines, Framebuffer.length_textRows,
      Framebuffer.length_textRows]
  unfold lines
  cases inv.summary with
  | true =>
    simp only [↓reduceIte, true_imp_iff, ← Machine.lines_eq_iff, ← Machine.screenLines_inj]
    constructor
    · intro same
      obtain ⟨screen, below⟩ := List.append_inj same rows
      simp only [List.cons.injEq, and_true, true_and] at below
      exact ⟨screen, below⟩
    · rintro ⟨screen, status, registers⟩
      rw [screen, status, registers]
  | false => simp [Machine.screenLines_inj]

theorem picture_inj : inv.picture m = inv.picture m' ↔
    m.screen.pixels = m'.screen.pixels ∧ (inv.summary = true → Machine.SameSummary m m') := by
  rw [picture_eq, picture_eq, ← lines_inj]
  exact intercalate_inj rfl not_mem_lines lines_ne_nil not_mem_lines lines_ne_nil

theorem isAscii_picture (inv : Invocation) (m : Machine) : IsAscii (inv.picture m) := by
  rw [picture_eq]
  refine isAscii_intercalate (by decide) fun line mem => ?_
  rcases List.mem_append.1 mem with row | below
  · exact Machine.isAscii_screenLines line row
  · split at below
    · simp only [List.mem_cons, List.not_mem_nil, or_false] at below
      rcases below with rfl | rfl | rfl
      · decide
      · exact m.isAscii_statusLine
      · exact m.isAscii_registerLine
    · cases below

end Chip8.Headless.Invocation
