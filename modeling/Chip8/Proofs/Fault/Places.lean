import Chip8.Proofs.Text.Plain
import Mathlib.Data.List.Basic

namespace Chip8.Fault

structure Place where
  pc : Option Int
  opcode : Option Int
deriving DecidableEq

namespace Place

def isKnown (p : Place) : Bool := p.pc.isSome

/-- The first place that is known, or the last of all if none is. -/
def settled (raised : Place) (given : List Place) : Place :=
  ((raised :: given).find? isKnown).getD (given.getLastD raised)

end Place

def place (f : Fault) : Place := ⟨f.pc, f.opcode⟩

def locateAll (f : Fault) (given : List Place) : Fault :=
  given.foldl (fun f p => f.locate p.pc p.opcode) f

/-- A fault together with its text, as it was last written. -/
structure Notice extends Fault where
  line : String

namespace Notice

def raised (f : Fault) : Notice := ⟨f, f.text⟩

def locate (n : Notice) (pc opcode : Option Int) : Notice :=
  if n.pc.isSome then n
  else
    let fault := { n.toFault with pc, opcode }
    ⟨fault, fault.text⟩

def locateAll (n : Notice) (given : List Place) : Notice :=
  given.foldl (fun n p => n.locate p.pc p.opcode) n

def IsCurrent (n : Notice) : Prop := n.line = n.text

instance (n : Notice) : Decidable n.IsCurrent := inferInstanceAs (Decidable (_ = _))

end Notice

variable {f : Fault} {given : List Place}

/-! ## Texts -/

theorem text_eq (f : Fault) : f.text =
    match f.pc, f.opcode with
    | some pc, some opcode => "$" ++ Hex.word pc ++ " [" ++ Hex.word opcode ++ "]: " ++ f.message
    | some pc, none => "$" ++ Hex.word pc ++ ": " ++ f.message
    | none, _ => f.message := by
  unfold text
  cases f.pc with
  | none => rfl
  | some pc => cases f.opcode <;> rfl

/-! ## Taking places -/

theorem place_locate (f : Fault) (pc opcode : Option Int) :
    (f.locate pc opcode).place = if f.place.isKnown then f.place else ⟨pc, opcode⟩ := by
  unfold locate place Place.isKnown
  split <;> rfl

theorem cause_locate (f : Fault) (pc opcode : Option Int) :
    (f.locate pc opcode).cause = f.cause := by
  unfold locate
  split <;> rfl

theorem locateAll_induction {P : Fault → Prop} (start : P f)
    (preserved : ∀ f pc opcode, P f → P (f.locate pc opcode)) : P (f.locateAll given) :=
  List.foldlRecOn given _ start fun f holds p _ => preserved f p.pc p.opcode holds

theorem cause_message_locateAll (f : Fault) (given : List Place) :
    (f.locateAll given).cause = f.cause ∧ (f.locateAll given).message = f.message := by
  let Same (g : Fault) : Prop := g.cause = f.cause ∧ g.message = f.message
  apply locateAll_induction (P := Same) ⟨rfl, rfl⟩
  intro g pc opcode same
  exact ⟨(cause_locate g pc opcode).trans same.1, (message_locate g pc opcode).trans same.2⟩

/-! ## Settled places -/

namespace Place

theorem isKnown_eq_false_iff {p : Place} : p.isKnown = false ↔ p.pc = none :=
  Option.isSome_eq_false_iff.trans Option.isNone_iff_eq_none

theorem settled_nil (raised : Place) : raised.settled [] = raised := by
  unfold settled
  cases found : [raised].find? isKnown with
  | none => rfl
  | some p => exact List.mem_singleton.1 (List.mem_of_find?_eq_some found)

theorem settled_cons (raised next : Place) (given : List Place) :
    raised.settled (next :: given) = (if raised.isKnown then raised else next).settled given := by
  unfold settled
  split
  next known =>
    rw [List.find?_cons_of_pos known, List.find?_cons_of_pos known]
    rfl
  next unknown => rw [List.find?_cons_of_neg unknown, List.getLastD_cons]

theorem pc_settled_eq_none_iff {raised : Place} :
    (raised.settled given).pc = none ↔ raised.pc = none ∧ ∀ p ∈ given, p.pc = none := by
  simp only [← isKnown_eq_false_iff, settled]
  rw [← List.forall_mem_cons (p := fun p : Place => p.isKnown = false)]
  cases found : (raised :: given).find? isKnown with
  | none =>
    have unknown : ∀ p ∈ raised :: given, p.isKnown = false := by
      simpa only [List.find?_eq_none, Bool.not_eq_true] using found
    exact iff_of_true (unknown _ List.getLastD_mem_cons) unknown
  | some p =>
    have known : p.isKnown ≠ false := by simp [List.find?_some found]
    exact iff_of_false known fun unknown => known (unknown p (List.mem_of_find?_eq_some found))

end Place

theorem place_locateAll (f : Fault) (given : List Place) :
    (f.locateAll given).place = f.place.settled given := by
  induction given generalizing f with
  | nil => exact (Place.settled_nil f.place).symm
  | cons p rest ih =>
    -- The place that the first call leaves takes the part of the one that the fault was raised at.
    rw [Place.settled_cons, ← place_locate f p.pc p.opcode]
    exact ih (f.locate p.pc p.opcode)

/-! ## Notices -/

namespace Notice

variable {n : Notice}

theorem locate_of_placed (h : n.pc ≠ none) (pc opcode : Option Int) : n.locate pc opcode = n :=
  if_pos (Option.isSome_iff_ne_none.2 h)

theorem toFault_locate (n : Notice) (pc opcode : Option Int) :
    (n.locate pc opcode).toFault = n.toFault.locate pc opcode := by
  unfold locate Fault.locate
  split <;> rfl

theorem isCurrent_raised (f : Fault) : (raised f).IsCurrent := rfl

theorem isCurrent_locate (h : n.IsCurrent) (pc opcode : Option Int) :
    (n.locate pc opcode).IsCurrent := by
  unfold locate
  split
  · exact h
  · rfl

example : ¬ ({ raised returnFromEmpty with pc := some 0x0202 } : Notice).IsCurrent := by
  decide +kernel

theorem locateAll_of_placed (h : n.pc ≠ none) (given : List Place) : n.locateAll given = n :=
  List.foldl_fixed' (fun p => locate_of_placed h p.pc p.opcode) given

theorem toFault_locateAll (n : Notice) (given : List Place) :
    (n.locateAll given).toFault = n.toFault.locateAll given :=
  (List.foldl_hom toFault fun n p => (toFault_locate n p.pc p.opcode).symm).symm

theorem isCurrent_locateAll (h : n.IsCurrent) (given : List Place) :
    (n.locateAll given).IsCurrent :=
  List.foldlRecOn given _ h fun _ current p _ => isCurrent_locate current p.pc p.opcode

end Notice

theorem place_is_attached_once (raised : Fault) (given : List Place) :
    let fault := raised.locateAll given
    let notice := (Notice.raised raised).locateAll given
    notice.toFault = fault ∧
    notice.line = fault.text ∧
    (fault.text = match fault.pc, fault.opcode with
      | some pc, some opcode =>
        "$" ++ Hex.word pc ++ " [" ++ Hex.word opcode ++ "]: " ++ fault.message
      | some pc, none => "$" ++ Hex.word pc ++ ": " ++ fault.message
      | none, _ => fault.message) ∧
    fault.cause = raised.cause ∧ fault.message = raised.message ∧
    (fault.pc ≠ none → ∀ later : List Place,
      fault.locateAll later = fault ∧ notice.locateAll later = notice) ∧
    fault.place = raised.place.settled given ∧
    (fault.pc = none ↔ raised.pc = none ∧ ∀ p ∈ given, p.pc = none) := by
  intro fault notice
  have follows : notice.toFault = fault := Notice.toFault_locateAll (.raised raised) given
  have current : notice.IsCurrent :=
    Notice.isCurrent_locateAll (Notice.isCurrent_raised raised) given
  have settled : fault.place = raised.place.settled given := place_locateAll raised given
  obtain ⟨cause, message⟩ := cause_message_locateAll raised given
  refine ⟨follows, ?_, text_eq fault, cause, message, ?_, settled, ?_⟩
  · rw [← follows]
    exact current
  · intro placed later
    rw [← follows] at placed ⊢
    have fixed : notice.locateAll later = notice := Notice.locateAll_of_placed placed later
    exact ⟨by rw [← Notice.toFault_locateAll, fixed], fixed⟩
  · show fault.place.pc = none ↔ _
    rw [settled]
    exact Place.pc_settled_eq_none_iff

theorem place_is_attached_once_address :
    let given : List Place := [⟨none, some 0x6A02⟩, ⟨some 0x0202, some 0xF055⟩]
    let fault := (outOfRange 4096).locateAll given
    let notice := (Notice.raised (outOfRange 4096)).locateAll given
    fault.pc ≠ none ∧ notice.line = "$0202 [F055]: memory address $1000 out of range" ∧
      fault.place = ⟨some 0x0202, some 0xF055⟩ ∧
      notice.locateAll [⟨some 0x0300, none⟩] = notice := by
  intro given fault notice
  obtain ⟨-, line, -, -, -, fixed, settled, -⟩ := place_is_attached_once (outOfRange 4096) given
  have placed : fault.pc ≠ none := by decide
  have text : fault.text = "$0202 [F055]: memory address $1000 out of range" := by decide +kernel
  exact ⟨placed, line.trans text, settled, (fixed placed [⟨some 0x0300, none⟩]).2⟩

end Chip8.Fault
