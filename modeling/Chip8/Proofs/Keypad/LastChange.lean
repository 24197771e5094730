import Chip8.Proofs.Keypad.Latch
import Chip8.Proofs.Machine.Operations

namespace Chip8.Keypad

inductive Change (α : Type) where
  | setAll (states : List α)
  | press (code : Int)
  | release (code : Int)
  | releaseAll

variable {α : Type} (truth : α → Bool)

namespace Change

def operation : Change α → Operation
  | setAll states => .setAll (states.map truth)
  | press code => .press code
  | release code => .release code
  | releaseAll => .releaseAll

def perform (change : Change α) (pad : Keypad) : Outcome Keypad Reply :=
  .quiet ((change.operation truth).perform pad)

def says? (code : Int) : Change α → Option Bool
  | setAll states => if states.length = 16 then states[(code % 16).toNat]?.map truth else none
  | press pressed => if pressed % 16 = code % 16 then some true else none
  | release released => if released % 16 = code % 16 then some false else none
  | releaseAll => some false

end Change

def lastSaid (code : Int) (history : List (Change α)) : Bool :=
  (history.reverse.findSome? (Change.says? truth code)).getD false

theorem isDown_put_ofInt (pad : Keypad) (changed code : Int) (state : Bool) :
    (pad.put (.ofInt changed) state).isDown (.ofInt code) =
      (if changed % 16 = code % 16 then some state else none).getD (pad.isDown (.ofInt code)) := by
  have same : Key.ofInt code = Key.ofInt changed ↔ changed % 16 = code % 16 := by
    simp only [Key.ofInt, Fin.mk.injEq]
    omega
  simp only [isDown_put, same]
  split <;> rfl

theorem isDown_perform (change : Change α) (pad : Keypad) (code : Int) :
    (change.perform truth pad).state.isDown (.ofInt code) =
      (change.says? truth code).getD (pad.isDown (.ofInt code)) := by
  cases change with
  | press pressed => exact isDown_put_ofInt pad pressed code true
  | release released => exact isDown_put_ofInt pad released code false
  | releaseAll => exact isDown_released _
  | setAll states =>
    show (pad.setAll (states.map truth)).2.isDown (.ofInt code) = _
    by_cases count : states.length = 16
    · have count' : (states.map truth).length = 16 := by simpa
      have given := getElem?_setAll pad count' (.ofInt code)
      rw [List.getElem?_map] at given
      simp only [Change.says?, if_pos count]
      exact (congrArg (Option.getD · _) given).symm
    · rw [setAll_of_length_ne pad (by simpa), Change.says?, if_neg count]
      rfl

theorem isDown_final (history : List (Change α)) (pad : Keypad) (code : Int) :
    (Session.final (Change.perform truth) history pad).isDown (.ofInt code) =
      (history.reverse.findSome? (Change.says? truth code)).getD (pad.isDown (.ofInt code)) := by
  induction history generalizing pad with
  | nil => rfl
  | cons change rest ih =>
    have older (said? : Option Bool) (before : Bool) :
        (said?.or (change.says? truth code)).getD before =
          said?.getD ((change.says? truth code).getD before) := by
      cases said? <;> rfl
    -- The first change is asked last: it only counts if no later one says anything.
    rw [Session.final, ih, isDown_perform, List.reverse_cons, List.findSome?_append,
      List.findSome?_singleton, older]

theorem answer_setAll (states : List α) (pad : Keypad) :
    ((Change.setAll states).perform truth pad).answer =
      if states.length = 16 then .ok .nothing
      else .error (.invalid (.keyCount states.length)) := by
  show (pad.setAll (states.map truth)).1.map (fun _ => Reply.nothing) = _
  by_cases count : states.length = 16
  · have count' : (states.map truth).length = 16 := by simpa
    rw [(setAll_of_length pad count').1, if_pos count]
    rfl
  · rw [setAll_of_length_ne pad (by simpa), if_neg count, List.length_map]
    rfl

theorem answers_or_keeps (change : Change α) (pad : Keypad) :
    (∃ reply, (change.perform truth pad).answer = .ok reply) ∨
      (change.perform truth pad).state = pad := by
  cases change with
  | setAll states =>
    by_cases count : states.length = 16
    · exact Or.inl ⟨_, (answer_setAll truth states pad).trans (if_pos count)⟩
    · right
      show (pad.setAll (states.map truth)).2 = pad
      rw [setAll_of_length_ne pad (by simpa)]
  | _ => exact Or.inl ⟨_, rfl⟩

theorem latch_follows_last_change (history : List (Change α)) :
    let pad := Session.final (Change.perform truth) history released
    (∀ code, pad.isDown (.ofInt code) = lastSaid truth code history) ∧
    (∀ states : List α, ((Change.setAll states).perform truth pad).answer =
      if states.length = 16 then .ok .nothing
      else .error (.invalid (.keyCount states.length))) ∧
    (∀ change : Change α, (∃ reply, (change.perform truth pad).answer = .ok reply) ∨
      (change.perform truth pad).state = pad) ∧
    (∀ key, pad.first? = some key ↔ pad.isDown key = true ∧ ∀ k < key, pad.isDown k = false) ∧
    (pad.first? = none ↔ pad.anyDown = false) := by
  intro pad
  refine ⟨fun code => ?_, fun states => answer_setAll truth states pad,
    fun change => answers_or_keeps truth change pad, fun _ => first?_eq_some_iff,
    first?_eq_none_iff_anyDown pad⟩
  rw [isDown_final, isDown_released]
  rfl

end Chip8.Keypad
