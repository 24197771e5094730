import Chip8.Keypad

namespace Chip8

theorem Key.ofInt_natCast (value : Nat) :
    Key.ofInt value = ⟨value % 16, Nat.mod_lt _ (by decide)⟩ := by
  apply Fin.ext
  simp only [Key.ofInt]
  omega

namespace Keypad

variable {pad pad' : Keypad} {key k : Key} {held held' : List Key} {states : List Bool}

theorem ext_isDown (same : ∀ k, pad.isDown k = pad'.isDown k) : pad = pad' := by
  obtain ⟨down⟩ := pad
  obtain ⟨down'⟩ := pad'
  congr 1
  apply Vector.ext
  intro i inside
  exact same ⟨i, inside⟩

theorem isDown_put (pad : Keypad) (key k : Key) (state : Bool) :
    (pad.put key state).isDown k = if k = key then state else pad.isDown k := by
  show (pad.down.set key.val state key.isLt)[k.val] = if k = key then state else pad.down[k.val]
  rw [Vector.getElem_set]
  simp only [Fin.ext_iff, eq_comm]

theorem isDown_released (k : Key) : released.isDown k = false := Vector.getElem_replicate k.isLt

theorem isDown_foldl_press (held : List Key) (pad : Keypad) :
    (held.foldl press pad).isDown k = true ↔ k ∈ held ∨ pad.isDown k = true := by
  induction held generalizing pad with
  | nil => simp
  | cons first rest ih =>
    rw [List.foldl_cons, ih, press, isDown_put, List.mem_cons]
    by_cases same : k = first <;> simp [same]

theorem foldl_press_congr (same : ∀ k, k ∈ held ↔ k ∈ held') (pad : Keypad) :
    held.foldl press pad = held'.foldl press pad := by
  refine ext_isDown fun k => Bool.eq_iff_iff.2 ?_
  rw [isDown_foldl_press, isDown_foldl_press, same]

theorem setAll_of_length (pad : Keypad) (count : states.length = 16) :
    (pad.setAll states).1 = .ok () ∧ (pad.setAll states).2.down.toList = states := by
  rw [setAll, dif_pos count]
  exact ⟨rfl, rfl⟩

theorem setAll_of_length_ne (pad : Keypad) (count : states.length ≠ 16) :
    pad.setAll states = (.error (.invalid (.keyCount states.length)), pad) := dif_neg count

theorem setAll_released (pad : Keypad) :
    pad.setAll (List.replicate 16 false) = (.ok (), released) := rfl

theorem getElem?_setAll (pad : Keypad) (count : states.length = 16) (k : Key) :
    states[k.val]? = some ((pad.setAll states).2.isDown k) := by
  have inside : k.val < states.length := Nat.lt_of_lt_of_eq k.isLt count.symm
  rw [List.getElem?_eq_getElem inside, setAll, dif_pos count]
  rfl

theorem anyDown_setAll (pad : Keypad) (h : states.length = 16) :
    (pad.setAll states).2.anyDown = states.any id := by
  rw [setAll, dif_pos h]
  exact List.any_toArray

def IsLowest (pad : Keypad) (key : Key) : Prop :=
  pad.isDown key = true ∧ ∀ k < key, pad.isDown k = false

theorem first?_eq_none_iff (pad : Keypad) : pad.first? = none ↔ ∀ key, pad.isDown key = false := by
  simp [first?]

theorem first?_eq_some_iff : pad.first? = some key ↔ pad.IsLowest key := by
  rw [first?, List.find?_eq_some_iff_getElem]
  simp only [List.getElem_finRange, IsLowest, Bool.not_eq_true']
  refine and_congr_right fun down => ⟨?_, ?_⟩
  · rintro ⟨i, inside, rfl, below⟩ k lower
    exact below k.val lower
  · intro below
    exact ⟨key.val, by simp, rfl, fun j lower => below _ lower⟩

theorem exists_first (down : pad.isDown key = true) : ∃ key, pad.first? = some key := by
  cases first : pad.first? with
  | some key => exact ⟨key, rfl⟩
  | none =>
    have up := pad.first?_eq_none_iff.1 first key
    cases up.symm.trans down

theorem exists_first_setAll (pad : Keypad) (count : states.length = 16) (pressed : true ∈ states) :
    ∃ key, (pad.setAll states).2.first? = some key := by
  obtain ⟨i, pressed⟩ := List.getElem?_of_mem pressed
  obtain ⟨inside, -⟩ := List.getElem?_eq_some_iff.1 pressed
  have down := getElem?_setAll pad count ⟨i, Nat.lt_of_lt_of_eq inside count⟩
  exact exists_first (Option.some.inj (down.symm.trans pressed))

theorem eq_released (up : pad.first? = none) : pad = released := by
  rw [first?_eq_none_iff] at up
  exact ext_isDown fun k => (up k).trans (isDown_released k).symm

theorem first?_eq_none_iff_anyDown (pad : Keypad) : pad.first? = none ↔ pad.anyDown = false := by
  rw [first?_eq_none_iff, anyDown, Vector.any_eq_false]
  constructor
  · intro up k below
    exact Bool.eq_false_iff.1 (up ⟨k, below⟩)
  · intro up key
    exact Bool.eq_false_iff.2 (up key.val key.isLt)

end Keypad
end Chip8
