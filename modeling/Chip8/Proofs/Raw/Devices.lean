import Chip8.Proofs.Machine.Countdown
import Chip8.Proofs.Raw.Components

namespace Chip8

/-! ## Timers -/

namespace Timers

def raw (t : Timers) : Raw.Timers := ⟨t.delay.toNat, t.sound.toNat⟩

variable (t : Timers)

theorem setDelay_raw (value : Int) : (Raw.Timers.setDelay value).run t.raw =
    .done (t.setDelay value).raw () #[] := by
  simp [Raw.Timers.setDelay, raw, setDelay, toNat_byteOfInt]

theorem setSound_raw (value : Int) : (Raw.Timers.setSound value).run t.raw =
    .done (t.setSound value).raw () #[] := by
  simp [Raw.Timers.setSound, raw, setSound, toNat_byteOfInt]

theorem countDown_raw (counter : UInt8) :
    Raw.Timers.countDown counter.toNat = ((countDown counter).toNat : Int) := by
  rw [toNat_countDown, Raw.Timers.countDown]
  split <;> omega

theorem expires_raw (counter : UInt8) :
    decide (0 < (counter.toNat : Int) ∧ Raw.Timers.countDown counter.toNat = 0) =
      (counter == 1) := by
  rw [countDown_raw, toNat_countDown, beq_eq_decide, decide_eq_decide, ← UInt8.toNat_inj]
  show _ ↔ _ = 1
  omega

theorem tick_raw : Raw.Timers.tick.run t.raw = .done t.tick.2.raw t.tick.1 #[] := by
  simp only [Raw.Timers.tick, Action.run_bind, Action.run_state, Outcome.done_andThen, raw,
    Action.run_put, Action.run_pure, Outcome.after_empty, expires_raw]
  simp only [countDown_raw]
  rfl

theorem perform_raw (op : Operation) : (Raw.Timers.perform op).run t.raw =
    (Outcome.quiet (op.perform t)).within raw := by
  cases op with
  | setDelay value =>
    rw [Raw.Timers.perform, Action.run_bind, setDelay_raw]
    rfl
  | setSound value =>
    rw [Raw.Timers.perform, Action.run_bind, setSound_raw]
    rfl
  | tick =>
    rw [Raw.Timers.perform, Action.run_bind, tick_raw]
    rfl
  | reset => rfl

end Timers

/-! ## Screen -/

namespace Framebuffer

def raw (fb : Screen) : Raw.Screen := ⟨64, 32, fb.pixels.toList, fb.dirty⟩

variable (fb : Screen)

theorem blank_raw : (default : Screen).raw = Raw.Screen.blank := by decide +kernel

theorem clear_raw : Raw.Screen.clear.run fb.raw = .done fb.clear.raw () #[] := by
  have unlit : (Vector.replicate (64 * 32) false).toList = List.replicate (64 * 32) false :=
    Vector.toList_replicate
  exact congrArg (fun pixels => Outcome.done (Raw.Screen.mk 64 32 pixels true) () #[]) unlit.symm

theorem acknowledge_raw : Raw.Screen.acknowledge.run fb.raw = .done fb.acknowledge.raw () #[] := rfl

theorem pixel_raw (x y : Int) :
    (Raw.Screen.pixel x y).run fb.raw = ⟨fb.pixel x y, fb.raw, #[]⟩ := by
  have found : Raw.item fb.pixels.toList (y * (64 : Nat) + x) = fb.pixel x y := by
    rw [Raw.item_toList, pixel]
    cases signedIndex? (64 * 32) (y * (64 : Nat) + x) <;> rfl
  rw [Nat.cast_ofNat] at found
  simp only [Raw.Screen.pixel, Action.run_bind, Action.run_state, Outcome.done_andThen,
    Outcome.after_empty, raw, found]
  rfl

theorem toggle_raw (k : Fin (64 * 32)) : (Raw.Screen.toggle k.val).run fb.raw =
    .done { fb with pixels := (toggle fb.pixels k).2 }.raw (toggle fb.pixels k).1 #[] := by
  have found := Raw.item_toList fb.pixels k.val
  have stored := Raw.replace_toList fb.pixels k.val (!fb.pixels.get k)
  rw [signedIndex?_natCast k.isLt] at found stored
  simp only [Raw.Screen.toggle, Action.run_bind, Action.run_state, Outcome.done_andThen, raw,
    found, stored, Action.run_ofExcept_ok, Action.run_put, Action.run_pure, Outcome.after_empty]
  rfl

theorem toggleAll_raw (hit : Bool) (positions : List (Fin (64 * 32))) :
    (Raw.Screen.toggleAll hit (positions.map fun k => (k.val : Int))).run fb.raw =
      .done { fb with pixels := (toggleAll hit fb.pixels positions).2 }.raw
        (toggleAll hit fb.pixels positions).1 #[] := by
  induction positions generalizing fb hit with
  | nil => rfl
  | cons first rest ih =>
    rw [List.map_cons, Raw.Screen.toggleAll, Action.run_bind, toggle_raw, Outcome.done_andThen,
      Outcome.after_empty]
    exact ih _ _

theorem litColumns_raw (row : UInt8) : Raw.Screen.litColumns row.toNat = litColumns row := rfl

theorem position_raw (x y : Int) :
    y % 32 * 64 + x % 64 = ((fb.position x y).val : Int) := by
  show _ = (((y % 32).toNat * 64 + (x % 64).toNat : Nat) : Int)
  omega

theorem targets_raw (x y : Int) (rows : List UInt8) :
    fb.raw.targets x y (rows.map fun row => (row.toNat : Int)) =
      ((spriteBits rows).map fun (dx, dy) => fb.position (x + dx) (y + dy)).map
        fun k => (k.val : Int) := by
  simp only [Raw.Screen.targets, spriteBits, List.zipIdx_map, List.flatMap_map, List.map_flatMap,
    List.map_map, Prod.map_fst, Prod.map_snd, litColumns_raw, id]
  refine congrArg (rows.zipIdx.flatMap ·) (funext fun (row, dy) => List.map_congr_left ?_)
  intro dx _
  exact fb.position_raw _ _

theorem draw_raw (x y : Int) (rows : List UInt8) :
    (Raw.Screen.draw x y (rows.map fun row => (row.toNat : Int))).run fb.raw =
      .done (fb.draw x y rows).2.raw (fb.draw x y rows).1 #[] := by
  simp only [Raw.Screen.draw, Action.run_bind, Action.run_state, Outcome.done_andThen,
    Outcome.after_empty, targets_raw, toggleAll_raw, Action.run_put, Action.run_pure]
  rfl

theorem perform_raw (op : Operation) : (Raw.Screen.perform op).run fb.raw =
    (Outcome.quiet (op.perform fb)).within raw := by
  cases op with
  | draw x y rows =>
    rw [Raw.Screen.perform, Action.run_bind, draw_raw]
    rfl
  | pixel x y =>
    rw [Raw.Screen.perform, Action.run_bind, pixel_raw, Operation.perform]
    cases fb.pixel x y <;> rfl
  | clear =>
    rw [Raw.Screen.perform, Action.run_bind, clear_raw]
    rfl
  | acknowledge => rfl

end Framebuffer

/-! ## Keypad -/

namespace Keypad

def raw (pad : Keypad) : Raw.Keypad := ⟨pad.down.toList⟩

variable (pad : Keypad)

theorem released_raw : released.raw = Raw.Keypad.released := by decide +kernel

theorem setAll_raw (states : List Bool) : (Raw.Keypad.setAll states).run pad.raw =
    (Outcome.quiet (pad.setAll states)).within raw := by
  unfold Raw.Keypad.setAll setAll
  by_cases count : states.length = 16
  · rw [if_neg (not_not_intro count), dif_pos count]
    rfl
  · rw [if_pos count, dif_neg count]
    rfl

theorem ofInt_val (code : Int) : code % 16 = ((Key.ofInt code).val : Int) := by
  simp only [Key.ofInt]
  omega

theorem put_raw (code : Int) (down : Bool) : (Raw.Keypad.put code down).run pad.raw =
    .done (pad.put (.ofInt code) down).raw () #[] := by
  have stored := Raw.replace_toList pad.down (code % 16) down
  rw [ofInt_val, signedIndex?_natCast (Key.ofInt code).isLt] at stored
  simp only [Raw.Keypad.put, Action.run_bind, Action.run_state, Outcome.done_andThen, raw,
    ofInt_val, stored, Action.run_ofExcept_ok, Action.run_put, Outcome.after_empty]
  rfl

theorem isDown_raw (code : Int) : (Raw.Keypad.isDown code).run pad.raw =
    .done pad.raw (pad.isDown (.ofInt code)) #[] := by
  have found := Raw.item_toList pad.down (code % 16)
  rw [ofInt_val, signedIndex?_natCast (Key.ofInt code).isLt] at found
  simp only [Raw.Keypad.isDown, Action.run_bind, Action.run_state, Outcome.done_andThen, raw,
    ofInt_val, found, Action.run_ofExcept_ok, Outcome.after_empty]
  rfl

theorem any_raw : pad.raw.keys.any id = pad.anyDown := Vector.any_toList

theorem first?_raw : pad.raw.first? = pad.first?.map Fin.val := by
  cases first : pad.first? with
  | none =>
    rw [first?_eq_none_iff] at first
    refine List.findIdx?_eq_none_iff.2 fun state member => ?_
    obtain ⟨k, below, rfl⟩ := List.getElem_of_mem member
    exact first ⟨k, below.trans_eq Vector.length_toList⟩
  | some key =>
    rw [first?_eq_some_iff] at first
    refine List.findIdx?_eq_some_iff_getElem.2 ⟨?_, first.1, fun j below => ?_⟩
    · exact key.isLt.trans_eq Vector.length_toList.symm
    · exact Bool.not_eq_true _ ▸ first.2 ⟨j, below.trans key.isLt⟩ below

theorem perform_raw (op : Operation) : (Raw.Keypad.perform op).run pad.raw =
    (Outcome.quiet (op.perform pad)).within raw := by
  cases op with
  | setAll states =>
    rw [Raw.Keypad.perform, Action.run_bind, setAll_raw, Operation.perform]
    rcases pad.setAll states with ⟨_ | _, _⟩ <;> rfl
  | press code =>
    rw [Raw.Keypad.perform, Action.run_bind, put_raw]
    rfl
  | release code =>
    rw [Raw.Keypad.perform, Action.run_bind, put_raw]
    rfl
  | releaseAll => exact congrArg (fun pad => Outcome.done pad Reply.nothing #[]) released_raw.symm
  | isDown code =>
    rw [Raw.Keypad.perform, Action.run_bind, isDown_raw]
    rfl
  | anyDown => exact congrArg (fun any => Outcome.done pad.raw (Reply.truth any) #[]) pad.any_raw
  | first =>
    rw [Raw.Keypad.perform, Action.run_bind, Action.run_state, Outcome.done_andThen, first?_raw,
      Operation.perform]
    cases pad.first? <;> rfl

end Keypad
end Chip8
