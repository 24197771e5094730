import Chip8.Proofs.Raw.Devices
import Chip8.Proofs.Raw.Machine
import Chip8.Proofs.Raw.Storage

namespace Chip8

/-! ## Bytes -/

variable (a b : UInt8)

theorem ofInt_eq_of_toNat {value : Int} {a : UInt8} (h : value % 256 = a.toNat) :
    UInt8.ofInt value = a := by
  have stored := toNat_byteOfInt value
  apply UInt8.toNat_inj.1
  omega

theorem ofInt_sub : UInt8.ofInt (a.toNat - b.toNat) = a - b := by
  have second := b.toNat_lt
  apply ofInt_eq_of_toNat
  rw [UInt8.toNat_sub]
  omega

theorem ofInt_land : UInt8.ofInt (Int.land a.toNat b.toNat) = a &&& b := by
  rw [← byteOfInt_toNat (a &&& b), UInt8.toNat_and]
  rfl

theorem ofInt_lor : UInt8.ofInt (Int.lor a.toNat b.toNat) = a ||| b := by
  rw [← byteOfInt_toNat (a ||| b), UInt8.toNat_or]
  rfl

theorem ofInt_xor : UInt8.ofInt (Int.xor a.toNat b.toNat) = a ^^^ b := by
  rw [← byteOfInt_toNat (a ^^^ b), UInt8.toNat_xor]
  rfl

theorem ofInt_half : UInt8.ofInt (a.toNat / 2) = a >>> 1 := by
  have below := a.toNat_lt
  have half : (a >>> 1).toNat = a.toNat / 2 := UInt8.toNat_shiftRight a 1
  apply ofInt_eq_of_toNat
  omega

theorem ofInt_double : UInt8.ofInt (a.toNat * 2) = a <<< 1 := by
  have double : (a <<< 1).toNat = a.toNat <<< 1 % 256 := UInt8.toNat_shiftLeft a 1
  rw [Nat.shiftLeft_eq] at double
  apply ofInt_eq_of_toNat
  omega

theorem decide_toNat_eq : decide (a.toNat = b.toNat) = (a == b) := by
  rw [beq_eq_decide, decide_eq_decide, UInt8.toNat_inj]

theorem decide_toNat_le : decide (a.toNat ≤ b.toNat) = decide (a ≤ b) := by
  rw [decide_eq_decide, UInt8.le_iff_toNat_le]

theorem decide_odd : decide ((a.toNat : Int) % 2 = 1) = (a % 2 == 1) := by
  rw [beq_eq_decide, decide_eq_decide, ← UInt8.toNat_inj, UInt8.toNat_mod]
  show _ ↔ a.toNat % 2 = 1
  omega

theorem decide_high : decide ((a.toNat : Int) / 128 % 2 = 1) = decide (128 ≤ a) := by
  have below := a.toNat_lt
  rw [decide_eq_decide, UInt8.le_iff_toNat_le]
  show _ ↔ 128 ≤ a.toNat
  omega

theorem decide_carry : decide (255 < (a.toNat : Int) + b.toNat) =
    decide (255 < a.toNat + b.toNat) := by
  rw [decide_eq_decide]
  omega

theorem wordOfInt_byte : UInt16.ofInt a.toNat = a.toUInt16 := by
  apply UInt16.toNat_inj.1
  have stored := toNat_ofInt a.toNat
  have below := a.toNat_lt
  rw [UInt8.toNat_toUInt16]
  omega

theorem ofInt_natCast (value : Nat) : UInt8.ofInt value = UInt8.ofNat value := by
  apply ofInt_eq_of_toNat
  rw [UInt8.toNat_ofNat']
  omega

theorem wordOfInt_natCast (value : Nat) : UInt16.ofInt value = UInt16.ofNat value := by
  apply UInt16.toNat_inj.1
  have stored := toNat_ofInt value
  rw [UInt16.toNat_ofNat']
  omega

theorem toNat_emod (word : UInt16) : (word.toNat : Int) % 65536 = word.toNat := by
  have below := word.toNat_lt
  omega

theorem digits_eq : [(a.toNat : Int) / 100, (a.toNat : Int) / 10 % 10, (a.toNat : Int) % 10] =
    (Machine.decimalDigits a).map fun digit => (digit.toNat : Int) := by
  simp [Machine.decimalDigits]

namespace Outcome

variable {σ τ α β : Type}

@[simp]
theorem done_saying (s : σ) (value : α) (events : Array Event) (say : α → β) :
    (done s value events).saying say = done s (say value) events := rfl

@[simp]
theorem stopped_saying (s : σ) (e : Error) (events : Array Event) (say : α → β) :
    (stopped s e events : Outcome σ α).saying say = stopped s e events := rfl

end Outcome

namespace Machine

def raw (m : Machine) : Raw.Machine where
  memory := m.memory.raw
  registers := m.registers.raw
  stack := m.stack.raw
  timers := m.timers.raw
  screen := m.screen.raw
  keypad := m.keypad.raw
  random := m.random
  keySource := m.keySource
  listening := m.listening
  tickPerCycle := m.tickPerCycle
  cycles := m.cycles

variable (m : Machine) {α ρ τ : Type}

theorem on_raw {part : Raw.Machine → ρ} {set : ρ → Raw.Machine → Raw.Machine} {act : Action ρ α}
    {o : Outcome τ α} {view : τ → ρ} (put : τ → Machine)
    (acted : act.run (part m.raw) = o.within view)
    (placed : ∀ t, set (view t) m.raw = (put t).raw) :
    (Action.on part set act).run m.raw = o.within fun t => (put t).raw := by
  obtain ⟨answer, t, events⟩ := o
  show (act.run (part m.raw)).within (fun s => set s m.raw) = _
  rw [acted]
  exact congrArg (fun m => Outcome.mk answer m events) (placed t)

theorem onMemory_raw {act : Action Raw.Memory α} {o : Outcome Memory α}
    (acted : act.run m.memory.raw = o.within Memory.raw) :
    (Raw.Machine.onMemory act).run m.raw = o.within fun memory => { m with memory }.raw :=
  m.on_raw _ acted fun _ => rfl

theorem onRegisters_raw {act : Action Raw.Registers α} {o : Outcome Registers α}
    (acted : act.run m.registers.raw = o.within Registers.raw) :
    (Raw.Machine.onRegisters act).run m.raw = o.within fun registers => { m with registers }.raw :=
  m.on_raw _ acted fun _ => rfl

theorem onStack_raw {act : Action Raw.CallStack α} {o : Outcome (CallStack 16) α}
    (acted : act.run m.stack.raw = o.within CallStack.raw) :
    (Raw.Machine.onStack act).run m.raw = o.within fun stack => { m with stack }.raw :=
  m.on_raw _ acted fun _ => rfl

theorem onTimers_raw {act : Action Raw.Timers α} {o : Outcome Timers α}
    (acted : act.run m.timers.raw = o.within Timers.raw) :
    (Raw.Machine.onTimers act).run m.raw = o.within fun timers => { m with timers }.raw :=
  m.on_raw _ acted fun _ => rfl

theorem onScreen_raw {act : Action Raw.Screen α} {o : Outcome Screen α}
    (acted : act.run m.screen.raw = o.within Framebuffer.raw) :
    (Raw.Machine.onScreen act).run m.raw = o.within fun screen => { m with screen }.raw :=
  m.on_raw _ acted fun _ => rfl

theorem onKeypad_raw {act : Action Raw.Keypad α} {o : Outcome Keypad α}
    (acted : act.run m.keypad.raw = o.within Keypad.raw) :
    (Raw.Machine.onKeypad act).run m.raw = o.within fun keypad => { m with keypad }.raw :=
  m.on_raw _ acted fun _ => rfl

/-! ## Registers in instructions -/

@[simp]
theorem getV_raw (x : Register) :
    (Raw.Machine.getV x).run m.raw = .done m.raw ((m.registers.value x).toNat : Int) #[] :=
  m.onRegisters_raw (o := .done m.registers _ #[]) (m.registers.getV_raw x)

@[simp]
theorem setV_raw (x : Register) (value : Int) : (Raw.Machine.setV x value).run m.raw =
    .done { m with registers := m.registers.assign x (UInt8.ofInt value) }.raw () #[] :=
  m.onRegisters_raw (o := .done _ () #[]) (m.registers.setV_raw x value)

@[simp]
theorem getFirst_raw : (Raw.Machine.onRegisters (Raw.Registers.getV 0)).run m.raw =
    .done m.raw ((m.registers.value ⟨0, by decide⟩).toNat : Int) #[] :=
  m.getV_raw ⟨0, by decide⟩

@[simp]
theorem setFlag_raw (up : Bool) : (Raw.Machine.setFlag up).run m.raw =
    .done { m with registers := m.registers.raise up }.raw () #[] := by
  cases up <;> exact m.setV_raw Registers.flag _

@[simp]
theorem getI_raw : Raw.Machine.getI.run m.raw = .done m.raw (m.registers.i.toNat : Int) #[] := rfl

@[simp]
theorem setI_raw (value : Int) : (Raw.Machine.setI value).run m.raw =
    .done { m with registers := m.registers.setI value }.raw () #[] :=
  m.onRegisters_raw (o := .done _ () #[]) (m.registers.setI_raw value)

/-! ## Other components in instructions -/

@[simp]
theorem clear_raw : (Raw.Machine.onScreen Raw.Screen.clear).run m.raw =
    .done { m with screen := m.screen.clear }.raw () #[] :=
  m.onScreen_raw (o := .done _ () #[]) m.screen.clear_raw

@[simp]
theorem draw_raw (x y : Int) (rows : List UInt8) :
    (Raw.Machine.onScreen (Raw.Screen.draw x y (rows.map fun row => (row.toNat : Int)))).run m.raw =
      .done { m with screen := (m.screen.draw x y rows).2 }.raw (m.screen.draw x y rows).1 #[] :=
  m.onScreen_raw (o := .done _ _ #[]) (m.screen.draw_raw x y rows)

@[simp]
theorem push_raw (address : Int) :
    (Raw.Machine.onStack (Raw.CallStack.push address)).run m.raw =
      (faulting (m.stack.push address)).within fun stack => { m with stack }.raw :=
  m.onStack_raw (m.stack.push_raw address)

@[simp]
theorem pop_raw : (Raw.Machine.onStack Raw.CallStack.pop).run m.raw =
    (faulting (m.stack.pop.1.map fun address => (address.toNat : Int), m.stack.pop.2)).within
      fun stack => { m with stack }.raw :=
  m.onStack_raw m.stack.pop_raw

@[simp]
theorem isDown_raw (code : Int) : (Raw.Machine.onKeypad (Raw.Keypad.isDown code)).run m.raw =
    .done m.raw (m.keypad.isDown (.ofInt code)) #[] :=
  m.onKeypad_raw (o := .done m.keypad _ #[]) (m.keypad.isDown_raw code)

@[simp]
theorem setAll_raw (states : List Bool) :
    (Raw.Machine.onKeypad (Raw.Keypad.setAll states)).run m.raw =
      (Outcome.quiet (m.keypad.setAll states)).within fun keypad => { m with keypad }.raw :=
  m.onKeypad_raw (m.keypad.setAll_raw states)

@[simp]
theorem setDelay_raw (value : Int) : (Raw.Machine.onTimers (Raw.Timers.setDelay value)).run m.raw =
    .done { m with timers := m.timers.setDelay value }.raw () #[] :=
  m.onTimers_raw (o := .done _ () #[]) (m.timers.setDelay_raw value)

@[simp]
theorem setSound_raw (value : Int) : (Raw.Machine.onTimers (Raw.Timers.setSound value)).run m.raw =
    .done { m with timers := m.timers.setSound value }.raw () #[] :=
  m.onTimers_raw (o := .done _ () #[]) (m.timers.setSound_raw value)

@[simp]
theorem readBlock_raw (address length : Int) :
    (Raw.Machine.onMemory (Raw.Memory.readBlock address length)).run m.raw =
      (faulting ((m.memory.readBlock address length).map fun bytes =>
        bytes.map fun byte => (byte.toNat : Int), m.memory)).within fun memory =>
          { m with memory }.raw :=
  m.onMemory_raw (m.memory.readBlock_raw address length)

@[simp]
theorem writeBlock_raw (address : Int) (data : List UInt8) :
    (Raw.Machine.onMemory
        (Raw.Memory.writeBlock address (data.map fun byte => (byte.toNat : Int)))).run m.raw =
      (faulting (m.memory.writeBlock address data)).within fun memory => { m with memory }.raw :=
  m.onMemory_raw (m.memory.writeBlock_raw address data)

@[simp]
theorem drawByte_raw : Raw.Machine.drawByte.run m.raw =
    .done { m with random := m.random.next.2 }.raw (m.random.next.1.toNat : Int) #[] := rfl

@[simp]
theorem delay_raw : m.raw.timers.delay = m.timers.delay.toNat := rfl

@[simp]
theorem v_raw : m.raw.registers.v =
    m.registers.v.toList.map fun byte => (byte.toNat : Int) := rfl

theorem fill_raw {data : List UInt8} (length : data.length = 16) :
    (Raw.Machine.onRegisters (Raw.Registers.fill 0 (data.map fun byte => (byte.toNat : Int)))).run
        m.raw =
      .done { m with registers :=
        { m.registers with v := Vector.ofFn fun k => data.getD k 0 } }.raw () #[] := by
  have filled := m.registers.fill_raw 0 data (by omega)
  rw [Registers.filled_all _ length] at filled
  exact m.onRegisters_raw (o := .done _ () #[]) filled

theorem bytes_raw (data : List UInt8) :
    Raw.bytes (data.map fun byte => (byte.toNat : Int)) =
      .ok (data.map fun byte => (byte.toNat : Int)) := by
  refine if_pos fun value member => ?_
  obtain ⟨byte, -, rfl⟩ := List.mem_map.1 member
  have below := byte.toNat_lt
  omega

/-! ## Instructions -/

theorem following_raw (pc : Int) (skip : Bool) :
    ((following pc skip).toNat : Int) = Raw.Machine.skipIf skip pc % 65536 := by
  rw [following, toNat_ofInt]
  rfl

theorem skipIf_raw (pc : Int) (condition : Bool) :
    (((m.skipIf condition pc).saying fun next => (next.toNat : Int)).within raw) =
      .done m.raw (Raw.Machine.skipIf condition pc % 65536) #[] :=
  congrArg (fun next => Outcome.done m.raw next #[]) (following_raw pc condition)

theorem continueWith_raw (registers : Registers) (pc : Int) :
    (((m.continueWith registers pc).saying fun next => (next.toNat : Int)).within raw) =
      .done { m with registers }.raw ((pc + 2) % 65536) #[] :=
  congrArg (fun next => Outcome.done (raw _) next #[]) (following_raw pc false)

theorem awaitKey_raw (x : Register) (pc : Int) :
    (Raw.Machine.execute (.awaitKey x) pc).run m.raw =
      ((m.awaitKey x pc).saying fun next => (next.toNat : Int)).within raw := by
  have first (m : Machine) : m.raw.keypad.first? = m.keypad.first?.map Fin.val :=
    m.keypad.first?_raw
  have source : m.raw.keySource = m.keySource := rfl
  simp only [Raw.Machine.execute, Raw.Machine.carryOut, Raw.Machine.waitForKey, Action.run_bind,
    Action.run_state, Outcome.done_andThen, Outcome.after_empty, first, source, awaitKey]
  cases m.keypad.first? with
  | some key => simp [storeKey, continueWith_raw, ofInt_natCast]
  | none =>
    cases m.keySource with
    | none => simp [toNat_ofInt]
    | some source =>
      have asked : ({ m.raw with keySource := some source.next.2 } : Raw.Machine) =
          { m with keySource := some source.next.2 }.raw := rfl
      simp only [Option.map, Action.run_bind, Action.run_put, Outcome.done_andThen, asked,
        setAll_raw]
      rcases m.keypad.setAll source.next.1 with ⟨_ | _, keypad⟩
      · rfl
      · have next := first { m with keySource := some source.next.2, keypad }
        cases lowest : keypad.first? with
        | some key => simp [next, lowest, storeKey, continueWith_raw, ofInt_natCast]
        | none => simp [next, lowest, toNat_ofInt]

theorem execute_raw (ins : Instruction) (pc : Int) : (Raw.Machine.execute ins pc).run m.raw =
    ((m.execute ins pc).saying fun next => (next.toNat : Int)).within raw := by
  unfold Raw.Machine.execute execute
  cases ins with
  | clear => simp [Raw.Machine.carryOut, following_raw, Raw.Machine.skipIf]
  | ret =>
    simp only [Raw.Machine.carryOut, Action.run_bind, pop_raw]
    rcases m.stack.pop with ⟨_ | _, _⟩ <;> simp [Except.map, toNat_emod]
  | jump nnn => simp [Raw.Machine.carryOut]
  | call nnn =>
    simp only [Raw.Machine.carryOut, Action.run_bind, push_raw]
    rcases m.stack.push (pc + 2) with ⟨_ | _, _⟩ <;> simp
  | skipEqByte x nn => simp [Raw.Machine.carryOut, skipIf_raw, decide_toNat_eq]
  | skipNeByte x nn => simp [Raw.Machine.carryOut, skipIf_raw, decide_toNat_eq, bne]
  | skipEq x y => simp [Raw.Machine.carryOut, skipIf_raw, decide_toNat_eq]
  | loadByte x nn => simp [Raw.Machine.carryOut, continueWith_raw, byteOfInt_toNat]
  | addByte x nn => simp [Raw.Machine.carryOut, continueWith_raw, byteOfInt_toNat]
  | copy x y => simp [Raw.Machine.carryOut, continueWith_raw, byteOfInt_toNat]
  | or x y => simp [Raw.Machine.carryOut, continueWith_raw, ofInt_lor]
  | and x y => simp [Raw.Machine.carryOut, continueWith_raw, ofInt_land]
  | xor x y => simp [Raw.Machine.carryOut, continueWith_raw, ofInt_xor]
  | add x y => simp [Raw.Machine.carryOut, continueWith_raw, byteOfInt_toNat, decide_carry]
  | sub x y => simp [Raw.Machine.carryOut, continueWith_raw, ofInt_sub, decide_toNat_le]
  | shiftRight x y =>
    simp [-UInt8.toNat_shiftRight, Raw.Machine.carryOut, continueWith_raw, ofInt_half,
      byteOfInt_toNat, decide_odd, shift, Registers.value_assign]
  | subFrom x y => simp [Raw.Machine.carryOut, continueWith_raw, ofInt_sub, decide_toNat_le]
  | shiftLeft x y =>
    simp [-UInt8.toNat_shiftLeft, -UInt8.ofInt_mul, Raw.Machine.carryOut, continueWith_raw,
      ofInt_double, byteOfInt_toNat, decide_high, shift, Registers.value_assign]
  | skipNe x y => simp [Raw.Machine.carryOut, skipIf_raw, decide_toNat_eq, bne]
  | loadIndex nnn =>
    simp [Raw.Machine.carryOut, continueWith_raw, Registers.setI, wordOfInt_natCast]
  | jumpOffset nnn => simp [Raw.Machine.carryOut]
  | random x nn => simp [Raw.Machine.carryOut, continueWith_raw, ofInt_land]
  | draw x y n =>
    simp only [Raw.Machine.carryOut, Action.run_bind, getI_raw, Outcome.done_andThen, readBlock_raw]
    cases m.memory.readBlock m.registers.i.toNat n.val with
    | error fault => rfl
    | ok rows => simp [Except.map, continueWith_raw]
  | skipPressed x => simp [Raw.Machine.carryOut, skipIf_raw]
  | skipReleased x => simp [Raw.Machine.carryOut, skipIf_raw]
  | readDelay x => simp [Raw.Machine.carryOut, continueWith_raw, byteOfInt_toNat]
  | awaitKey x => exact m.awaitKey_raw x pc
  | setDelay x =>
    simp [Raw.Machine.carryOut, following_raw, Raw.Machine.skipIf, Timers.setDelay, byteOfInt_toNat]
  | setSound x =>
    simp [Raw.Machine.carryOut, following_raw, Raw.Machine.skipIf, Timers.setSound, byteOfInt_toNat]
  | addIndex x =>
    simp [Raw.Machine.carryOut, continueWith_raw, Registers.setI, ofInt_toNat, wordOfInt_byte]
  | loadGlyph x => simp [Raw.Machine.carryOut, continueWith_raw]
  | storeDecimal x =>
    simp only [Raw.Machine.carryOut, Action.run_bind, getV_raw, getI_raw, Outcome.done_andThen,
      digits_eq, bytes_raw, Action.run_ofExcept_ok, Outcome.after_empty, writeBlock_raw]
    rcases m.memory.writeBlock m.registers.i.toNat (decimalDigits (m.registers.value x)) with
      ⟨_ | _, _⟩ <;> simp [following_raw, Raw.Machine.skipIf]
  | storeRegisters x =>
    simp only [Raw.Machine.carryOut, Action.run_bind, Action.run_state, getI_raw,
      Outcome.done_andThen, v_raw, bytes_raw, Action.run_ofExcept_ok, Outcome.after_empty,
      writeBlock_raw]
    rcases m.memory.writeBlock m.registers.i.toNat m.registers.v.toList with
      ⟨_ | _, _⟩ <;> simp [continueWith_raw, Registers.setI, ofInt_toNat]
    rfl
  | loadRegisters x =>
    simp only [Raw.Machine.carryOut, Action.run_bind, getI_raw, Outcome.done_andThen,
      readBlock_raw]
    cases read : m.memory.readBlock m.registers.i.toNat 16 with
    | error fault => rfl
    | ok bytes =>
      have length : bytes.length = 16 := by
        simpa using (congrArg List.length (Memory.map_read_of_readBlock read)).symm
      simp [Except.map, m.fill_raw length, continueWith_raw, Registers.setI, ofInt_toNat]
      rfl
  | unknown word => simp [Raw.Machine.carryOut, following_raw, Raw.Machine.skipIf]

end Machine
end Chip8
