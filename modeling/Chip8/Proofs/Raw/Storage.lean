import Chip8.Proofs.Memory.ByteMap
import Chip8.Proofs.Raw.Components

namespace Chip8

theorem Memory.toList_overlay (bytes : Vector UInt8 Memory.size) (start : Nat) (data : List UInt8)
    (fits : start + data.length ≤ Memory.size) :
    (Memory.overlay bytes start data).toList =
      bytes.toList.take start ++ data ++ bytes.toList.drop (start + data.length) := by
  induction data generalizing bytes start with
  | nil => simp [Memory.overlay]
  | cons value rest ih =>
    rw [List.length_cons] at fits
    have inside : start < bytes.toList.length := by
      rw [Vector.length_toList]
      omega
    -- The first byte ends what is taken, and the rest is laid over one place later.
    rw [Memory.overlay, dif_pos (by omega), ih _ _ (by omega), Vector.toList_set,
      List.take_set, List.drop_set_of_lt (by omega), List.length_cons]
    have first : (bytes.toList.take (start + 1)).set start value =
        bytes.toList.take start ++ [value] := by
      rw [List.take_succ_eq_append_getElem inside,
        List.set_append_right _ _ (List.length_take_le _ _),
        List.length_take_of_le (Nat.le_of_lt inside), Nat.sub_self]
      rfl
    rw [first, Nat.add_right_comm, Nat.add_assoc start, List.append_assoc (_ ++ [value]),
      List.append_assoc, List.append_assoc, List.singleton_append]
    rfl

@[simp]
theorem Outcome.quiet_ok {σ α : Type} (value : α) (s : σ) :
    quiet (.ok value, s) = .done s value #[] := rfl

@[simp]
theorem Outcome.quiet_error {σ α : Type} (e : Error) (s : σ) :
    (quiet (.error e, s) : Outcome σ α) = .stopped s e #[] := rfl

def faulting {σ α : Type} (result : Except Fault α × σ) : Outcome σ α :=
  .quiet (result.1.mapError .fault, result.2)

@[simp]
theorem faulting_ok {σ α : Type} (value : α) (s : σ) :
    faulting (.ok value, s) = .done s value #[] := rfl

@[simp]
theorem faulting_error {σ α : Type} (fault : Fault) (s : σ) :
    (faulting (.error fault, s) : Outcome σ α) = .stopped s (.fault fault) #[] := rfl

/-! ## Memory -/

namespace Memory

def raw (m : Memory) : Raw.Memory := ⟨Raw.numbers UInt8.toNat m.bytes, m.romSize⟩

variable (m : Memory)

theorem check_raw (address : Int) : (Raw.Memory.check address).run m.raw =
    if InRange address then .done m.raw () #[]
    else .stopped m.raw (.fault (.outOfRange address)) #[] := by
  have inside : 0 ≤ address ∧ address < 4096 ↔ InRange address := Iff.rfl
  simp only [Raw.Memory.check, Action.run_ite, inside]
  rfl

theorem read_raw (address : Int) : (Raw.Memory.read address).run m.raw =
    (faulting ((m.read address).map fun byte => (byte.toNat : Int), m)).within raw := by
  simp only [Raw.Memory.read, Action.run_bind, check_raw]
  by_cases inside : InRange address
  · obtain ⟨k, rfl⟩ := Int.eq_ofNat_of_zero_le inside.1
    have below : k < size := inRange_natCast.1 inside
    rw [if_pos inside, read_natCast m below]
    simp [raw, Raw.item_numbers, signedIndex?_natCast below, Except.map]
  · rw [if_neg inside, read, dif_neg inside]
    simp [Except.map]

theorem write_raw (address value : Int) : (Raw.Memory.write address value).run m.raw =
    (faulting (m.write address value)).within raw := by
  simp only [Raw.Memory.write, Action.run_bind, check_raw]
  by_cases inside : InRange address
  · obtain ⟨k, rfl⟩ := Int.eq_ofNat_of_zero_le inside.1
    have below : k < size := inRange_natCast.1 inside
    rw [if_pos inside, write, dif_pos inside, ← toNat_byteOfInt]
    simp [raw, Raw.replace_numbers, signedIndex?_natCast below]
  · rw [if_neg inside, write, dif_neg inside]
    simp

theorem word_eq_lor (high low : UInt8) :
    ((UInt16.ofNat (256 * high.toNat + low.toNat)).toNat : Int) =
      Int.lor (256 * high.toNat) low.toNat := by
  have low_lt : low.toNat < 2 ^ 8 := low.toNat_lt
  rw [toNat_word]
  exact congrArg Int.ofNat (Nat.two_pow_add_eq_or_of_lt low_lt high.toNat)

theorem readWord_raw (address : Int) : (Raw.Memory.readWord address).run m.raw =
    (faulting ((m.readWord address).map fun word => (word.toNat : Int), m)).within raw := by
  simp only [Raw.Memory.readWord, readWord, Action.run_bind, read_raw]
  cases m.read address with
  | error fault => rfl
  | ok high =>
    simp only [Except.map, faulting_ok, Outcome.done_within, Outcome.done_andThen, read_raw,
      Action.run_bind, Outcome.after_empty]
    cases m.read (address + 1) with
    | error fault => rfl
    | ok low => exact congrArg (fun word => Outcome.done m.raw word #[]) (word_eq_lor high low).symm

theorem write_emod (address value : Int) :
    m.write address (value % 256) = m.write address value := by
  have same : UInt8.ofInt (value % 256) = UInt8.ofInt value := by
    rw [← toNat_byteOfInt, byteOfInt_toNat]
  unfold write
  rw [same]

theorem writeWord_raw (address value : Int) : (Raw.Memory.writeWord address value).run m.raw =
    (faulting (m.writeWord address value)).within raw := by
  simp only [Raw.Memory.writeWord, Action.run_bind, write_raw, write_emod, writeWord]
  rcases m.write address (value / 256) with ⟨_ | _, written⟩
  · rfl
  · simp [write_raw, write_emod]

theorem checks_raw {α : Type} (address : Int) (length : Nat) (act : Action Raw.Memory α) :
    (do
      Raw.Memory.check address
      Raw.Memory.check (address + length - 1)
      act).run m.raw =
      match strayEnd? address length with
      | none => act.run m.raw
      | some stray => .stopped m.raw (.fault (.outOfRange stray)) #[] := by
  simp only [Action.run_bind, check_raw, strayEnd?]
  by_cases first : InRange address
  · rw [if_pos first, if_pos first]
    simp only [Outcome.done_andThen, Outcome.after_empty, Action.run_bind, check_raw]
    by_cases last : InRange (address + length - 1)
    · rw [if_pos last, if_pos last]
      simp only [Outcome.done_andThen, Outcome.after_empty]
    · rw [if_neg last, if_neg last]
      rfl
  · rw [if_neg first, if_neg first]
    rfl

theorem readBlock_raw (address length : Int) : (Raw.Memory.readBlock address length).run m.raw =
    (faulting ((m.readBlock address length).map fun bytes =>
      bytes.map fun byte => (byte.toNat : Int), m)).within raw := by
  unfold Raw.Memory.readBlock readBlock
  by_cases empty : length ≤ 0
  · rw [if_pos empty, if_pos empty]
    rfl
  · rw [if_neg empty, if_neg empty]
    obtain ⟨count, rfl⟩ := Int.eq_ofNat_of_zero_le (Int.le_of_lt (Int.not_le.1 empty))
    rw [checks_raw, Int.toNat_natCast]
    cases inside : strayEnd? address count with
    | some stray => rfl
    | none =>
      have some : 0 < count := by omega
      obtain ⟨start, rfl, fits⟩ := natCast_of_within some ((strayEnd?_eq_none_iff some).1 inside)
      have length : start + count ≤ (Raw.numbers UInt8.toNat m.bytes).length :=
        fits.trans_eq (Raw.length_numbers _ _).symm
      have sliced : Raw.slice (Raw.numbers UInt8.toNat m.bytes) start (start + count) =
          ((m.bytes.toList.drop start).take count).map fun byte => (byte.toNat : Int) := by
        rw [Raw.slice_natCast _ _ _ length, Raw.numbers, List.map_take, List.map_drop]
      simp only [Action.run_bind, Action.run_state, Outcome.done_andThen, Outcome.after_empty,
        Action.run_pure, Except.map, faulting_ok, Outcome.done_within, raw, sliced,
        Int.toNat_natCast]

theorem splice_raw (start : Nat) (data : List UInt8) (fits : start + data.length ≤ size) :
    Raw.splice (Raw.numbers UInt8.toNat m.bytes) start (start + data.length)
        (data.map fun byte => (byte.toNat : Int)) =
      Raw.numbers UInt8.toNat (overlay m.bytes start data) := by
  have count : (data.map fun byte => (byte.toNat : Int)).length = data.length := List.length_map ..
  have length : start + (data.map fun byte => (byte.toNat : Int)).length ≤
      (Raw.numbers UInt8.toNat m.bytes).length := by
    rw [count, Raw.length_numbers]
    exact fits
  have spliced := Raw.splice_natCast _ _ _ length
  rw [count] at spliced
  rw [spliced, Raw.numbers, Raw.numbers, toList_overlay _ _ _ fits]
  simp only [List.map_append, List.map_take, List.map_drop]

theorem writeBlock_raw (address : Int) (data : List UInt8) :
    (Raw.Memory.writeBlock address (data.map fun byte => (byte.toNat : Int))).run m.raw =
      (faulting (m.writeBlock address data)).within raw := by
  unfold Raw.Memory.writeBlock writeBlock
  rw [List.isEmpty_map, List.length_map]
  by_cases empty : data.isEmpty
  · rw [if_pos empty, if_pos empty]
    rfl
  · rw [if_neg empty, if_neg empty, checks_raw]
    cases inside : strayEnd? address data.length with
    | some stray => rfl
    | none =>
      have some : 0 < data.length := by simpa [List.length_pos_iff] using empty
      obtain ⟨start, rfl, fits⟩ := natCast_of_within some ((strayEnd?_eq_none_iff some).1 inside)
      have spliced := m.splice_raw start data fits
      simp only [Action.run_bind, Action.run_state, Outcome.done_andThen, Outcome.after_empty,
        Action.run_put, raw, spliced, faulting_ok, Outcome.done_within, Int.toNat_natCast]

theorem loadRom_raw (rom : List UInt8) :
    (Raw.Memory.loadRom (rom.map fun byte => (byte.toNat : Int))).run m.raw =
      match m.loadRom rom with
      | (.ok (), m) => .done m.raw () #[.romCopied rom.length]
      | (.error e, m) => .stopped m.raw e #[] := by
  unfold Raw.Memory.loadRom loadRom
  rw [List.length_map]
  by_cases fits : rom.length ≤ romCapacity
  · have small : ¬ 3584 < rom.length := Nat.not_lt.2 fits
    have inside : programStart + rom.length ≤ size := Nat.add_le_of_le_sub' (by decide) fits
    have spliced := m.splice_raw programStart rom inside
    rw [if_pos fits, if_neg small]
    simp only [Action.run_bind, Action.run_state, Outcome.done_andThen, Outcome.after_empty,
      Action.run_put, Action.run_log]
    exact congrArg (fun data : List Int => Outcome.done (Raw.Memory.mk data rom.length) ()
      #[.romCopied rom.length]) spliced
  · have large : 3584 < rom.length := Nat.lt_of_not_le fits
    rw [if_neg fits, if_pos large]
    rfl

theorem blank_raw : blank.raw = Raw.Memory.blank := by
  let zeros : List Int := List.replicate 4096 0
  let font : List Int := fontBytes.map fun byte => (byte.toNat : Int)
  have length : font.length = 80 := List.length_map _
  have fits : 0 + font.length ≤ zeros.length := by
    rw [length, List.length_replicate]
    decide
  have spliced : Raw.splice zeros 0 80 font = font ++ List.replicate 4016 0 := by
    have spliced := Raw.splice_natCast zeros 0 font fits
    rw [length, List.take_zero, List.nil_append, List.drop_replicate] at spliced
    exact spliced
  have bytes : Raw.numbers UInt8.toNat blank.bytes = font ++ List.replicate 4016 0 := by
    show (fontBytes ++ List.replicate 4016 0).map _ = _
    rw [List.map_append, List.map_replicate]
    rfl
  rw [raw, bytes, Raw.Memory.blank, spliced]
  rfl

theorem perform_raw (op : Operation) : (Raw.Memory.perform op).run m.raw =
    (Outcome.quiet (op.perform m)).within raw := by
  cases op with
  | read address =>
    rw [Raw.Memory.perform, Action.run_bind, read_raw, Operation.perform]
    cases m.read address <;> rfl
  | readWord address =>
    rw [Raw.Memory.perform, Action.run_bind, readWord_raw, Operation.perform]
    cases m.readWord address <;> rfl
  | readBlock address length =>
    rw [Raw.Memory.perform, Action.run_bind, readBlock_raw, Operation.perform]
    cases m.readBlock address length with
    | error fault => rfl
    | ok block =>
      have same : (block.map fun byte => (byte.toNat : Int)).map UInt8.ofInt = block := by
        simp [Function.comp_def, byteOfInt_toNat]
      exact congrArg (fun block => Outcome.done m.raw (Reply.bytes block) #[]) same
  | write address value =>
    rw [Raw.Memory.perform, Action.run_bind, write_raw, Operation.perform]
    rcases m.write address value with ⟨_ | _, _⟩ <;> rfl
  | writeWord address value =>
    rw [Raw.Memory.perform, Action.run_bind, writeWord_raw, Operation.perform]
    rcases m.writeWord address value with ⟨_ | _, _⟩ <;> rfl
  | writeBlock address data =>
    rw [Raw.Memory.perform, Action.run_bind, writeBlock_raw, Operation.perform]
    rcases m.writeBlock address data with ⟨_ | _, _⟩ <;> rfl
  | clear =>
    exact congrArg (fun m => Outcome.done m Reply.nothing #[]) blank_raw.symm

end Memory

/-! ## Registers -/

namespace Registers

def raw (r : Registers) : Raw.Registers where
  v := Raw.numbers UInt8.toNat r.v
  i := r.i.toNat
  pc := r.pc.toNat
  opcode := r.opcode.toNat

variable (r : Registers)

theorem getV_raw (x : Register) :
    (Raw.Registers.getV x.val).run r.raw = .done r.raw ((r.value x).toNat : Int) #[] := by
  simp [Raw.Registers.getV, raw, Raw.item_numbers, signedIndex?_natCast x.isLt, value]

theorem setV_raw (x : Register) (value : Int) : (Raw.Registers.setV x.val value).run r.raw =
    .done (r.assign x (UInt8.ofInt value)).raw () #[] := by
  simp [Raw.Registers.setV, raw, ← toNat_byteOfInt, Raw.replace_numbers,
    signedIndex?_natCast x.isLt, assign]

theorem setI_raw (value : Int) : (Raw.Registers.setI value).run r.raw =
    .done (r.setI value).raw () #[] := by
  simp [Raw.Registers.setI, raw, setI, toNat_ofInt]

theorem setPc_raw (value : Int) : (Raw.Registers.setPc value).run r.raw =
    .done (r.setPc value).raw () #[] := by
  simp [Raw.Registers.setPc, raw, setPc, toNat_ofInt]

theorem setOpcode_raw (value : Int) : (Raw.Registers.setOpcode value).run r.raw =
    .done (r.setOpcode value).raw () #[] := by
  simp [Raw.Registers.setOpcode, raw, setOpcode, toNat_ofInt]

/-- The registers from `k` on hold bytes, as many as there are. -/
def filled (k : Nat) (data : List UInt8) : Registers :=
  { r with v := Vector.ofFn fun x =>
      if k ≤ x.val then data.getD (x - k) (r.value x) else r.value x }

theorem filled_nil (k : Nat) : r.filled k [] = r := by
  have same : (Vector.ofFn fun x : Register => r.value x) = r.v := by
    ext k inside
    simp [value, Vector.get]
  simp [filled, same]

theorem filled_assign {k : Nat} (below : k < 16) (byte : UInt8) (rest : List UInt8) :
    (r.assign ⟨k, below⟩ byte).filled (k + 1) rest = r.filled k (byte :: rest) := by
  refine congrArg (fun v => { r with v }) (congrArg Vector.ofFn (funext fun x => ?_))
  rw [value_assign]
  rcases Nat.lt_trichotomy x.val k with before | rfl | after
  · have other : x ≠ ⟨k, below⟩ := fun same => by simp [same] at before
    rw [if_neg (by omega), if_neg other, if_neg (by omega)]
  · simp
  · have other : x ≠ ⟨k, below⟩ := fun same => by simp [same] at after
    have later : x.val - k = x.val - (k + 1) + 1 := by omega
    rw [if_pos (by omega), if_neg other, if_pos (by omega), later, List.getD_cons_succ]

theorem filled_all {data : List UInt8} (length : data.length = 16) :
    r.filled 0 data = { r with v := Vector.ofFn fun k => data.getD k 0 } := by
  refine congrArg (fun v => { r with v }) (congrArg Vector.ofFn (funext fun x => ?_))
  have inside : x.val < data.length := x.isLt.trans_eq length.symm
  simp [inside]

theorem fill_raw (k : Nat) (data : List UInt8) (fits : k + data.length ≤ 16) :
    (Raw.Registers.fill k (data.map fun byte => (byte.toNat : Int))).run r.raw =
      .done (r.filled k data).raw () #[] := by
  induction data generalizing k r with
  | nil =>
    rw [filled_nil]
    rfl
  | cons byte rest ih =>
    rw [List.length_cons] at fits
    have below : k < 16 := by omega
    have first := r.setV_raw ⟨k, below⟩ byte.toNat
    have next := ih (r.assign ⟨k, below⟩ byte) (k + 1) (by omega)
    rw [filled_assign] at next
    rw [byteOfInt_toNat] at first
    rw [List.map_cons, Raw.Registers.fill, Action.run_bind, first, Outcome.done_andThen,
      Outcome.after_empty]
    exact next

theorem initial_raw : initial.raw = Raw.Registers.initial := by decide +kernel

theorem perform_raw (op : Operation) : (Raw.Registers.perform op).run r.raw =
    (Outcome.quiet (op.perform r)).within raw := by
  cases op with
  | get index =>
    simp only [Raw.Registers.perform, Raw.Registers.getV, Action.run_bind, Action.run_state,
      Outcome.done_andThen, raw, Raw.item_numbers, Operation.perform, get]
    cases signedIndex? 16 index <;> rfl
  | set index value =>
    simp only [Raw.Registers.perform, Raw.Registers.setV, Action.run_bind, Action.run_state,
      Outcome.done_andThen, raw, ← toNat_byteOfInt, Raw.replace_numbers, Operation.perform, set]
    cases signedIndex? 16 index <;> rfl
  | setFlag value =>
    have stored : (Raw.Registers.setV 15 value).run r.raw = _ := r.setV_raw flag value
    rw [Raw.Registers.perform, Action.run_bind, stored]
    rfl
  | setI value =>
    rw [Raw.Registers.perform, Action.run_bind, setI_raw]
    rfl
  | setPc value =>
    rw [Raw.Registers.perform, Action.run_bind, setPc_raw]
    rfl
  | setOpcode value =>
    rw [Raw.Registers.perform, Action.run_bind, setOpcode_raw]
    rfl
  | reset => exact congrArg (fun r => Outcome.done r Reply.nothing #[]) initial_raw.symm

end Registers

/-! ## Call stack -/

namespace CallStack

def raw (s : CallStack 16) : Raw.CallStack := ⟨Raw.numbers UInt16.toNat s.slots, s.depth⟩

variable (s : CallStack 16)

theorem push_raw (address : Int) : (Raw.CallStack.push address).run s.raw =
    (faulting (s.push address)).within raw := by
  have length : s.raw.slots.length = 16 := Raw.length_numbers _ _
  have stored := Raw.replace_numbers UInt16.toNat s.slots s.depth (UInt16.ofInt address)
  rw [toNat_ofInt] at stored
  unfold push
  by_cases room : s.depth < 16
  · have inside : ¬ (s.raw.slots.length : Int) ≤ s.raw.sp := by
      show ¬ (_ : Int) ≤ (s.depth : Int)
      omega
    rw [signedIndex?_natCast room] at stored
    simp only [Raw.CallStack.push, Action.run_bind, Action.run_state, Outcome.done_andThen,
      if_neg inside, dif_pos room]
    simp only [raw, stored, Action.run_ofExcept_ok]
    rfl
  · have full : (s.raw.slots.length : Int) ≤ s.raw.sp := by
      show (_ : Int) ≤ (s.depth : Int)
      omega
    simp only [Raw.CallStack.push, Action.run_bind, Action.run_state, Outcome.done_andThen,
      if_pos full, dif_neg room]
    rfl

theorem top_raw (depth : Nat) (room : depth < 16) :
    Raw.item s.raw.slots ((depth + 1 : Nat) - 1 : Int) = .ok (s.slots.get ⟨depth, room⟩).toNat := by
  have top : ((depth + 1 : Nat) - 1 : Int) = depth := by omega
  rw [top, raw, Raw.item_numbers, signedIndex?_natCast room]

theorem pop_raw : Raw.CallStack.pop.run s.raw =
    (faulting (s.pop.1.map fun address => (address.toNat : Int), s.pop.2)).within raw := by
  obtain ⟨slots, depth, bound⟩ := s
  cases depth with
  | zero => rfl
  | succ depth =>
    have top := top_raw ⟨slots, depth + 1, bound⟩ depth bound
    have used : ¬ ((depth + 1 : Nat) : Int) = 0 := by omega
    simp only [Raw.CallStack.pop, Action.run_bind, Action.run_state, Outcome.done_andThen,
      raw, if_neg used, Action.run_put]
    simp only [raw] at top
    rw [top]
    simp [pop, pop?, Except.map, raw]

theorem peek_raw : Raw.CallStack.peek.run s.raw =
    (faulting (s.peek.map fun address => (address.toNat : Int), s)).within raw := by
  obtain ⟨slots, depth, bound⟩ := s
  cases depth with
  | zero => rfl
  | succ depth =>
    have top := top_raw ⟨slots, depth + 1, bound⟩ depth bound
    have used : ¬ ((depth + 1 : Nat) : Int) = 0 := by omega
    simp only [Raw.CallStack.peek, Action.run_bind, Action.run_state, Outcome.done_andThen,
      raw, if_neg used]
    simp only [raw] at top
    rw [top]
    simp [peek, pop?, Except.map, raw]

theorem empty_raw : (empty : CallStack 16).raw = Raw.CallStack.empty := by decide +kernel

theorem clear_raw : Raw.CallStack.clear.run s.raw = .done (empty : CallStack 16).raw () #[] := by
  have length : s.raw.slots.length = 16 := Raw.length_numbers _ _
  simp [Raw.CallStack.clear, length, empty_raw, Raw.CallStack.empty]

theorem perform_raw (op : Operation) : (Raw.CallStack.perform op).run s.raw =
    (Outcome.quiet (op.perform s)).within raw := by
  cases op with
  | push address =>
    rw [Raw.CallStack.perform, Action.run_bind, push_raw, Operation.perform]
    rcases s.push address with ⟨_ | _, _⟩ <;> rfl
  | pop =>
    rw [Raw.CallStack.perform, Action.run_bind, pop_raw, Operation.perform]
    rcases s.pop with ⟨_ | _, _⟩ <;> rfl
  | peek =>
    rw [Raw.CallStack.perform, Action.run_bind, peek_raw, Operation.perform]
    cases s.peek <;> rfl
  | clear =>
    rw [Raw.CallStack.perform, Action.run_bind, clear_raw]
    rfl

end CallStack

end Chip8
