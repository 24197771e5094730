import Chip8.Outcome
import Chip8.SignedIndex

namespace Chip8

/-- What can be done in a state. An error leaves the state as it is by then. -/
structure Action (σ α : Type) where
  run : σ → Outcome σ α

namespace Action

variable {σ τ α β : Type}

instance : Monad (Action σ) where
  pure value := ⟨fun s => .done s value #[]⟩
  bind act next := ⟨fun s => (act.run s).andThen fun value => (next value).run⟩

def stop (e : Error) : Action σ α := ⟨fun s => .stopped s e #[]⟩

def state : Action σ σ := ⟨fun s => .done s s #[]⟩

def put (s : σ) : Action σ Unit := ⟨fun _ => .done s () #[]⟩

def log (event : Event) : Action σ Unit := ⟨fun s => .done s () #[event]⟩

def ofExcept (answer : Except Error α) : Action σ α := ⟨fun s => ⟨answer, s, #[]⟩⟩

def on (part : τ → σ) (set : σ → τ → τ) (act : Action σ α) : Action τ α :=
  ⟨fun t => (act.run (part t)).within fun s => set s t⟩

@[simp]
theorem run_pure (value : α) (s : σ) : (pure value : Action σ α).run s = .done s value #[] := rfl

@[simp]
theorem run_bind (act : Action σ α) (next : α → Action σ β) (s : σ) :
    (act >>= next).run s = (act.run s).andThen fun value => (next value).run := rfl

@[simp]
theorem run_state (s : σ) : state.run s = .done s s #[] := rfl

@[simp]
theorem run_put (s s' : σ) : (put s').run s = .done s' () #[] := rfl

@[simp]
theorem run_log (event : Event) (s : σ) : (log event).run s = .done s () #[event] := rfl

@[simp]
theorem run_ofExcept_ok (value : α) (s : σ) : (ofExcept (.ok value)).run s = .done s value #[] :=
  rfl

@[simp]
theorem run_ite (c : Prop) [Decidable c] (act act' : Action σ α) (s : σ) :
    (if c then act else act').run s = if c then act.run s else act'.run s := by
  split <;> rfl

end Action

namespace Outcome

variable {σ τ α β : Type}

-- Kept out of dsimp: as a definitional step it makes the kernel run what comes next.
@[simp]
theorem done_andThen (s : σ) (value : α) (events : Array Event) (next : α → σ → Outcome σ β) :
    (done s value events).andThen next = (next value s).after events := (rfl)

@[simp]
theorem stopped_andThen (s : σ) (e : Error) (events : Array Event) (next : α → σ → Outcome σ β) :
    (stopped s e events).andThen next = stopped s e events := rfl

@[simp]
theorem done_after (s : σ) (value : α) (events before : Array Event) :
    (done s value events).after before = done s value (before ++ events) := rfl

@[simp]
theorem done_within (s : τ) (value : α) (events : Array Event) (put : τ → σ) :
    (done s value events).within put = done (put s) value events := rfl

@[simp]
theorem stopped_within (s : τ) (e : Error) (events : Array Event) (put : τ → σ) :
    (stopped s e events : Outcome τ α).within put = stopped (put s) e events := rfl

@[simp]
theorem after_empty (o : Outcome σ α) : o.after #[] = o := by
  simp [after]

end Outcome

/-! ## Lists -/

namespace Raw

variable {α : Type}

def item (l : List α) (index : Int) : Except Error α :=
  match signedIndex? l.length index with
  | some k => .ok (l.get k)
  | none => .error (.ofIndex index .readIndex)

def replace (l : List α) (index : Int) (value : α) : Except Error (List α) :=
  match signedIndex? l.length index with
  | some k => .ok (l.set k value)
  | none => .error (.ofIndex index .writeIndex)

/-- Where a slice is cut: counted from the end if below zero, and never outside. -/
def cut (length : Nat) (position : Int) : Nat :=
  min length (if position < 0 then position + length else position).toNat

def slice (l : List α) (start stop : Int) : List α :=
  (l.take (cut l.length stop)).drop (cut l.length start)

/-- Puts a list in the place of a slice. The whole is longer or shorter after it, as they are. -/
def splice (l : List α) (start stop : Int) (middle : List α) : List α :=
  l.take (cut l.length start) ++ middle ++ l.drop (max (cut l.length start) (cut l.length stop))

def bytes (values : List Int) : Except Error (List Int) :=
  if ∀ value ∈ values, 0 ≤ value ∧ value < 256 then .ok values
  else .error (.host .other "bytes must be in range(0, 256)")

variable {n : Nat}

theorem item_of_length {l : List α} (length : l.length = n) (index : Int) :
    item l index = match signedIndex? n index with
      | some k => .ok (l.get (k.cast length.symm))
      | none => .error (.ofIndex index .readIndex) := by
  subst length
  unfold item
  cases signedIndex? l.length index <;> rfl

theorem replace_of_length {l : List α} (length : l.length = n) (index : Int) (value : α) :
    replace l index value = match signedIndex? n index with
      | some k => .ok (l.set k value)
      | none => .error (.ofIndex index .writeIndex) := by
  subst length
  unfold replace
  cases signedIndex? l.length index <;> rfl

theorem item_toList (values : Vector α n) (index : Int) :
    item values.toList index = match signedIndex? n index with
      | some k => .ok (values.get k)
      | none => .error (.ofIndex index .readIndex) := by
  rw [item_of_length Vector.length_toList]
  cases signedIndex? n index <;> rfl

theorem replace_toList (values : Vector α n) (index : Int) (value : α) :
    replace values.toList index value = match signedIndex? n index with
      | some k => .ok (values.set k value).toList
      | none => .error (.ofIndex index .writeIndex) := by
  rw [replace_of_length Vector.length_toList]
  cases signedIndex? n index with
  | none => rfl
  | some k => exact congrArg Except.ok (Vector.toList_set ..).symm

def numbers (toNat : α → Nat) (values : Vector α n) : List Int :=
  values.toList.map fun value => (toNat value : Int)

variable (toNat : α → Nat) (values : Vector α n)

theorem numbers_eq :
    numbers toNat values = (values.map fun value => (toNat value : Int)).toList :=
  Vector.toList_map.symm

theorem length_numbers : (numbers toNat values).length = n := by
  rw [numbers_eq, Vector.length_toList]

theorem item_numbers (index : Int) :
    item (numbers toNat values) index = match signedIndex? n index with
      | some k => .ok (toNat (values.get k) : Int)
      | none => .error (.ofIndex index .readIndex) := by
  rw [numbers_eq, item_toList]
  cases signedIndex? n index with
  | none => rfl
  | some k => exact congrArg Except.ok (Vector.getElem_map _ k.isLt)

theorem replace_numbers (index : Int) (value : α) :
    replace (numbers toNat values) index (toNat value) = match signedIndex? n index with
      | some k => .ok (numbers toNat (values.set k value))
      | none => .error (.ofIndex index .writeIndex) := by
  rw [numbers_eq, replace_toList]
  cases signedIndex? n index with
  | none => rfl
  | some k => exact congrArg Except.ok (by rw [numbers_eq, Vector.map_set])

/-! ## Slices -/

theorem cut_natCast (length k : Nat) : cut length k = min length k := by
  rw [cut, if_neg (by omega), Int.toNat_natCast]

theorem slice_natCast (l : List α) (start count : Nat) (fits : start + count ≤ l.length) :
    slice l start (start + count) = (l.drop start).take count := by
  rw [slice, ← Int.natCast_add, cut_natCast, cut_natCast, Nat.min_eq_right fits,
    Nat.min_eq_right (by omega), List.drop_take, Nat.add_sub_cancel_left]

theorem splice_natCast (l : List α) (start : Nat) (middle : List α)
    (fits : start + middle.length ≤ l.length) :
    splice l start (start + middle.length) middle =
      l.take start ++ middle ++ l.drop (start + middle.length) := by
  rw [splice, ← Int.natCast_add, cut_natCast, cut_natCast, Nat.min_eq_right fits,
    Nat.min_eq_right (by omega), Nat.max_eq_right (by omega)]

end Raw
end Chip8
