import Chip8.Proofs.CallStack.Entries
import Chip8.Proofs.Instruction.Patterns
import Chip8.Proofs.Machine.Operations

namespace Chip8.CallStack

variable {capacity : Nat}

theorem fitsIndex_eq_false_iff {size : Int} :
    fitsIndex size = false ↔ size < -0x8000000000000000 ∨ 0x8000000000000000 ≤ size := by
  have bound : (indexBound : Int) = 0x8000000000000000 := rfl
  simp only [fitsIndex, bound, Bool.and_eq_false_iff, decide_eq_false_iff_not]
  omega

theorem create_eq (room : Nat → Bool) (size : Int) : create room size =
    if size < -0x8000000000000000 ∨ 0x8000000000000000 ≤ size then .error .sizeTooWide
    else if 0 < size ∧ room size.toNat = false then .error .noRoom
    else .ok ⟨size.toNat, empty⟩ := by
  simp only [← fitsIndex_eq_false_iff, create, checkSize]
  cases fitsIndex size with
  | false => rfl
  | true =>
    simp only [Bool.not_true, Bool.false_eq_true, Bool.true_eq_false, if_false, Bool.and_eq_true,
      decide_eq_true_eq, Bool.not_eq_true']
    split <;> rfl

def numbers (s : CallStack capacity) : List Int :=
  s.entries.map fun address => (address.toNat : Int)

theorem length_numbers (s : CallStack capacity) : s.numbers.length = s.depth := by
  simp [numbers]

theorem numbers_empty : (empty : CallStack capacity).numbers = [] := by
  simp [numbers, entries, empty]

theorem numbers_of_entries {above below : CallStack capacity} {address : UInt16}
    (h : above.entries = below.entries ++ [address]) :
    above.numbers = below.numbers ++ [(address.toNat : Int)] := by
  simp [numbers, h]

theorem pop?_cases (s : CallStack capacity) :
    (s.pop? = none ∧ s.numbers = []) ∨
      ∃ (address : UInt16) (below : CallStack capacity), s.pop? = some (address, below) ∧
        s.numbers = below.numbers ++ [(address.toNat : Int)] := by
  by_cases none : s.entries = []
  · exact Or.inl ⟨pop?_of_entries_eq_nil s none, by simp [numbers, none]⟩
  · obtain ⟨address, below, popped, entries⟩ := pop?_of_entries_ne_nil s none
    exact Or.inr ⟨address, below, popped, numbers_of_entries entries⟩

def Operation.run (op : Operation) (s : CallStack capacity) : Outcome (CallStack capacity) Reply :=
  .quiet (op.perform s)

/-- What an operation does to a list of at most `capacity` numbers, the newest at its end. -/
def Operation.onList (capacity : Nat) (op : Operation) (list : List Int) :
    Outcome (List Int) Reply :=
  match op with
  | push address =>
    if list.length = capacity then .stopped list (.fault (.stackFull capacity)) #[]
    else .done (list ++ [address % 65536]) .nothing #[]
  | pop =>
    match list.getLast? with
    | some last => .done list.dropLast (.number last) #[]
    | none => .stopped list (.fault .returnFromEmpty) #[]
  | peek =>
    match list.getLast? with
    | some last => .done list (.number last) #[]
    | none => .stopped list (.fault .stackEmpty) #[]
  | clear => .done [] .nothing #[]

theorem run_cases (op : Operation) (s : CallStack capacity) :
    (∃ error, op.run s = .stopped s error #[] ∧
      op.onList capacity s.numbers = .stopped s.numbers error #[]) ∨
    ∃ next reply, op.run s = .done next reply #[] ∧
      op.onList capacity s.numbers = .done next.numbers reply #[] := by
  cases op with
  | push address =>
    by_cases full : s.depth = capacity
    · refine Or.inl ⟨.fault (.stackFull capacity), ?_, ?_⟩
      · simp only [Operation.run, Operation.perform, push_of_full s address full]
        rfl
      · simp only [Operation.onList, length_numbers, if_pos full]
    · have room : s.depth < capacity := Nat.lt_of_le_of_ne s.depth_le full
      obtain ⟨above, pushed, entries⟩ := push_of_lt s address room
      refine Or.inr ⟨above, .nothing, ?_, ?_⟩
      · simp only [Operation.run, Operation.perform, pushed]
        rfl
      · rw [numbers_of_entries entries, toNat_ofInt]
        simp only [Operation.onList, length_numbers, if_neg full]
  | pop =>
    rcases pop?_cases s with ⟨popped, none⟩ | ⟨address, below, popped, some⟩
    · refine Or.inl ⟨.fault .returnFromEmpty, ?_, ?_⟩
      · simp only [Operation.run, Operation.perform, pop, popped]
        rfl
      · rw [none]
        rfl
    · refine Or.inr ⟨below, .number address.toNat, ?_, ?_⟩
      · simp only [Operation.run, Operation.perform, pop, popped]
        rfl
      · simp only [Operation.onList, some, List.getLast?_concat, List.dropLast_concat]
  | peek =>
    rcases pop?_cases s with ⟨popped, none⟩ | ⟨address, below, popped, some⟩
    · refine Or.inl ⟨.fault .stackEmpty, ?_, ?_⟩
      · simp only [Operation.run, Operation.perform, peek, popped]
        rfl
      · rw [none]
        rfl
    · refine Or.inr ⟨s, .number address.toNat, ?_, ?_⟩
      · simp only [Operation.run, Operation.perform, peek, popped]
        rfl
      · simp only [Operation.onList, some, List.getLast?_concat]
  | clear =>
    refine Or.inr ⟨empty, .nothing, rfl, ?_⟩
    rw [numbers_empty]
    rfl

theorem onList_numbers (op : Operation) (s : CallStack capacity) :
    op.onList capacity s.numbers = (op.run s).within numbers := by
  rcases run_cases op s with ⟨error, run, list⟩ | ⟨next, reply, run, list⟩
  · rw [run, list]
    rfl
  · rw [run, list]
    rfl

theorem answers_or_keeps (op : Operation) (s : CallStack capacity) :
    (∃ reply, (op.run s).answer = .ok reply) ∨ (op.run s).state = s := by
  rcases run_cases op s with ⟨error, run, -⟩ | ⟨next, reply, run, -⟩
  · rw [run]
    exact Or.inr rfl
  · rw [run]
    exact Or.inl ⟨reply, rfl⟩

def seen (s : CallStack capacity) : Nat × Nat × List Int :=
  (s.slots.toList.length, s.depth, s.numbers)

theorem stack_is_a_bounded_list (room : Nat → Bool) (size : Int) (ops : List Operation) :
    let start : CallStack size.toNat := empty
    let s := Session.final Operation.run ops start
    (create room size =
      if size < -0x8000000000000000 ∨ 0x8000000000000000 ≤ size then .error .sizeTooWide
      else if 0 < size ∧ room size.toNat = false then .error .noRoom
      else .ok ⟨size.toNat, start⟩) ∧
    Session.transcript Operation.run seen ops start =
      Session.transcript (Operation.onList size.toNat)
        (fun list => (size.toNat, list.length, list)) ops [] ∧
    s.depth ≤ size.toNat ∧
    ∀ op : Operation, (∃ reply, (op.run s).answer = .ok reply) ∨ (op.run s).state = s := by
  intro start s
  refine ⟨create_eq room size, ?_, s.depth_le, fun op => answers_or_keeps op s⟩
  have none : start.numbers = [] := numbers_empty
  rw [← none]
  refine (Session.transcript_view (fun s => ?_) onList_numbers ops).symm
  simp [seen, length_numbers]

theorem no_stack_of_size_far_below_zero :
    create (fun _ => true) (-0x8000000000000001) = .error .sizeTooWide ∧
      ¬ ∃ (room : Nat → Bool) (s : CallStack 0),
        create room (-0x8000000000000001) = .ok ⟨0, s⟩ := by
  have refused (room : Nat → Bool) : create room (-0x8000000000000001) = .error .sizeTooWide := by
    rw [create_eq]
    exact if_pos (by decide)
  refine ⟨refused _, ?_⟩
  rintro ⟨room, s, made⟩
  cases (refused room).symm.trans made

end Chip8.CallStack
