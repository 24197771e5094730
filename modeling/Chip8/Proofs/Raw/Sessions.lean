import Chip8.Proofs.Raw.Validity

namespace Chip8

namespace Raw

def Machine.completed (op : Chip8.Machine.Operation) (m : Machine) (before : Nat) : Nat :=
  match op with
  | .cycle => if (cycle.run m).answer = .ok () then before + 1 else before
  | .reset _ => 0
  | _ => before

namespace Emulator

def CompletesAt (e : Emulator) (k : Nat) : Prop :=
  ((run k).run e).answer = .ok () ∧
    (Machine.cycle.run ((run k).run e).state.machine).answer = .ok ()

instance (e : Emulator) : DecidablePred e.CompletesAt :=
  fun _ => inferInstanceAs (Decidable (_ ∧ _))

def completed (op : Chip8.Emulator.Operation) (e : Emulator) (before : Nat) : Nat :=
  match op with
  | .machine op => Machine.completed op e.machine before
  | .cycle => if (Machine.cycle.run e.machine).answer = .ok () then before + 1 else before
  | .run count => before + Nat.count e.CompletesAt count.toNat
  | .reset _ => 0
  | .loadRomFile _ _ | .setClock _ => before

end Emulator
end Raw

theorem Machine.completed_raw (op : Operation) (m : Machine) (before : Nat) :
    Raw.Machine.completed op m.raw before = op.completed m before := by
  cases op with
  | cycle =>
    rw [Raw.Machine.completed, cycle_raw]
    rfl
  | _ => rfl

namespace Emulator

theorem completesAt_raw (e : Emulator) (k : Nat) : e.raw.CompletesAt k ↔ e.CompletesAt k := by
  rw [Raw.Emulator.CompletesAt, run_raw]
  show _ ∧ (Raw.Machine.cycle.run (e.run k).state.machine.raw).answer = _ ↔ _
  rw [Machine.cycle_raw]
  rfl

theorem completed_raw (op : Operation) (e : Emulator) (before : Nat) :
    Raw.Emulator.completed op e.raw before = op.completed e before := by
  cases op with
  | machine op => exact Machine.completed_raw op e.machine before
  | cycle => exact Machine.completed_raw .cycle e.machine before
  | run count =>
    have same : e.raw.CompletesAt = e.CompletesAt := funext fun k => propext (e.completesAt_raw k)
    simp only [Raw.Emulator.completed, Operation.completed, same]
  | _ => rfl

end Emulator

namespace Raw

theorem Machine.valid_perform {m : Machine} {completed : Nat} (valid : m.Valid completed)
    (op : Chip8.Machine.Operation) :
    ((perform op).run m).state.Valid (Machine.completed op m completed) := by
  -- A machine in range is the view of a typed one, and operations commute with the view.
  obtain ⟨m, size, rfl, rfl⟩ := Chip8.Machine.exists_raw valid
  have sized := Chip8.Machine.Operation.romSize_perform_le size op
  have counted := op.cycles_perform m
  rw [m.perform_raw, m.completed_raw, ← counted]
  exact Chip8.Machine.valid_raw sized

theorem Emulator.valid_perform {e : Emulator} {completed : Nat}
    (valid : e.machine.Valid completed) (op : Chip8.Emulator.Operation) :
    ((perform op).run e).state.machine.Valid (Emulator.completed op e completed) := by
  obtain ⟨m, size, rfl, eq⟩ := Chip8.Machine.exists_raw valid
  let emulator : Chip8.Emulator := ⟨e.config, m, e.clock, e.pace⟩
  have same : emulator.raw = e := by
    show (⟨e.config, m.raw, e.clock, e.pace⟩ : Emulator) = e
    rw [eq]
  have fits : emulator.machine.memory.romSize ≤ Chip8.Memory.romCapacity := size
  have sized := Chip8.Emulator.Operation.romSize_perform_le fits op
  have counted := op.cycles_perform emulator
  rw [← same, emulator.perform_raw, emulator.completed_raw, ← counted]
  exact Chip8.Machine.valid_raw sized

theorem Machine.valid_initial (random : RandomSource) : (initial random).Valid 0 := by
  rw [← Chip8.Machine.initial_raw]
  exact Chip8.Machine.valid_raw (Nat.zero_le _)

theorem Emulator.valid_of_start {config : Config} {random : Option RandomSource}
    {keySource : Option KeySource} {clock : Clock} {files : Files Id} {events : Array Event}
    {e : Emulator} (started : start config random keySource clock files = (.ok e, events)) :
    e.machine.Valid 0 := by
  rw [Chip8.Emulator.start_raw] at started
  obtain ⟨answer, -⟩ := Prod.mk.inj started
  rcases typed : Chip8.Emulator.start config random keySource clock files
    with ⟨_ | emulator, events⟩
  · rw [typed] at answer
    cases answer
  · obtain ⟨memory, pace, -, size, rfl⟩ := Chip8.Emulator.eq_of_start typed
    rw [typed] at answer
    cases answer
    exact Chip8.Machine.valid_raw size

theorem Machine.valid_final {m : Machine} {completed : Nat} (valid : m.Valid completed)
    (history : List Chip8.Machine.Operation) :
    (Session.final (fun op => (perform op).run) history m).Valid
      (Session.tally (fun op => (perform op).run) Machine.completed history m completed) :=
  Session.tally_induction valid fun op _ _ _ valid => valid_perform valid op

theorem Emulator.valid_final {e : Emulator} {completed : Nat} (valid : e.machine.Valid completed)
    (history : List Chip8.Emulator.Operation) :
    (Session.final (fun op => (perform op).run) history e).machine.Valid
      (Session.tally (fun op => (perform op).run) Emulator.completed history e completed) :=
  Session.tally_induction (R := fun (e : Emulator) completed => e.machine.Valid completed) valid
    fun op _ _ _ valid => valid_perform valid op

/-- A machine that is in range stays so, whatever a host does, and does what the typed one does. -/
theorem states_stay_valid :
    (∀ (m : Machine) (completed : Nat) (op : Chip8.Machine.Operation), m.Valid completed →
      ((Machine.perform op).run m).state.Valid (Machine.completed op m completed)) ∧
    (∀ (random : RandomSource) (history : List Chip8.Machine.Operation),
      (Session.final (fun op => (Machine.perform op).run) history (.initial random)).Valid
        (Session.tally (fun op => (Machine.perform op).run) Machine.completed history
          (.initial random) 0)) ∧
    (∀ (e : Emulator) (completed : Nat) (op : Chip8.Emulator.Operation), e.machine.Valid completed →
      ((Emulator.perform op).run e).state.machine.Valid (Emulator.completed op e completed)) ∧
    (∀ (config : Config) (random : Option RandomSource) (keySource : Option KeySource)
        (clock : Clock) (files : Files Id) (e : Emulator) (events : Array Event)
        (history : List Chip8.Emulator.Operation),
      Emulator.start config random keySource clock files = (.ok e, events) →
      (Session.final (fun op => (Emulator.perform op).run) history e).machine.Valid
        (Session.tally (fun op => (Emulator.perform op).run) Emulator.completed history e 0)) ∧
    (∀ (m : Chip8.Machine) (op : Chip8.Machine.Operation),
      (Machine.perform op).run m.raw = (op.perform m).within Chip8.Machine.raw) ∧
    ∀ (e : Chip8.Emulator) (op : Chip8.Emulator.Operation),
      (Emulator.perform op).run e.raw = (op.perform e).within Chip8.Emulator.raw := by
  refine ⟨?_, ?_, ?_, ?_, ?_, ?_⟩
  · exact fun m completed op valid => Machine.valid_perform valid op
  · exact fun random history => Machine.valid_final (Machine.valid_initial random) history
  · exact fun e completed op valid => Emulator.valid_perform valid op
  · intro config random keySource clock files e events history started
    exact Emulator.valid_final (Emulator.valid_of_start started) history
  · exact fun m op => m.perform_raw op
  · exact fun e op => e.perform_raw op

theorem states_stay_valid_outOfRange :
    let stray : Chip8.Machine.Operation := .memory (.writeBlock 4095 [1, 2])
    let below : Chip8.Emulator.Operation := .machine (.registers (.setI (-1)))
    let on := Machine.initial (.ofSeed RandomSource.usualSeed)
    let usual := Chip8.Emulator.usual.raw
    let history := [.machine (.loadRom [0x60, 0x05, 0x00, 0xEE]), .run 3, .machine stray, below]
    let used := (Session.final (fun op => (Emulator.perform op).run) history usual).machine
    on.Valid 0 ∧ ((Machine.perform stray).run on).state.Valid 0 ∧
      usual.machine.Valid 0 ∧ ((Emulator.perform below).run usual).state.machine.Valid 0 ∧
      Emulator.start {} none none (.still 0) .empty = (.ok usual, #[]) ∧
      used.registers.i = 65535 ∧ used.Valid 1 := by
  intro stray below on usual history used
  have fresh : on.Valid 0 := Machine.valid_initial _
  have made : usual.machine.Valid 0 := Chip8.Machine.valid_raw (Nat.zero_le _)
  have started : Emulator.start {} none none (.still 0) .empty = (.ok usual, #[]) := by
    rw [Chip8.Emulator.start_raw, Chip8.Emulator.start_usual]
    rfl
  have completed : Session.tally (fun op => (Emulator.perform op).run) Emulator.completed history
      usual 0 = 1 := by decide +kernel
  have valid := states_stay_valid.2.2.2.1 {} none none (.still 0) .empty usual #[] history started
  rw [completed] at valid
  exact ⟨fresh, states_stay_valid.1 on 0 stray fresh, made,
    states_stay_valid.2.2.1 usual 0 below made, started, by decide +kernel, valid⟩

end Raw
end Chip8
