import Chip8.Proofs.Emulator.Start
import Chip8.Proofs.Machine.Reset

namespace Chip8

namespace Emulator

variable {emulator : Emulator}

/-! ## What no operation reads -/

def relabel (seed : Int) (romPath : Option String) (emulator : Emulator) : Emulator :=
  { emulator with config := { emulator.config with seed, romPath } }

def seen (emulator : Emulator) : Machine × Clock × Pace × TimerMode × Int :=
  (emulator.machine, emulator.clock, emulator.pace, emulator.config.timerMode,
    emulator.config.timerHz)

section Relabel

variable (seed : Int) (romPath : Option String)

theorem keepPace_relabel (emulator : Emulator) :
    (emulator.relabel seed romPath).keepPace =
      emulator.keepPace.within (relabel seed romPath) := by
  rw [keepPace_eq_catchUp, keepPace_eq_catchUp, catchUp, catchUp]
  dsimp only [relabel]
  cases (emulator.pace.credit emulator.clock.read.1).1 <;> rfl

theorem cycle_relabel (emulator : Emulator) :
    (emulator.relabel seed romPath).cycle = emulator.cycle.within (relabel seed romPath) := by
  cases answer : emulator.machine.cycle.answer with
  | error e =>
    have same : (emulator.relabel seed romPath).machine.cycle.answer = .error e := answer
    rw [cycle_of_machine_error answer, cycle_of_machine_error same]
    rfl
  | ok =>
    have same : (emulator.relabel seed romPath).machine.cycle.answer = .ok () := answer
    cases mode : emulator.config.timerMode with
    | perCycle =>
      rw [cycle_of_perCycle answer mode, cycle_of_perCycle same mode]
      rfl
    | fixedRate =>
      rw [cycle_of_fixedRate answer mode, cycle_of_fixedRate same mode]
      have paced := keepPace_relabel seed romPath
        { emulator with machine := emulator.machine.cycle.state }
      exact congrArg (Outcome.after _) paced

theorem run_relabel (emulator : Emulator) (count : Int) :
    (emulator.relabel seed romPath).run count =
      (emulator.run count).within (relabel seed romPath) := by
  rw [run_eq, run_eq]
  split
  · rfl
  · exact Outcome.iterate_within (o := .done emulator () #[]) (cycle_relabel seed romPath) _

theorem loadRomFile_relabel (emulator : Emulator) (files : Files Id) (path : Path) :
    (emulator.relabel seed romPath).loadRomFile files path =
      (emulator.loadRomFile files path).within (relabel seed romPath) := by
  unfold loadRomFile loadRomRead
  split
  · rfl
  · unfold loadRomFrom loadRom onMachine Outcome.andThen Outcome.within
    dsimp only [relabel]
    split <;> rfl

theorem perform_relabel (op : Operation) (emulator : Emulator) :
    op.perform (emulator.relabel seed romPath) =
      (op.perform emulator).within (relabel seed romPath) := by
  cases op with
  | cycle => exact congrArg (Outcome.saying · _) (cycle_relabel seed romPath emulator)
  | run count => exact congrArg (Outcome.saying · _) (run_relabel seed romPath emulator count)
  | loadRomFile files path =>
    exact congrArg (Outcome.saying · _) (loadRomFile_relabel seed romPath emulator files path)
  | _ => rfl

end Relabel

/-! ## What every operation keeps -/

theorem origin_cycle (emulator : Emulator) :
    emulator.cycle.state.machine.random.origin = emulator.machine.random.origin := by
  obtain ⟨timers, eq⟩ := emulator.machine_cycle_eq
  rw [eq]
  exact emulator.machine.origin_cycle

namespace Operation

def reseeds? : Operation → Option Int
  | machine op => op.reseeds?
  | _ => none

theorem keeps_random : RandomSource.Keeps perform (·.machine.random) reseeds? := by
  intro op emulator h
  cases op with
  | machine op => exact Machine.Operation.keeps_random op emulator.machine h
  | cycle => exact emulator.origin_cycle
  | run count =>
    apply run_induction (fun e => e.machine.random.origin = emulator.machine.random.origin) rfl
    intro e same
    exact e.origin_cycle.trans same
  | loadRomFile files path =>
    obtain ⟨memory, eq⟩ := emulator.state_loadRomFile files path
    exact congrArg (fun e => e.machine.random.origin) eq
  | reset => exact emulator.machine.random.origin_rewind
  | setClock => rfl

def paces : Operation → Bool
  | cycle | run _ => true
  | _ => false

theorem uncredited_perform {op : Operation} (h : op.paces = false)
    (none : emulator.pace.credited = none) : (op.perform emulator).state.pace.credited = .none := by
  cases op with
  | cycle => cases h
  | run => cases h
  | loadRomFile files path =>
    obtain ⟨memory, eq⟩ := emulator.state_loadRomFile files path
    exact (congrArg (fun e => e.pace.credited) eq).trans none
  | reset => rfl
  | _ => exact none

end Operation

theorem cycle_of_uncredited (h : emulator.pace.credited = none) :
    emulator.cycle.answer = emulator.machine.cycle.answer ∧
      emulator.cycle.state.machine = emulator.machine.cycle.state ∧
      emulator.cycle.events = emulator.machine.cycle.events := by
  cases answer : emulator.machine.cycle.answer with
  | error e =>
    rw [cycle_of_machine_error answer]
    exact ⟨rfl, rfl, rfl⟩
  | ok =>
    cases mode : emulator.config.timerMode with
    | perCycle =>
      rw [cycle_of_perCycle answer mode]
      exact ⟨rfl, rfl, Array.append_empty⟩
    | fixedRate =>
      have paced := keepPace_of_uncredited
        { emulator with machine := emulator.machine.cycle.state } h
      rw [cycle_of_fixedRate answer mode, paced]
      exact ⟨rfl, rfl, Array.append_empty⟩

/-! ## Sessions before and after a reset -/

def adopt (fresh used : Emulator) (clearMemory : Bool) : Emulator :=
  { fresh with machine := fresh.machine.adopt used.machine clearMemory }

def InStep (emulator : Emulator) : Prop :=
  Pace.ofRate emulator.config.timerHz = .ok ⟨emulator.pace.period, none⟩

theorem inStep_of_start {config : Config} {random : Option RandomSource}
    {keySource : Option KeySource} {clock : Clock} {files : Files Id} {events : Array Event}
    (h : start config random keySource clock files = (.ok emulator, events)) :
    emulator.InStep ∧ emulator.config = config ∧ emulator.pace.credited = none := by
  obtain ⟨memory, pace, rate, -, rfl⟩ := eq_of_start h
  have uncredited := Pace.credited_of_ofRate rate
  obtain ⟨period, credited⟩ := pace
  cases uncredited
  exact ⟨rate, rfl, rfl⟩

theorem fixture_final (history : List Operation) (emulator : Emulator) :
    (Session.final Operation.perform history emulator).fixture = emulator.fixture := by
  apply Session.final_induction (fun e : Emulator => e.fixture = emulator.fixture) rfl
  intro op _ e same
  exact (fixture_perform op e).trans same

theorem inStep_final {config : Config} {random : Option RandomSource}
    {keySource : Option KeySource} {clock : Clock} {files : Files Id} {events : Array Event}
    (h : start config random keySource clock files = (.ok emulator, events))
    (history : List Operation) :
    (Session.final Operation.perform history emulator).InStep ∧
      (Session.final Operation.perform history emulator).config = config := by
  obtain ⟨inStep, rfl, -⟩ := inStep_of_start h
  have same := fixture_final history emulator
  obtain ⟨configs, periods⟩ := Prod.mk.inj same
  unfold InStep
  rw [configs, periods]
  exact ⟨inStep, rfl⟩

theorem uncredited_final {ops : List Operation} (none : emulator.pace.credited = none)
    (quiet : ∀ op ∈ ops, op.paces = false) :
    (Session.final Operation.perform ops emulator).pace.credited = .none := by
  apply Session.final_induction (fun e : Emulator => e.pace.credited = .none) none
  intro op member e
  exact Operation.uncredited_perform (quiet op member)

theorem transcript_relabel (seed : Int) (romPath : Option String) (later : List Operation)
    (emulator : Emulator) :
    Session.transcript Operation.perform seen later (emulator.relabel seed romPath) =
      Session.transcript Operation.perform seen later emulator := by
  have hidden (e : Emulator) : (e.relabel seed romPath).seen = e.seen := rfl
  exact Session.transcript_within hidden (perform_relabel seed romPath) later

theorem exists_start_of_inStep {used : Emulator} (h : used.InStep) {seed : Int}
    {random : Option RandomSource}
    (source : random.getD (.ofSeed seed) = used.machine.random.rewind) (files : Files Id) :
    ∃ fresh, start { used.config with seed, romPath := none } random used.machine.keySource
        used.clock files = (.ok fresh, #[]) ∧
      ∀ (clearMemory : Bool), (used.reset clearMemory).seen = (fresh.adopt used clearMemory).seen ∧
        ∀ later, Session.transcript Operation.perform seen later (used.reset clearMemory) =
          Session.transcript Operation.perform seen later (fresh.adopt used clearMemory) := by
  have rate : Pace.ofRate { used.config with seed, romPath := none }.timerHz = _ := h
  refine ⟨_, start_of_ofRate rate rfl random _ _ _, ?_⟩
  intro clearMemory
  rw [source]
  refine ⟨rfl, ?_⟩
  intro later
  -- What is left to differ are a seed and a path, and nobody reads them again.
  exact (transcript_relabel seed none later (used.reset clearMemory)).symm

end Emulator

open RandomSource in
/-- A reset machine and a new one with the same devices go on alike. -/
theorem reset_starts_over :
    (∀ (m : Machine) (seed : Int) (generator : Twister) (history later : List Machine.Operation)
        (clearMemory : Bool), m.random = .seeded seed generator →
      (∀ op ∈ history, ∀ other, op.reseeds? = some other → other = seed) →
      let used := Session.final Machine.Operation.perform history m
      let fresh := (Machine.initial (.ofSeed seed)).adopt used clearMemory
      used.reset clearMemory = fresh ∧
      Session.transcript Machine.Operation.perform id later (used.reset clearMemory) =
        Session.transcript Machine.Operation.perform id later fresh) ∧
    (∀ (m : Machine) (bytes : Nat → UInt8) (position : Nat) (history later : List Machine.Operation)
        (clearMemory : Bool), m.random = .stream bytes position →
      let used := Session.final Machine.Operation.perform history m
      ∃ taken, used.random = .stream bytes taken ∧
        let fresh := (Machine.initial (.stream bytes taken)).adopt used clearMemory
        used.reset clearMemory = fresh ∧
        Session.transcript Machine.Operation.perform id later (used.reset clearMemory) =
          Session.transcript Machine.Operation.perform id later fresh) ∧
    (∀ (config : Config) (random : Option RandomSource) (keySource : Option KeySource)
        (clock : Clock) (files : Files Id) (emulator : Emulator) (events : Array Event)
        (seed : Int) (generator : Twister) (history later : List Emulator.Operation)
        (clearMemory : Bool),
      Emulator.start config random keySource clock files = (.ok emulator, events) →
      emulator.machine.random = .seeded seed generator →
      (∀ op ∈ history, ∀ other, op.reseeds? = some other → other = seed) →
      let used := Session.final Emulator.Operation.perform history emulator
      ∃ fresh, Emulator.start { config with seed, romPath := none } none used.machine.keySource
          used.clock files = (.ok fresh, #[]) ∧
        (used.reset clearMemory).seen = (fresh.adopt used clearMemory).seen ∧
        Session.transcript Emulator.Operation.perform Emulator.seen later
            (used.reset clearMemory) =
          Session.transcript Emulator.Operation.perform Emulator.seen later
            (fresh.adopt used clearMemory)) ∧
    (∀ (config : Config) (random : Option RandomSource) (keySource : Option KeySource)
        (clock : Clock) (files : Files Id) (emulator : Emulator) (events : Array Event)
        (bytes : Nat → UInt8) (position : Nat) (history later : List Emulator.Operation)
        (clearMemory : Bool),
      Emulator.start config random keySource clock files = (.ok emulator, events) →
      emulator.machine.random = .stream bytes position →
      let used := Session.final Emulator.Operation.perform history emulator
      ∃ taken fresh, used.machine.random = .stream bytes taken ∧
        Emulator.start { config with romPath := none } (some (.stream bytes taken))
          used.machine.keySource used.clock files = (.ok fresh, #[]) ∧
        (used.reset clearMemory).seen = (fresh.adopt used clearMemory).seen ∧
        Session.transcript Emulator.Operation.perform Emulator.seen later
            (used.reset clearMemory) =
          Session.transcript Emulator.Operation.perform Emulator.seen later
            (fresh.adopt used clearMemory)) ∧
    (∀ (emulator : Emulator) (ops : List Emulator.Operation),
      ((∃ used clearMemory, emulator = Emulator.reset used clearMemory) ∨
        ∃ config random keySource clock files events,
          Emulator.start config random keySource clock files = (.ok emulator, events)) →
      (∀ op ∈ ops, op.paces = false) →
      let first := Session.final Emulator.Operation.perform ops emulator
      first.cycle.answer = first.machine.cycle.answer ∧
        first.cycle.state.machine = first.machine.cycle.state ∧
        first.cycle.events = first.machine.cycle.events) := by
  refine ⟨?_, ?_, ?_, ?_, ?_⟩
  · intro m seed generator history later clearMemory seeded keeps used fresh
    have source := rewind_final_of_seeded Machine.Operation.keeps_random seeded keeps
    have same : used.reset clearMemory = fresh := by
      rw [Machine.reset_eq_adopt, source]
    exact ⟨same, by rw [same]⟩
  · intro m bytes position history later clearMemory scripted used
    obtain ⟨taken, eq⟩ := final_of_stream Machine.Operation.keeps_random scripted history
    refine ⟨taken, eq, ?_⟩
    intro fresh
    have same : used.reset clearMemory = fresh := by
      rw [Machine.reset_eq_adopt, eq]
      rfl
    exact ⟨same, by rw [same]⟩
  · intro config random keySource clock files emulator events seed generator history later
      clearMemory started seeded keeps used
    obtain ⟨inStep, rfl⟩ := Emulator.inStep_final started history
    have source : Option.getD none (.ofSeed seed) = used.machine.random.rewind :=
      (rewind_final_of_seeded Emulator.Operation.keeps_random seeded keeps).symm
    obtain ⟨fresh, start, alike⟩ := Emulator.exists_start_of_inStep inStep source files
    exact ⟨fresh, start, (alike clearMemory).1, (alike clearMemory).2 later⟩
  · intro config random keySource clock files emulator events bytes position history later
      clearMemory started scripted used
    obtain ⟨inStep, rfl⟩ := Emulator.inStep_final started history
    obtain ⟨taken, eq⟩ := final_of_stream Emulator.Operation.keeps_random scripted history
    have source : Option.getD (some (.stream bytes taken)) (.ofSeed used.config.seed) =
        used.machine.random.rewind := by
      rw [eq]
      rfl
    obtain ⟨fresh, start, alike⟩ := Emulator.exists_start_of_inStep inStep source files
    exact ⟨taken, fresh, eq, start, (alike clearMemory).1, (alike clearMemory).2 later⟩
  · intro emulator ops new quiet first
    apply Emulator.cycle_of_uncredited
    apply Emulator.uncredited_final _ quiet
    rcases new with ⟨used, clearMemory, rfl⟩ | ⟨_, _, _, _, _, _, started⟩
    · rfl
    · exact (Emulator.inStep_of_start started).2.2

theorem reset_starts_over_sixtyHertz :
    let config : Config := { timerMode := .fixedRate }
    let clock : Clock := ⟨fun k => Float.ofNat k, 0⟩
    let bytes : Nat → UInt8 := fun _ => 0
    let steps : List Machine.Operation := [.cycle, .random .next, .random (.reseed 7)]
    let history : List Emulator.Operation := [.run (-1), .machine (.random (.reseed 7)), .cycle]
    ∃ seeded scripted : Emulator,
      Emulator.start config none none clock .empty = (.ok seeded, #[]) ∧
      Emulator.start config (some (.stream bytes 0)) none clock .empty = (.ok scripted, #[]) ∧
      (let used := Session.final Machine.Operation.perform steps (.initial (.ofSeed 7));
        used.reset true = (Machine.initial (.ofSeed 7)).adopt used true) ∧
      (let used := Session.final Machine.Operation.perform steps (.initial (.stream bytes 0))
        ∃ taken, used.random = .stream bytes taken ∧
          used.reset true = (Machine.initial (.stream bytes taken)).adopt used true) ∧
      (let used := Session.final Emulator.Operation.perform history seeded
        ∃ fresh, Emulator.start { config with seed := 7, romPath := none } none
            used.machine.keySource used.clock .empty = (.ok fresh, #[]) ∧
          (used.reset false).seen = (fresh.adopt used false).seen ∧
          Session.transcript Emulator.Operation.perform Emulator.seen history (used.reset false) =
            Session.transcript Emulator.Operation.perform Emulator.seen history
              (fresh.adopt used false)) ∧
      (let used := Session.final Emulator.Operation.perform history scripted
        ∃ taken fresh, used.machine.random = .stream bytes taken ∧
          Emulator.start { config with romPath := none } (some (.stream bytes taken))
            used.machine.keySource used.clock .empty = (.ok fresh, #[]) ∧
          (used.reset false).seen = (fresh.adopt used false).seen ∧
          Session.transcript Emulator.Operation.perform Emulator.seen history (used.reset false) =
            Session.transcript Emulator.Operation.perform Emulator.seen history
              (fresh.adopt used false)) ∧
      (let first := Session.final Emulator.Operation.perform [.machine .tick] (seeded.reset true);
        first.cycle.state.machine = first.machine.cycle.state) := by
  intro config clock bytes steps history
  have machineKeeps : ∀ op ∈ steps, ∀ other, op.reseeds? = some other → other = 7 := by
    simp [steps, Machine.Operation.reseeds?]
  have keeps : ∀ op ∈ history, ∀ other, op.reseeds? = some other → other = 7 := by
    simp [history, Emulator.Operation.reseeds?, Machine.Operation.reseeds?]
  have rate : Pace.ofRate config.timerHz = _ := Pace.ofRate_sixty
  have seeded := Emulator.start_of_ofRate rate rfl none none clock .empty
  have scripted := Emulator.start_of_ofRate rate rfl (some (.stream bytes 0)) none clock .empty
  obtain ⟨onMachine, onScripted, onEmulator, onScriptedEmulator, firstCycle⟩ := reset_starts_over
  refine ⟨_, _, seeded, scripted, ?_, ?_, ?_, ?_, ?_⟩
  · exact (onMachine (.initial (.ofSeed 7)) 7 _ steps [] true rfl machineKeeps).1
  · obtain ⟨taken, eq, same, -⟩ :=
      onScripted (.initial (.stream bytes 0)) bytes 0 steps [] true rfl
    exact ⟨taken, eq, same⟩
  · exact onEmulator _ _ _ _ _ _ _ 7 _ history history false seeded rfl keeps
  · exact onScriptedEmulator _ _ _ _ _ _ _ bytes 0 history history false scripted rfl
  · have quiet : ∀ op ∈ [Emulator.Operation.machine .tick], op.paces = false := by
      simp [Emulator.Operation.paces]
    exact (firstCycle _ _ (Or.inl ⟨_, true, rfl⟩) quiet).2.1

end Chip8
