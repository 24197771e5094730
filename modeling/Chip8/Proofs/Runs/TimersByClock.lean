import Chip8.Proofs.Emulator.Reset
import Chip8.Proofs.Machine.Countdown

namespace Chip8

open Event (expiry filter_expiry)

namespace Machine

variable {kept : Prop} {timer : Timer} {m : Machine}

theorem ticks_min_maxTicks (m : Machine) (n : Nat) :
    m.ticks (min n Emulator.maxTicks) = m.ticks n := by
  obtain ⟨timers, few⟩ := m.ticks_eq (min n Emulator.maxTicks)
  obtain ⟨timers', all⟩ := m.ticks_eq n
  -- A timer is a byte, so it has run out after as many ticks as the bound allows.
  have bound (timer : Timer) : (m.timers.counter timer).toNat ≤ Emulator.maxTicks :=
    Nat.le_of_lt_succ (m.timers.counter timer).toNat_lt
  have same : timers = timers' := by
    apply Timers.ext_counter
    intro timer
    have small := m.counter_ticks timer (min n Emulator.maxTicks)
    have large := m.counter_ticks timer n
    have bound := bound timer
    rw [few] at small
    rw [all] at large
    rw [small, large]
    omega
  have signals : (m.ticks (min n Emulator.maxTicks)).2 = (m.ticks n).2 := by
    have bound : m.timers.sound.toNat ≤ Emulator.maxTicks := bound .sound
    rw [events_ticks, events_ticks]
    by_cases ends : 1 ≤ m.timers.sound.toNat ∧ m.timers.sound.toNat ≤ n
    · rw [if_pos (by omega), if_pos ends]
    · rw [if_neg (by omega), if_neg ends]
  refine Prod.ext ?_ signals
  rw [few, all, same]

theorem elapsed_ticks (mode : m.tickPerCycle = false) (n : Nat) :
    Elapsed kept timer m n (m.ticks n).2 (m.ticks n).1 := by
  have unticked : m.tickPerCycle ≠ true := by simp [mode]
  obtain ⟨timers, all⟩ := m.ticks_eq n
  refine ⟨?_, fun on => absurd on unticked, fun _ => ?_, m.counter_ticks timer n, fun _ => ?_⟩
  · rw [all]
  · rw [all]
  · refine ⟨m.listening, m.cycles, ?_, fun _ => rfl, fun on => absurd on unticked⟩
    rw [events_ticks]
    split
    · exact filter_expiry _ _
    · rfl

theorem Operation.ticks_of_unticked (mode : m.tickPerCycle = false) (op : Operation) :
    op.ticks m = 0 := by
  cases op <;> simp [ticks, cycleTicks, mode]

end Machine

namespace Emulator

open Machine (Elapsed)

variable {kept : Prop} {timer : Timer} {emulator : Emulator}

/-- The periods that are credited when the clock is read next. -/
def periods (emulator : Emulator) : Nat :=
  (emulator.pace.credit emulator.clock.read.1).1.toOption.getD 0

theorem keepPace_ticks (emulator : Emulator) :
    emulator.keepPace.state.machine = (emulator.machine.ticks emulator.periods).1 ∧
      emulator.keepPace.events = (emulator.machine.ticks emulator.periods).2 := by
  rw [keepPace_eq_catchUp, catchUp, periods]
  dsimp only
  cases (emulator.pace.credit emulator.clock.read.1).1 with
  | error e => exact ⟨rfl, rfl⟩
  | ok periods =>
    rw [← emulator.machine.ticks_min_maxTicks]
    exact ⟨rfl, rfl⟩

def credits (emulator : Emulator) : Nat :=
  if emulator.config.timerMode = .fixedRate ∧ emulator.machine.cycle.answer = .ok ()
  then emulator.periods else 0

theorem credits_of_uncredited (h : emulator.pace.credited = none) : emulator.credits = 0 := by
  unfold credits periods Pace.credit
  rw [h]
  exact ite_self 0

theorem elapsed_cycle (mode : emulator.machine.tickPerCycle = false)
    (quiet : ∀ x, emulator.machine.executed? ≠ some (timer.setter x)) :
    Elapsed kept timer emulator.machine emulator.credits emulator.cycle.events
      emulator.cycle.state.machine := by
  have unticked : emulator.machine.cycleTicks = 0 := Machine.Operation.cycle.ticks_of_unticked mode
  have first : Elapsed kept timer emulator.machine emulator.machine.cycleTicks
      emulator.machine.cycle.events emulator.machine.cycle.state := Machine.elapsed_cycle quiet
  rw [unticked] at first
  cases answer : emulator.machine.cycle.answer with
  | error e =>
    have none : emulator.credits = 0 := by simp [credits, answer]
    rw [none, cycle_of_machine_error answer]
    exact first
  | ok =>
    cases timing : emulator.config.timerMode with
    | perCycle =>
      have none : emulator.credits = 0 := by simp [credits, timing]
      rw [none, cycle_of_perCycle answer timing]
      exact first.trans (.refl kept timer _)
    | fixedRate =>
      have all : emulator.credits = emulator.periods := if_pos ⟨timing, answer⟩
      -- The clock ticks the machine that the cycle has left, so the periods come last.
      let paced : Emulator := { emulator with machine := emulator.machine.cycle.state }
      have unticked : paced.machine.tickPerCycle = false := first.mode.trans mode
      have made : Elapsed kept timer paced.machine paced.periods paced.keepPace.events
          paced.keepPace.state.machine := by
        rw [paced.keepPace_ticks.1, paced.keepPace_ticks.2]
        exact Machine.elapsed_ticks unticked _
      have whole := first.trans made
      rw [Nat.zero_add] at whole
      rw [all, cycle_of_fixedRate answer timing]
      exact whole

theorem signals_loadRomFile (emulator : Emulator) (files : Files Id) (path : Path) :
    (emulator.loadRomFile files path).events.filter Event.isSignal = #[] := by
  unfold loadRomFile loadRomRead
  split
  · rfl
  · rename_i rom _
    have quiet : (emulator.loadRom rom).events.filter Event.isSignal = #[] := by
      unfold loadRom onMachine Outcome.within Machine.loadRom
      split <;> rfl
    show (emulator.loadRomFrom path rom).events.filter Event.isSignal = #[]
    unfold loadRomFrom Outcome.andThen
    split
    · show ((emulator.loadRom rom).events ++ #[Event.romLoaded _]).filter Event.isSignal = #[]
      rw [Array.filter_append Array.size_append, quiet]
      rfl
    · exact quiet

namespace Operation

def Disturbs (timer : Timer) (op : Operation) (emulator : Emulator) : Prop :=
  match op with
  | machine op => op.Disturbs timer emulator.machine
  | cycle => ∃ x, emulator.machine.executed? = some (timer.setter x)
  | run count => ∃ k < count.toNat, (emulator.run k).answer = .ok () ∧
      ∃ x, (emulator.run k).state.machine.executed? = some (timer.setter x)
  | reset _ => True
  | loadRomFile _ _ | setClock _ => False

instance (timer : Timer) (op : Operation) (emulator : Emulator) :
    Decidable (op.Disturbs timer emulator) := by
  unfold Disturbs
  split <;> infer_instance

def changesListener : Operation → Bool
  | machine op => op.changesListener
  | _ => false

def credits (op : Operation) (emulator : Emulator) : Nat :=
  match op with
  | cycle => emulator.credits
  | run count => emulator.runTotal Emulator.credits count
  | _ => 0

theorem elapsed_run (mode : emulator.machine.tickPerCycle = false) {count : Int}
    (quiet : ¬ (run count).Disturbs timer emulator) :
    Elapsed kept timer emulator.machine ((run count).credits emulator)
      (emulator.run count).events (emulator.run count).state.machine := by
  let spares (e : Emulator) : Prop := ∀ x, e.machine.executed? ≠ some (timer.setter x)
  have spared (k : Nat) (below : k < count.toNat) (through : (emulator.run k).answer = .ok ()) :
      spares (emulator.run k).state :=
    fun x sets => quiet ⟨k, below, through, x, sets⟩
  refine runTotal_induction
    (R := fun e n events => Elapsed kept timer emulator.machine n events e.machine)
    (.refl kept timer _) ?_ spared
  intro e n events spares elapsed
  exact elapsed.trans (elapsed_cycle (elapsed.mode.trans mode) spares)

theorem elapsed_perform {op : Operation} (mode : emulator.machine.tickPerCycle = false)
    (quiet : ¬ op.Disturbs timer emulator) (keeps : kept → op.changesListener = false) :
    Elapsed kept timer emulator.machine (op.credits emulator) (op.perform emulator).events
      (op.perform emulator).state.machine := by
  cases op with
  | machine op =>
    have elapsed := Machine.Operation.elapsed_perform quiet keeps
    rwa [op.ticks_of_unticked mode] at elapsed
  | cycle => exact elapsed_cycle mode (not_exists.1 quiet)
  | run count => exact elapsed_run mode quiet
  | loadRomFile files path =>
    obtain ⟨memory, eq⟩ := emulator.state_loadRomFile files path
    show Elapsed kept timer emulator.machine 0 (emulator.loadRomFile files path).events
      (emulator.loadRomFile files path).state.machine
    rw [eq]
    exact .of_same rfl rfl (fun _ => rfl) (fun _ => rfl) (emulator.signals_loadRomFile files path)
  | reset => exact absurd trivial quiet
  | setClock => exact .refl kept timer _

end Operation

abbrev Undisturbed (timer : Timer) (ops : List Operation) (emulator : Emulator) : Prop :=
  Session.Throughout Operation.perform (fun op e => ¬ op.Disturbs timer e) ops emulator

def creditsIn (ops : List Operation) (emulator : Emulator) : Nat :=
  Session.tally Operation.perform (fun op e n => n + op.credits e) ops emulator 0

theorem elapsed_session {ops : List Operation} (mode : emulator.machine.tickPerCycle = false)
    (quiet : Undisturbed timer ops emulator)
    (keeps : kept → ∀ op ∈ ops, op.changesListener = false) :
    Elapsed kept timer emulator.machine (creditsIn ops emulator)
      (Session.journal Operation.perform ops emulator)
      (Session.final Operation.perform ops emulator).machine := by
  have elapsed : Elapsed kept timer emulator.machine (creditsIn ops emulator)
      (#[] ++ Session.journal Operation.perform ops emulator)
      (Session.final Operation.perform ops emulator).machine := by
    -- What has elapsed is the sum of the periods credited so far.
    refine Session.journal_induction
      (R := fun after n events => Elapsed kept timer emulator.machine n events after.machine)
      (.refl kept timer emulator.machine) quiet ?_
    intro op member s n events undisturbed elapsed
    exact elapsed.trans (Operation.elapsed_perform (elapsed.mode.trans mode) undisturbed
      fun same => keeps same op member)
  rwa [Array.empty_append] at elapsed

end Emulator

open Emulator in
/-- Ticking no more than 255 times at once does what ticking for every period does. -/
theorem catch_up_makes_up_for_every_period :
    (∀ (m : Machine) (n : Nat), m.ticks (min n maxTicks) = m.ticks n ∧
      (∀ timer, ((m.ticks n).1.timers.counter timer).toNat =
        (m.timers.counter timer).toNat - n) ∧
      (m.ticks n).2 = if 1 ≤ m.timers.sound.toNat ∧ m.timers.sound.toNat ≤ n
        then expiry m.listening m.cycles else #[]) ∧
    (∀ emulator : Emulator,
      emulator.keepPace.state.machine = (emulator.machine.ticks emulator.periods).1 ∧
      emulator.keepPace.events = (emulator.machine.ticks emulator.periods).2) ∧
    (∀ (timer : Timer) (emulator : Emulator) (ops : List Emulator.Operation),
      emulator.machine.tickPerCycle = false → Undisturbed timer ops emulator →
      let total := creditsIn ops emulator
      let after := (Session.final Operation.perform ops emulator).machine
      let events := Session.journal Operation.perform ops emulator
      let sound := emulator.machine.timers.sound.toNat
      (after.timers.counter timer).toNat = (emulator.machine.timers.counter timer).toNat - total ∧
      (timer = .sound →
        events.count .soundExpired = (if 1 ≤ sound ∧ sound ≤ total then 1 else 0) ∧
        (emulator.machine.listening = true → (∀ op ∈ ops, op.changesListener = false) →
          (Event.beeps events).length = if 1 ≤ sound ∧ sound ≤ total then 1 else 0))) ∧
    (∀ (emulator : Emulator) (ops : List Emulator.Operation),
      ((∃ used clearMemory, emulator = Emulator.reset used clearMemory) ∨
        ∃ config random keySource clock files events,
          Emulator.start config random keySource clock files = (.ok emulator, events)) →
      (∀ op ∈ ops, op.paces = false) →
      (Session.final Operation.perform ops emulator).credits = 0) ∧
    (∀ (config : Config) (random : Option RandomSource) (keySource : Option KeySource)
        (clock : Clock) (files : Files Id) (emulator : Emulator) (events : Array Event),
      Emulator.start config random keySource clock files = (.ok emulator, events) →
      config.timerMode = .fixedRate → emulator.machine.tickPerCycle = false) := by
  refine ⟨?_, keepPace_ticks, ?_, ?_, ?_⟩
  · intro m n
    exact ⟨m.ticks_min_maxTicks n, fun timer => m.counter_ticks timer n, m.events_ticks n⟩
  · intro timer emulator ops mode quiet total after events sound
    let kept := ∀ op ∈ ops, op.changesListener = false
    have elapsed : Machine.Elapsed kept timer emulator.machine total events after :=
      elapsed_session mode quiet fun same => same
    refine ⟨elapsed.counter, ?_⟩
    rintro rfl
    refine ⟨elapsed.count_expired, ?_⟩
    intro listening same
    obtain ⟨moment, beeps, -⟩ := elapsed.beeps_of_listening same listening
    rw [beeps]
    split <;> rfl
  · intro emulator ops new quiet
    apply credits_of_uncredited
    apply uncredited_final _ quiet
    rcases new with ⟨used, clearMemory, rfl⟩ | ⟨_, _, _, _, _, _, started⟩
    · rfl
    · exact (inStep_of_start started).2.2
  · intro config random keySource clock files emulator events started mode
    obtain ⟨memory, pace, -, -, rfl⟩ := eq_of_start started
    show (config.timerMode == .perCycle) = false
    rw [mode]
    rfl

theorem catch_up_makes_up_for_every_period_stall :
    let program := Machine.loaded [0x12, 0x00]
    let machine : Machine :=
      { program with timers := ⟨200, 255⟩, listening := true, tickPerCycle := false }
    let used : Emulator :=
      ⟨{ timerMode := .fixedRate }, machine, ⟨fun k => Float.ofNat (1000 * k), 0⟩, ⟨1, none⟩⟩
    let ops : List Emulator.Operation := [.cycle, .machine (.keypad (.press 3)), .run 2]
    let after := (Session.final Emulator.Operation.perform ops used).machine
    let events := Session.journal Emulator.Operation.perform ops used
    Emulator.creditsIn ops used = 2000 ∧ after.timers.delay.toNat = 200 - 2000 ∧
      after.timers.sound.toNat = 255 - 2000 ∧ events.count .soundExpired = 1 ∧
      (Event.beeps events).length = 1 ∧ (used.reset true).credits = 0 ∧
      ∃ fresh, Emulator.start used.config none none used.clock .empty = (.ok fresh, #[]) ∧
        fresh.machine.tickPerCycle = false := by
  intro program machine used ops after events
  obtain ⟨-, -, undisturbed, first, unticked⟩ := catch_up_makes_up_for_every_period
  have total : Emulator.creditsIn ops used = 2000 := by decide +kernel
  have delay := (undisturbed .delay used ops rfl (by decide +kernel)).1
  obtain ⟨sound, signals⟩ := undisturbed .sound used ops rfl (by decide +kernel)
  obtain ⟨expired, beeps⟩ := signals rfl
  have heard := beeps rfl (by simp [ops, Emulator.Operation.changesListener,
    Machine.Operation.changesListener])
  rw [total] at delay sound expired heard
  have reset := first (used.reset true) [] (Or.inl ⟨used, true, rfl⟩) (by simp)
  have rate : Pace.ofRate used.config.timerHz = _ := Pace.ofRate_sixty
  have started := Emulator.start_of_ofRate rate rfl none none used.clock .empty
  exact ⟨total, delay, sound, expired, heard, reset, _, started, unticked _ _ _ _ _ _ _ started rfl⟩

end Chip8
