import Chip8.Proofs.Emulator.Start
import Chip8.Proofs.Machine.Countdown

namespace Chip8

namespace Machine

variable {kept : Prop} {timer : Timer} {m m' : Machine} {n : Nat} {events : Array Event}
  {ops : List Operation}

abbrev Undisturbed (timer : Timer) (ops : List Operation) (m : Machine) : Prop :=
  Session.Throughout Operation.perform (fun op m => ¬ op.Disturbs timer m) ops m

def cyclesAfter (ops : List Operation) (m : Machine) (n : Nat) : Nat :=
  Session.tally Operation.perform Operation.completed ops m n

theorem elapsed_session (mode : m.tickPerCycle = true) (start : Elapsed kept timer m n events m')
    (quiet : Undisturbed timer ops m')
    (keeps : kept → ∀ op ∈ ops, op.changesListener = false) :
    Elapsed kept timer m (cyclesAfter ops m' n) (events ++ Session.journal Operation.perform ops m')
      (Session.final Operation.perform ops m') := by
  -- The ticks so far are the cycles so far, as the mode stays what it is.
  apply Session.journal_induction
    (R := fun after n events => Elapsed kept timer m n events after) start quiet
  intro op member s n events undisturbed elapsed
  rw [Operation.completed_eq undisturbed (elapsed.mode.trans mode)]
  exact elapsed.trans (Operation.elapsed_perform undisturbed fun same => keeps same op member)

theorem value_of_readDelay {x : Register} (h : m.executed? = some (.readDelay x)) :
    m.cycle.state.registers.value x = m.timers.delay := by
  obtain ⟨word, next, -, cycle⟩ := cycle_of_executed h
  rw [cycle]
  show (Machine.complete _ next).state.registers.value x = _
  rw [(complete_eq _ next).2]
  show (m.registers.assign x m.timers.delay).value x = _
  rw [Registers.value_assign, if_pos rfl]

def beepsIn (ops : List Operation) (m : Machine) : List Nat :=
  Event.beeps (Session.journal Operation.perform ops m)

end Machine

open Machine in
/-- A timer that nobody sets is what it was less the number of cycles completed since. -/
theorem timers_count_completed_cycles :
    (∀ (timer : Timer) (m : Machine) (ops : List Machine.Operation), m.tickPerCycle = true →
      Undisturbed timer ops m →
      let n := cyclesAfter ops m 0
      let after := Session.final Operation.perform ops m
      (after.timers.counter timer).toNat = (m.timers.counter timer).toNat - n ∧
      (timer = .sound → m.listening = true → (∀ op ∈ ops, op.changesListener = false) →
        beepsIn ops m = if 1 ≤ m.timers.sound.toNat ∧ m.timers.sound.toNat ≤ n
          then [m.cycles + m.timers.sound.toNat] else []) ∧
      (timer = .delay → ∀ word x, after.Completes word → (Instruction.readDelay x).Fits word →
        (after.cycle.state.registers.value x).toNat = m.timers.delay.toNat - n)) ∧
    (∀ (timer : Timer) (m : Machine) (ops : List Machine.Operation) (word : UInt16) (x : Register),
      m.tickPerCycle = true → m.Completes word → (timer.setter x).Fits word →
      Undisturbed timer ops m.cycle.state →
      let value := (m.registers.value x).toNat
      let n := cyclesAfter ops m.cycle.state 1
      let after := Session.final Operation.perform (.cycle :: ops) m
      (after.timers.counter timer).toNat = value - n ∧
      (timer = .sound → m.listening = true → (∀ op ∈ ops, op.changesListener = false) →
        beepsIn (.cycle :: ops) m = if 1 ≤ value ∧ value ≤ n then [m.cycles + value] else [])) ∧
    (∀ (m : Machine) (e : Error), m.cycle.answer = .error e →
      m.cycle.state.timers = m.timers ∧ m.cycle.beeps = []) ∧
    (∀ emulator : Emulator, emulator.config.timerMode = .perCycle →
      emulator.cycle.answer = emulator.machine.cycle.answer ∧
      emulator.cycle.state.machine = emulator.machine.cycle.state ∧
      emulator.cycle.beeps = emulator.machine.cycle.beeps) := by
  refine ⟨?_, ?_, ?_, ?_⟩
  · intro timer m ops mode quiet n after
    let kept := ∀ op ∈ ops, op.changesListener = false
    have elapsed : Elapsed kept timer m n (#[] ++ Session.journal Operation.perform ops m) after :=
      elapsed_session mode (.refl kept timer m) quiet fun same => same
    rw [Array.empty_append] at elapsed
    refine ⟨elapsed.counter, ?_, ?_⟩
    · rintro rfl listening same
      obtain ⟨moment, beeps, count⟩ := elapsed.beeps_of_listening same listening
      rw [beepsIn, beeps, count mode]
    · rintro rfl word x completes fits
      rw [value_of_readDelay (executed?_of_fits completes fits)]
      exact elapsed.counter
  · intro timer m ops word x mode completes fits quiet value n after
    let kept := ∀ op ∈ ops, op.changesListener = false
    let set : Machine := { m with timers := m.timers.put (m.registers.value x) timer }
    have executed := executed?_of_fits completes fits
    have first : Elapsed kept timer set m.cycleTicks m.cycle.events m.cycle.state :=
      elapsed_cycle_of_setter executed
    rw [cycleTicks_of_executed executed, if_pos mode] at first
    have elapsed : Elapsed kept timer set n
        (m.cycle.events ++ Session.journal Operation.perform ops m.cycle.state) after :=
      elapsed_session mode first quiet fun same => same
    refine ⟨?_, ?_⟩
    · rw [elapsed.counter, Timers.counter_put]
    · rintro rfl listening same
      obtain ⟨moment, beeps, count⟩ := elapsed.beeps_of_listening same listening
      rw [count mode] at beeps
      exact beeps
  · intro m e stopped
    obtain ⟨state, quiet⟩ := cycle_state_of_error stopped
    rw [state]
    exact ⟨rfl, quiet⟩
  · intro emulator mode
    cases answer : emulator.machine.cycle.answer with
    | error e =>
      rw [Emulator.cycle_of_machine_error answer]
      exact ⟨rfl, rfl, rfl⟩
    | ok =>
      rw [Emulator.cycle_of_perCycle answer mode]
      refine ⟨rfl, rfl, ?_⟩
      rw [Outcome.beeps_after]
      exact List.append_nil _

theorem timers_count_completed_cycles_waiting :
    let program := Machine.loaded [0x60, 0x03, 0xF0, 0x18, 0xF1, 0x07, 0xF2, 0x0A]
    let m : Machine := { program with timers := ⟨9, 2⟩, listening := true }
    let two : List Machine.Operation := [.cycle, .keypad (.release 3), .cycle]
    let setting := m.cycle.state
    let reading := setting.cycle.state
    let waiting := Session.final Machine.Operation.perform (.cycle :: two) setting
    let stuck := Machine.loaded [0x00, 0xEE]
    reading.Completes 0xF107 ∧ (reading.cycle.state.registers.value 1).toNat = 9 - 2 ∧
      setting.Completes 0xF018 ∧ waiting.timers.sound.toNat = 3 - 3 ∧
      Machine.beepsIn (.cycle :: two) setting = [1 + 3] ∧
      stuck.cycle.answer ≠ .ok () ∧ stuck.cycle.state.timers = stuck.timers ∧
      Emulator.usual.cycle.state.machine = Emulator.usual.machine.cycle.state := by
  intro program m two setting reading waiting stuck
  obtain ⟨counts, sets, stopped, emulated⟩ := timers_count_completed_cycles
  have read : reading.Completes 0xF107 := by decide +kernel
  have set : setting.Completes 0xF018 := by decide +kernel
  have delay := (counts .delay m [.cycle, .cycle] rfl (by decide +kernel)).2.2 rfl _ 1 read
    ⟨rfl, rfl, rfl⟩
  obtain ⟨sound, beeps⟩ := sets .sound setting two _ 0 (by decide +kernel) set ⟨rfl, rfl, rfl⟩
    (by decide +kernel)
  have heard := beeps rfl (by decide +kernel) (by simp [two, Machine.Operation.changesListener])
  have before : Machine.cyclesAfter [.cycle, .cycle] m 0 = 2 := by decide +kernel
  have three : Machine.cyclesAfter two setting.cycle.state 1 = 3 := by decide +kernel
  have value : (setting.registers.value 0).toNat = 3 := by decide +kernel
  have cycles : setting.cycles = 1 := by decide +kernel
  rw [before] at delay
  rw [three, value, cycles, if_pos (by omega)] at heard
  rw [three, value] at sound
  have error : stuck.cycle.answer =
      .error (.fault (Fault.returnFromEmpty.locate (some 0x200) (some 0x00EE))) := by
    decide +kernel
  refine ⟨read, delay, set, sound, heard, ?_, (stopped stuck _ error).1, (emulated .usual rfl).2.1⟩
  rw [error]
  exact nofun

end Chip8
