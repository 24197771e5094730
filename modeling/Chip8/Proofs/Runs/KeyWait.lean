import Chip8.Proofs.Machine.Countdown
import Chip8.Proofs.Machine.KeyWait

namespace Chip8

namespace Machine

variable {m : Machine} {word : UInt16} {x : Register} {k n : Nat}

/-! ## Waiting in vain -/

theorem run_succ (h : (m.run n).answer = .ok ()) :
    m.run (n + 1) = (m.run n).state.cycle.after (m.run n).events :=
  Outcome.iterate_succ_of_ok h

/-- What `n` cycles in vain make of a machine. -/
def waited (m : Machine) (word : UInt16) (n : Nat) : Machine :=
  { m.spend word n with keySource := m.keySource.map fun source => source.after n }

/-- The machine waits for a key, and in the next `n` cycles there will be none. -/
structure Waits (m : Machine) (word : UInt16) (x : Register) (n : Nat) : Prop where
  fetched : m.fetched? = some word
  fits : (Instruction.awaitKey x).Fits word
  up : m.keypad.first? = none
  vain : ∀ source, m.keySource = some source → ∀ i < n,
    source.vectors (source.asked + i) = List.replicate 16 false

theorem waited_zero (m : Machine) (word : UInt16) : m.waited word 0 = m := by
  have source : m.keySource.map (fun source => source.after 0) = m.keySource := Option.map_id'
  have timers : (if m.tickPerCycle then m.timers.after 0 else m.timers) = m.timers := ite_self _
  simp only [waited, spend] at source timers ⊢
  rw [source, timers]
  rfl

theorem waited_waited (m : Machine) (word : UInt16) (k n : Nat) :
    (m.waited word k).waited word n = m.waited word (k + n) := by
  have source : ((m.waited word k).waited word n).keySource =
      (m.waited word (k + n)).keySource := by
    simp only [waited, Option.map_map]
    congr 1
    funext source
    exact congrArg (KeySource.mk source.vectors) (Nat.add_assoc ..)
  have clocks := m.spend_spend word k n
  simp only [waited] at source ⊢
  rw [source, ← clocks]
  rfl

namespace Waits

theorem mono (h : m.Waits word x n) (le : k ≤ n) : m.Waits word x k :=
  { h with vain := fun source asks i below => h.vain source asks i (Nat.lt_of_lt_of_le below le) }

theorem waited (h : m.Waits word x (k + n)) : (m.waited word k).Waits word x n where
  fetched := h.fetched
  fits := h.fits
  up := h.up
  vain := by
    intro source asks i below
    obtain ⟨first, asked, rfl⟩ := Option.map_eq_some_iff.1 asks
    show first.vectors (first.asked + k + i) = _
    rw [Nat.add_assoc]
    exact h.vain first asked (k + i) (by omega)

theorem cycle (h : m.Waits word x 1) :
    m.cycle.answer = .ok () ∧ m.cycle.state = m.waited word 1 := by
  have stays : UInt16.ofInt m.registers.pc.toNat = m.registers.pc := ofInt_toNat _
  cases asks : m.keySource with
  | none =>
    have ends : (m.fetch word).awaitKey x m.registers.pc.toNat =
        .done { m.fetch word with keySource := none } m.registers.pc #[.awaitingKey] := by
      simp only [awaitKey, fetch, h.up, asks, stays]
    rw [Machine.waited, asks]
    exact cycle_of_awaitKey h.fetched h.fits ends
  | some source =>
    have given : source.next.1 = List.replicate 16 false := h.vain source asks 0 (by omega)
    have heard : m.keypad.setAll source.next.1 = (.ok (), m.keypad) := by
      rw [given, Keypad.setAll_released, Keypad.eq_released h.up]
    have ends : (m.fetch word).awaitKey x m.registers.pc.toNat =
        .done { m.fetch word with keySource := some source.next.2 } m.registers.pc
          #[.noKeyGiven] := by
      simp only [awaitKey, fetch, h.up, asks, heard, stays]
    rw [Machine.waited, asks]
    exact cycle_of_awaitKey h.fetched h.fits ends

theorem run (h : m.Waits word x n) :
    (m.run n).answer = .ok () ∧ (m.run n).state = m.waited word n := by
  induction n with
  | zero => exact ⟨rfl, m.waited_zero word |>.symm⟩
  | succ n ih =>
    obtain ⟨through, state⟩ := ih (h.mono (Nat.le_succ n))
    -- What has waited in vain still waits: its key source stands at the next answer.
    have last : (m.run n).state.Waits word x 1 := by
      rw [state]
      exact h.waited
    obtain ⟨answer, after⟩ := last.cycle
    rw [run_succ through]
    refine ⟨answer, ?_⟩
    show (m.run n).state.cycle.state = _
    rw [after, state, waited_waited]

theorem elapsed (h : m.Waits word x n) :
    Elapsed True .sound m (if m.tickPerCycle then n else 0) (m.run n).events
      (m.run n).state := by
  induction n with
  | zero =>
    rw [ite_self]
    exact .refl True .sound m
  | succ n ih =>
    obtain ⟨through, state⟩ := (h.mono (Nat.le_succ n)).run
    have before := ih (h.mono (Nat.le_succ n))
    have last : (m.run n).state.Waits word x 1 := by
      rw [state]
      exact h.waited
    have executed := executed?_of_fits ⟨last.cycle.1, last.fetched⟩ last.fits
    have quiet (y : Register) : (m.run n).state.executed? ≠ some (Timer.sound.setter y) := by
      rw [executed]
      exact nofun
    have after : Elapsed True .sound (m.run n).state (if m.tickPerCycle then 1 else 0)
        (m.run n).state.cycle.events (m.run n).state.cycle.state := by
      rw [← before.mode, ← cycleTicks_of_executed executed]
      exact elapsed_cycle quiet
    have ticks : (if m.tickPerCycle then n else 0) + (if m.tickPerCycle then 1 else 0) =
        if m.tickPerCycle then n + 1 else 0 := by
      split_ifs <;> rfl
    rw [run_succ through, ← ticks]
    exact before.trans after

end Waits

/-! ## Whole waits -/

theorem beeps_of_elapsed {events : Array Event} {after : Machine}
    (h : Elapsed True .sound m (if m.tickPerCycle then n else 0) events after) :
    Event.beeps events =
      if m.tickPerCycle ∧ m.listening ∧ 1 ≤ m.timers.sound.toNat ∧ m.timers.sound.toNat ≤ n
        then [m.cycles + m.timers.sound.toNat] else [] := by
  obtain ⟨moment, beeps, count⟩ := h.beeps_of_kept trivial
  rw [beeps]
  by_cases mode : m.tickPerCycle = true
  · simp only [mode, if_true, true_and, count mode]
  · have never : ¬ (m.listening = true ∧ 1 ≤ m.timers.sound.toNat ∧
        m.timers.sound.toNat ≤ 0) := by omega
    rw [if_neg mode, if_neg never, if_neg (mode ∘ And.left)]

end Machine

open Machine in
theorem wait_ends_with_lowest_key (m : Machine) (word : UInt16) (x : Register)
    (fetched : m.fetched? = some word) (fits : (Instruction.awaitKey x).Fits word) :
    ((∃ key, m.keypad.isDown key = true) →
      m.cycle.answer = .ok () ∧ m.Taken word x 1 m.cycle.state ∧
        m.cycle.state.keypad = m.keypad ∧ m.cycle.state.keySource = m.keySource) ∧
    ((∀ key, m.keypad.isDown key = false) → m.keySource = none → ∀ n,
      (m.run n).answer = .ok () ∧ (m.run n).state = m.spend word n ∧
        Event.beeps (m.run n).events =
          if m.tickPerCycle ∧ m.listening ∧ 1 ≤ m.timers.sound.toNat ∧ m.timers.sound.toNat ≤ n
            then [m.cycles + m.timers.sound.toNat] else []) ∧
    (∀ source j, (∀ key, m.keypad.isDown key = false) → m.keySource = some source →
      (∀ i < j, source.vectors (source.asked + i) = List.replicate 16 false) →
      (source.vectors (source.asked + j)).length = 16 →
      true ∈ source.vectors (source.asked + j) →
      (∀ i ≤ j, (m.run i).answer = .ok () ∧
        (m.run i).state = { m.spend word i with keySource := some (source.after i) }) ∧
      (m.run (j + 1)).answer = .ok () ∧ m.Taken word x (j + 1) (m.run (j + 1)).state ∧
        (m.run (j + 1)).state.keypad.down.toList = source.vectors (source.asked + j) ∧
        (m.run (j + 1)).state.keySource = some (source.after (j + 1))) := by
  refine ⟨?_, ?_, ?_⟩
  · rintro ⟨key, down⟩
    obtain ⟨lowest, first⟩ := Keypad.exists_first down
    obtain ⟨answer, state⟩ := cycle_of_down fetched fits first
    refine ⟨answer, taken_of_eq fetched first state, ?_⟩
    rw [state]
    exact ⟨rfl, rfl⟩
  · intro up alone n
    have waits : m.Waits word x n :=
      ⟨fetched, fits, m.keypad.first?_eq_none_iff.2 up, fun _ asks => nomatch alone.symm.trans asks⟩
    obtain ⟨answer, state⟩ := waits.run
    have same : m.waited word n = m.spend word n := by
      rw [waited, alone]
      exact congrArg (fun asked => { m.spend word n with keySource := asked }) alone.symm
    exact ⟨answer, state.trans same, beeps_of_elapsed waits.elapsed⟩
  · intro source j up asks vain count pressed
    have closed := m.keypad.first?_eq_none_iff.2 up
    have before (i : Nat) (le : i ≤ j) : (m.run i).answer = .ok () ∧
        (m.run i).state = { m.spend word i with keySource := some (source.after i) } := by
      have waits : m.Waits word x i := by
        refine ⟨fetched, fits, closed, fun other asked k below => ?_⟩
        cases asks.symm.trans asked
        exact vain k (by omega)
      obtain ⟨answer, state⟩ := waits.run
      rw [waited, asks] at state
      exact ⟨answer, state⟩
    obtain ⟨through, waiting⟩ := before j (Nat.le_refl j)
    obtain ⟨key, first⟩ := m.keypad.exists_first_setAll count pressed
    let last : Machine := { m.spend word j with keySource := some (source.after j) }
    have asked : last.keySource = some (source.after j) := rfl
    obtain ⟨answer, given⟩ := cycle_of_given (m := last) fetched fits closed asked count first
    have state : last.cycle.state = { (m.spend word (j + 1)).take x key with
        keypad := (m.keypad.setAll (source.vectors (source.asked + j))).2
        keySource := some (source.after (j + 1)) } := by
      rw [given, ← m.spend_spend word j 1]
      rfl
    rw [run_succ through, waiting]
    refine ⟨before, answer, taken_of_eq fetched first state, ?_⟩
    show last.cycle.state.keypad.down.toList = _ ∧ last.cycle.state.keySource = _
    rw [state]
    exact ⟨(m.keypad.setAll_of_length count).2, rfl⟩

theorem wait_ends_with_lowest_key_asking :
    let m := Machine.loaded [0xF5, 0x0A]
    let ready : Machine := { m with keypad := (m.keypad.press 9).press 3 }
    let alone : Machine := { m with timers := ⟨0, 2⟩, listening := true }
    let answer := (List.replicate 16 false).set 11 true
    let asking : Machine :=
      { m with keySource := some (.ofList [List.replicate 16 false, answer]) }
    ready.fetched? = some 0xF50A ∧ alone.fetched? = some 0xF50A ∧
      asking.fetched? = some 0xF50A ∧ (Instruction.awaitKey 5).Fits 0xF50A ∧
      ready.Taken 0xF50A 5 1 ready.cycle.state ∧
      (alone.run 7).state = alone.spend 0xF50A 7 ∧ Event.beeps (alone.run 7).events = [0 + 2] ∧
      asking.Taken 0xF50A 5 (1 + 1) (asking.run (1 + 1)).state ∧
      (asking.run (1 + 1)).state.keypad.down.toList = answer := by
  intro m ready alone answer asking
  have atReady : ready.fetched? = some 0xF50A := by decide +kernel
  have atAlone : alone.fetched? = some 0xF50A := by decide +kernel
  have atAsking : asking.fetched? = some 0xF50A := by decide +kernel
  have fits : (Instruction.awaitKey 5).Fits 0xF50A := ⟨rfl, rfl, rfl⟩
  have released : ∀ key, m.keypad.isDown key = false := by decide
  obtain ⟨atOnce, -, -⟩ := wait_ends_with_lowest_key ready 0xF50A 5 atReady fits
  obtain ⟨-, never, -⟩ := wait_ends_with_lowest_key alone 0xF50A 5 atAlone fits
  obtain ⟨-, -, later⟩ := wait_ends_with_lowest_key asking 0xF50A 5 atAsking fits
  have taken := (atOnce ⟨3, rfl⟩).2.1
  obtain ⟨-, idle, beeps⟩ := never released rfl 7
  have vain (i : Nat) (first : i < 1) :
      (KeySource.ofList [List.replicate 16 false, answer]).vectors (0 + i) =
        List.replicate 16 false := by
    obtain rfl : i = 0 := by omega
    rfl
  obtain ⟨-, -, given, latch, -⟩ := later _ 1 released rfl vain rfl (by decide)
  exact ⟨atReady, atAlone, atAsking, fits, taken, idle, beeps, given, latch⟩

end Chip8
