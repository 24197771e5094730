import Chip8.Emulator
import Chip8.Proofs.Machine.Atomicity
import Mathlib.Data.Nat.Count

namespace Chip8

theorem Machine.ticks_eq (m : Machine) (count : Nat) :
    ∃ timers, (m.ticks count).1 = { m with timers } := by
  induction count generalizing m with
  | zero => exact ⟨m.timers, rfl⟩
  | succ count ih =>
    obtain ⟨timers, eq⟩ := ih m.tick.1
    exact ⟨timers, eq⟩

namespace Emulator

variable {emulator : Emulator} {e : Error}

theorem catchUp_clock (emulator : Emulator) (clock : Clock) (now : Float) :
    { emulator with clock }.catchUp now =
      (emulator.catchUp now).within fun e => { e with clock } := by
  unfold catchUp
  dsimp only
  cases (emulator.pace.credit now).1 <;> rfl

theorem keepPace_eq_catchUp (emulator : Emulator) :
    emulator.keepPace =
      { emulator with clock := emulator.clock.read.2 }.catchUp emulator.clock.read.1 :=
  (catchUp_clock emulator _ _).symm

theorem cycle_of_machine_error (h : emulator.machine.cycle.answer = .error e) :
    emulator.cycle = .stopped { emulator with machine := emulator.machine.cycle.state } e
      emulator.machine.cycle.events := by
  simp only [cycle, byClock, cycleWith, onMachine, Outcome.within, h]
  rfl

theorem keepPace_eq (emulator : Emulator) :
    ∃ timers, emulator.keepPace.state =
      { emulator with
        machine := { emulator.machine with timers }
        clock := emulator.clock.read.2
        pace := (emulator.pace.credit emulator.clock.read.1).2 } := by
  rw [keepPace_eq_catchUp, catchUp]
  dsimp only
  split
  · exact ⟨emulator.machine.timers, rfl⟩
  · rename_i periods _
    obtain ⟨timers, eq⟩ := emulator.machine.ticks_eq (min periods maxTicks)
    exact ⟨timers, by rw [← eq]; rfl⟩

theorem keepPace_of_uncredited (emulator : Emulator) (h : emulator.pace.credited = none) :
    emulator.keepPace = .done { emulator with
      clock := emulator.clock.read.2
      pace := { emulator.pace with credited := some emulator.clock.read.1 } } () #[] := by
  rw [keepPace_eq_catchUp, catchUp, Pace.credit, h]
  rfl

theorem cycle_of_perCycle (h : emulator.machine.cycle.answer = .ok ())
    (mode : emulator.config.timerMode = .perCycle) :
    emulator.cycle =
      (Outcome.done { emulator with machine := emulator.machine.cycle.state } () #[]).after
        emulator.machine.cycle.events := by
  simp only [cycle, byClock, cycleWith, onMachine, Outcome.within, h, mode]
  show Outcome.mk _ _ _ = Outcome.mk _ _ (_ ++ #[])
  rw [Array.append_empty]
  rfl

theorem cycle_of_fixedRate (h : emulator.machine.cycle.answer = .ok ())
    (mode : emulator.config.timerMode = .fixedRate) :
    emulator.cycle =
      (keepPace { emulator with machine := emulator.machine.cycle.state }).after
        emulator.machine.cycle.events := by
  simp only [cycle, byClock, cycleWith, onMachine, Outcome.within, h, mode]
  rfl

theorem cycle_within_of_perCycle (mode : emulator.config.timerMode = .perCycle) (m : Machine) :
    cycle { emulator with machine := m } =
      m.cycle.within fun m => { emulator with machine := m } := by
  let placed : Emulator := { emulator with machine := m }
  show placed.cycle = _
  cases answer : m.cycle.answer with
  | error e =>
    have stopped : placed.machine.cycle.answer = .error e := answer
    rw [cycle_of_machine_error stopped, Outcome.within, answer]
    rfl
  | ok =>
    have through : placed.machine.cycle.answer = .ok () := answer
    rw [cycle_of_perCycle through mode, Outcome.within, answer]
    show Outcome.mk _ _ (_ ++ #[]) = _
    rw [Array.append_empty]
    rfl

theorem machine_cycle_eq (emulator : Emulator) :
    ∃ timers, emulator.cycle.state.machine = { emulator.machine.cycle.state with timers } := by
  cases answer : emulator.machine.cycle.answer with
  | error e =>
    rw [cycle_of_machine_error answer]
    exact ⟨emulator.machine.cycle.state.timers, rfl⟩
  | ok =>
    cases mode : emulator.config.timerMode with
    | perCycle =>
      rw [cycle_of_perCycle answer mode]
      exact ⟨emulator.machine.cycle.state.timers, rfl⟩
    | fixedRate =>
      rw [cycle_of_fixedRate answer mode]
      obtain ⟨timers, eq⟩ := keepPace_eq { emulator with machine := emulator.machine.cycle.state }
      exact ⟨timers, congrArg machine eq⟩

theorem machine_ok_of_cycle_ok (h : emulator.cycle.answer = .ok ()) :
    emulator.machine.cycle.answer = .ok () := by
  cases answer : emulator.machine.cycle.answer with
  | ok => rfl
  | error e =>
    rw [cycle_of_machine_error answer] at h
    cases h

/-! ## Runs -/

section Synced

variable {τ : Type} {now : StateM τ Float} {clock : τ → Clock}

/-- The time is read off the clock in a state. -/
def Reads (now : StateM τ Float) (clock : τ → Clock) : Prop :=
  ∀ t, (now.run t).run.1 = (clock t).read.1 ∧ clock (now.run t).run.2 = (clock t).read.2

def synced (clock : τ → Clock) (r : Outcome Emulator Unit × τ) : Outcome Emulator Unit :=
  r.1.within fun e => { e with clock := clock r.2 }

theorem synced_cycleWith (reads : Reads now clock) (emulator : Emulator) (t : τ) :
    synced clock ((cycleWith now emulator).run t).run =
      cycle { emulator with clock := clock t } := by
  let own : Emulator := { emulator with clock := clock t }
  show _ = own.cycle
  cases answer : emulator.machine.cycle.answer with
  | error e =>
    have stopped : own.machine.cycle.answer = .error e := answer
    rw [cycle_of_machine_error stopped]
    simp only [cycleWith, onMachine, Outcome.within, answer]
    rfl
  | ok =>
    have through : own.machine.cycle.answer = .ok () := answer
    cases mode : emulator.config.timerMode with
    | perCycle =>
      have unpaced : own.config.timerMode = .perCycle := mode
      rw [cycle_of_perCycle through unpaced]
      simp only [cycleWith, onMachine, Outcome.within, answer, mode]
      show Outcome.mk _ _ _ = Outcome.mk _ _ (_ ++ #[])
      rw [Array.append_empty]
      rfl
    | fixedRate =>
      have timed : own.config.timerMode = .fixedRate := mode
      obtain ⟨time, after⟩ := reads t
      have paced := catchUp_clock { emulator with machine := emulator.machine.cycle.state }
        (clock (now.run t).run.2) (now.run t).run.1
      rw [cycle_of_fixedRate through timed, keepPace_eq_catchUp, ← time, ← after]
      simp only [cycleWith, onMachine, Outcome.within, answer, mode]
      exact congrArg (Outcome.after emulator.machine.cycle.events) paced.symm

theorem kept_cycleWith {γ : Type} (keep : τ → γ) (keeps : ∀ t, keep (now.run t).run.2 = keep t)
    (emulator : Emulator) (t : τ) :
    keep ((cycleWith now emulator).run t).run.2 = keep t := by
  cases answer : (emulator.onMachine emulator.machine.cycle).answer with
  | error e =>
    simp only [cycleWith, answer]
    rfl
  | ok =>
    cases mode : emulator.config.timerMode with
    | perCycle =>
      simp only [cycleWith, answer, mode]
      rfl
    | fixedRate =>
      simp only [cycleWith, answer, mode]
      exact keeps t

theorem synced_iterateM (reads : Reads now clock) (n : Nat) (o : Outcome Emulator Unit) (t : τ) :
    synced clock ((Outcome.iterateM (cycleWith now) n o).run t).run =
      Outcome.iterate cycle n (synced clock (o, t)) := by
  induction n generalizing o t with
  | zero => rfl
  | succ n ih =>
    cases answer : o.answer with
    | error e =>
      have stopped : (synced clock (o, t)).answer = .error e := answer
      rw [Outcome.iterate_of_error stopped]
      simp only [Outcome.iterateM, answer]
      rfl
    | ok =>
      have through : (synced clock (o, t)).answer = .ok () := answer
      have step := synced_cycleWith reads o.state t
      simp only [Outcome.iterate, Outcome.iterateM, answer, through]
      refine (ih _ _).trans (congrArg (Outcome.iterate cycle n) ?_)
      exact congrArg (Outcome.after o.events) step

theorem synced_runWith_eq (reads : Reads now clock) (emulator : Emulator) (count : Int) (t : τ) :
    synced clock ((runWith now emulator count).run t).run =
      if count < 0 then
        .stopped { emulator with clock := clock t } (.invalid (.cycles count)) #[]
      else Outcome.iterate cycle count.toNat (.done { emulator with clock := clock t } () #[]) := by
  by_cases negative : count < 0
  · rw [if_pos negative, runWith, if_pos negative]
    rfl
  · rw [if_neg negative, runWith, if_neg negative]
    exact synced_iterateM reads _ _ _

theorem run_eq (emulator : Emulator) (count : Int) : emulator.run count =
    if count < 0 then .stopped emulator (.invalid (.cycles count)) #[]
    else Outcome.iterate cycle count.toNat (.done emulator () #[]) := by
  have self : Reads Clock.read id := fun _ => ⟨rfl, rfl⟩
  exact synced_runWith_eq self emulator count emulator.clock

theorem synced_runWith (reads : Reads now clock) (emulator : Emulator) (count : Int) (t : τ) :
    synced clock ((runWith now emulator count).run t).run =
      { emulator with clock := clock t }.run count := by
  rw [synced_runWith_eq reads, run_eq]

theorem kept_runWith {γ : Type} (keep : τ → γ) (keeps : ∀ t, keep (now.run t).run.2 = keep t)
    (emulator : Emulator) (count : Int) (t : τ) :
    keep ((runWith now emulator count).run t).run.2 = keep t := by
  have iterated (n : Nat) (o : Outcome Emulator Unit) (t : τ) :
      keep ((Outcome.iterateM (cycleWith now) n o).run t).run.2 = keep t := by
    induction n generalizing o t with
    | zero => rfl
    | succ n ih =>
      cases answer : o.answer with
      | error e =>
        simp only [Outcome.iterateM, answer]
        rfl
      | ok =>
        simp only [Outcome.iterateM, answer]
        exact (ih _ _).trans (kept_cycleWith keep keeps o.state t)
  by_cases negative : count < 0
  · rw [runWith, if_pos negative]
    rfl
  · rw [runWith, if_neg negative]
    exact iterated _ _ _

end Synced

theorem run_natCast (emulator : Emulator) (count : Nat) :
    emulator.run count = Outcome.iterate cycle count (.done emulator () #[]) := by
  rw [run_eq, if_neg (by omega), Int.toNat_natCast]

theorem run_of_perCycle (mode : emulator.config.timerMode = .perCycle) (count : Nat) :
    emulator.run count = (emulator.machine.run count).within fun m =>
      { emulator with machine := m } := by
  rw [run_natCast]
  exact Outcome.iterate_within (o := .done emulator.machine () #[])
    (cycle_within_of_perCycle mode) count

theorem run_succ_of_ok {count : Nat} (h : (emulator.run count).answer = .ok ()) :
    emulator.run (count + 1 : Nat) =
      (emulator.run count).state.cycle.after (emulator.run count).events := by
  rw [run_natCast] at h ⊢
  rw [run_natCast, Outcome.iterate_succ_of_ok h]

theorem run_succ_of_error {count : Nat} (h : (emulator.run count).answer = .error e) :
    emulator.run (count + 1 : Nat) = emulator.run count := by
  rw [run_natCast] at h ⊢
  rw [run_natCast, Outcome.iterate_add, Outcome.iterate_of_error h]

/-- A run begins the cycle after the first `k`, and its machine completes it. -/
def CompletesAt (emulator : Emulator) (k : Nat) : Prop :=
  (emulator.run k).answer = .ok () ∧ (emulator.run k).state.machine.cycle.answer = .ok ()

instance (emulator : Emulator) : DecidablePred emulator.CompletesAt :=
  fun _ => inferInstanceAs (Decidable (_ ∧ _))

theorem cycles_run (emulator : Emulator) (count : Nat) :
    (emulator.run count).state.machine.cycles =
      emulator.machine.cycles + Nat.count emulator.CompletesAt count := by
  induction count with
  | zero => rfl
  | succ count ih =>
    rw [Nat.count_succ]
    cases through : (emulator.run count).answer with
    | error e =>
      have stopped : ¬ emulator.CompletesAt count := by simp [CompletesAt, through]
      rw [run_succ_of_error through, if_neg stopped]
      exact ih
    | ok =>
      -- Pacing ticks timers but completes nothing.
      have same : (emulator.run (count + 1 : Nat)).state.machine.cycles =
          (emulator.run count).state.machine.cycle.state.cycles := by
        obtain ⟨timers, eq⟩ := (emulator.run count).state.machine_cycle_eq
        rw [run_succ_of_ok through]
        show (emulator.run count).state.cycle.state.machine.cycles = _
        rw [eq]
      cases answer : (emulator.run count).state.machine.cycle.answer with
      | error e =>
        have stopped : ¬ emulator.CompletesAt count := by simp [CompletesAt, answer]
        rw [same, (Machine.cycle_state_of_error answer).1, if_neg stopped]
        exact ih
      | ok =>
        have completed : emulator.CompletesAt count := ⟨through, answer⟩
        rw [same, Machine.cycles_of_cycle_ok answer, if_pos completed, ih, Nat.add_assoc]

theorem completesAt_of_run_ok {count : Nat} (h : (emulator.run count).answer = .ok ()) :
    ∀ k < count, emulator.CompletesAt k := by
  induction count with
  | zero => intro k below; exact absurd below (Nat.not_lt_zero k)
  | succ count ih =>
    cases through : (emulator.run count).answer with
    | error e =>
      rw [run_succ_of_error through, through] at h
      cases h
    | ok =>
      rw [run_succ_of_ok through] at h
      intro k below
      rcases Nat.lt_succ_iff_lt_or_eq.1 below with earlier | rfl
      · exact ih through k earlier
      · exact ⟨through, machine_ok_of_cycle_ok h⟩

theorem cycles_of_run_ok {count : Nat} (h : (emulator.run count).answer = .ok ()) :
    (emulator.run count).state.machine.cycles = emulator.machine.cycles + count := by
  rw [cycles_run, Nat.count_of_forall (fun k => completesAt_of_run_ok h k)]

/-- Adds up over the emulators in which a run begins a cycle. -/
def runTotal (f : Emulator → Nat) (emulator : Emulator) (count : Int) : Nat :=
  Outcome.total cycle f (.done emulator () #[]) count.toNat

theorem runTotal_induction {p : Emulator → Prop} {R : Emulator → Nat → Array Event → Prop}
    {f : Emulator → Nat} {count : Int} (start : R emulator 0 #[])
    (preserved : ∀ e n events, p e → R e n events →
      R e.cycle.state (n + f e) (events ++ e.cycle.events))
    (h : ∀ k < count.toNat, (emulator.run k).answer = .ok () → p (emulator.run k).state) :
    R (emulator.run count).state (emulator.runTotal f count) (emulator.run count).events := by
  by_cases negative : count < 0
  · rw [runTotal, Int.toNat_of_nonpos (Int.le_of_lt negative), run_eq, if_pos negative]
    exact start
  · obtain ⟨n, rfl⟩ := Int.eq_ofNat_of_zero_le (Int.not_lt.1 negative)
    rw [run_natCast]
    refine Outcome.total_induction start preserved ?_
    intro k below through
    rw [← run_natCast] at through ⊢
    exact h k below through

end Emulator
end Chip8
