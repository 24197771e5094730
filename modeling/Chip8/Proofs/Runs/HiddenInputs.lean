import Chip8.Proofs.Emulator.Operations
import Chip8.Proofs.Machine.HiddenInputs

namespace Chip8

namespace Machine

variable {hidden : Hidden} {m m' : Machine} {n : Nat}

theorem run_alike (same : m'.conceal hidden = m.conceal hidden)
    (unread : ∀ k < n, (m.run k).answer = .ok () → (m.run k).state.Unread hidden) :
    Alike hidden (m.run n) (m'.run n) := by
  have start : Alike hidden (.done m () #[]) (.done m' () #[]) := ⟨rfl, same, rfl⟩
  exact Outcome.iterate_alike (p := fun m _ => m.Unread hidden) (fun _ _ => cycle_alike) start
    fun k below through _ => unread k below through

theorem random_run (unread : ∀ k < n, (m.run k).answer = .ok () → (m.run k).state.Unread .random) :
    (m.run n).state.random = m.random :=
  Outcome.iterate_keeps (o := .done m () #[]) (fun _ => random_cycle) unread

end Machine

namespace Emulator

variable {hidden : Hidden} {emulator emulator' : Emulator}

/-- Where the timers are hidden, so are the clock and the time up to which it has ticked them. -/
def conceal (hidden : Hidden) (emulator : Emulator) : Emulator :=
  let concealed := { emulator with machine := emulator.machine.conceal hidden }
  match hidden with
  | .timers => { concealed with clock := .still 0, pace := { emulator.pace with credited := none } }
  | .random | .keys => concealed

abbrev Alike (hidden : Hidden) (o o' : Outcome Emulator Unit) : Prop :=
  o.Alike (conceal hidden) hidden.shows o'

theorem conceal_of_ne (h : hidden ≠ .timers) (emulator : Emulator) :
    emulator.conceal hidden = { emulator with machine := emulator.machine.conceal hidden } := by
  cases hidden with
  | timers => exact absurd rfl h
  | random | keys => rfl

theorem machine_conceal (hidden : Hidden) (emulator : Emulator) :
    (emulator.conceal hidden).machine = emulator.machine.conceal hidden := by
  cases hidden <;> rfl

theorem machine_of_conceal (same : emulator'.conceal hidden = emulator.conceal hidden) :
    emulator'.machine.conceal hidden = emulator.machine.conceal hidden := by
  rw [← machine_conceal, same, machine_conceal]

theorem config_conceal (hidden : Hidden) (emulator : Emulator) :
    (emulator.conceal hidden).config = emulator.config := by
  cases hidden <;> rfl

theorem conceal_onMachine (same : emulator'.conceal hidden = emulator.conceal hidden)
    {m m' : Machine} (machines : m'.conceal hidden = m.conceal hidden) :
    ({ emulator' with machine := m' } : Emulator).conceal hidden =
      ({ emulator with machine := m } : Emulator).conceal hidden := by
  cases hidden
  all_goals
    simp only [conceal, mk.injEq] at same ⊢
    exact ⟨same.1, machines, same.2.2⟩

/-! ## Keeping pace -/

theorem shown_keepPace (emulator : Emulator) :
    emulator.keepPace.events.filter Hidden.timers.shows = #[] := by
  rw [keepPace_eq_catchUp, catchUp]
  dsimp only
  split
  · rfl
  · exact Machine.shown_ticks _ _

theorem keepPace_conceal (steady : hidden = .timers → emulator.keepPace.answer = .ok ()) :
    Alike hidden emulator.keepPace (emulator.conceal hidden).keepPace := by
  by_cases timed : hidden = .timers
  -- The two clocks may credit different numbers of periods: what ticks do is hidden here.
  · subst timed
    obtain ⟨timers, state⟩ := emulator.keepPace_eq
    have period := emulator.pace.period_credit emulator.clock.read.1
    rw [keepPace_of_uncredited (emulator.conceal .timers) rfl]
    refine ⟨(steady rfl).symm, ?_, (shown_keepPace emulator).symm⟩
    rw [state]
    simp only [Outcome.done, conceal, Machine.conceal, period]
  · rw [conceal_of_ne timed]
    let paced : Emulator := { emulator with
      clock := emulator.clock.read.2
      pace := (emulator.pace.credit emulator.clock.read.1).2 }
    have same : paced.conceal hidden = paced.conceal hidden := rfl
    rw [keepPace_eq_catchUp, keepPace_eq_catchUp, catchUp, catchUp]
    dsimp only
    split
    · exact ⟨rfl, conceal_onMachine same (emulator.machine.conceal_conceal hidden), rfl⟩
    · rename_i periods _
      have elapsed := emulator.machine.elapse_conceal hidden (min periods maxTicks)
      exact ⟨rfl, conceal_onMachine same elapsed.state, elapsed.events⟩

/-! ## Cycles and runs -/

/-- If the machine completes the next cycle, reading the clock does not stop it. -/
def KeepsTime (emulator : Emulator) : Prop :=
  emulator.machine.cycle.answer = .ok () → emulator.cycle.answer = .ok ()

theorem cycle_alike (same : emulator'.conceal hidden = emulator.conceal hidden)
    (unread : emulator.machine.Unread hidden)
    (steady : hidden = .timers → emulator.KeepsTime ∧ emulator'.KeepsTime) :
    Alike hidden emulator.cycle emulator'.cycle := by
  have config : emulator'.config = emulator.config := by
    rw [← config_conceal hidden, same, config_conceal]
  have alike := Machine.cycle_alike (machine_of_conceal same) unread
  have states := conceal_onMachine same alike.state
  cases answer : emulator.machine.cycle.answer with
  | error e =>
    rw [cycle_of_machine_error answer, cycle_of_machine_error (alike.answer.trans answer)]
    exact ⟨rfl, states, alike.events⟩
  | ok =>
    have answer' := alike.answer.trans answer
    cases mode : emulator.config.timerMode with
    | perCycle =>
      rw [cycle_of_perCycle answer mode, cycle_of_perCycle answer' (config ▸ mode)]
      exact Outcome.Alike.after alike.events ⟨rfl, states, rfl⟩
    | fixedRate =>
      have cycles := cycle_of_fixedRate answer mode
      have cycles' := cycle_of_fixedRate answer' (config ▸ mode)
      unfold KeepsTime at steady
      rw [cycles, cycles'] at steady ⊢
      apply Outcome.Alike.after alike.events
      exact .of_view (keepPace_conceal fun timed => (steady timed).1 answer)
        (keepPace_conceal fun timed => (steady timed).2 answer') states

/-- In the first `count` cycles, no reading of the clock stops one that the machine completes. -/
def Steady (run : Nat → Outcome Emulator Unit) (count : Nat) : Prop :=
  ∀ k < count, (run k).answer = .ok () → (run k).state.machine.cycle.answer = .ok () →
    (run (k + 1)).answer = .ok ()

instance (run : Nat → Outcome Emulator Unit) (count : Nat) : Decidable (Steady run count) :=
  inferInstanceAs (Decidable (∀ k < count, _ → _ → _))

theorem keepsTime_run {count k : Nat} (steady : Steady (emulator.run ·) count) (below : k < count)
    (through : (emulator.run k).answer = .ok ()) : (emulator.run k).state.KeepsTime := by
  intro completed
  have next : (emulator.run (k + 1 : Nat)).answer = .ok () := steady k below through completed
  rwa [run_succ_of_ok through] at next

theorem run_alike (same : emulator'.conceal hidden = emulator.conceal hidden) {count : Nat}
    (unread : ∀ k < count, (emulator.run k).answer = .ok () →
      (emulator.run k).state.machine.Unread hidden)
    (steady : hidden = .timers →
      Steady (emulator.run ·) count ∧ Steady (emulator'.run ·) count) :
    Alike hidden (emulator.run count) (emulator'.run count) := by
  have step_alike (e e' : Emulator) (same : e'.conceal hidden = e.conceal hidden)
      (h : e.machine.Unread hidden ∧ (hidden = .timers → e.KeepsTime ∧ e'.KeepsTime)) :
      Alike hidden e.cycle e'.cycle := cycle_alike same h.1 h.2
  have start : Alike hidden (.done emulator () #[]) (.done emulator' () #[]) := ⟨rfl, same, rfl⟩
  rw [run_natCast, run_natCast]
  apply Outcome.iterate_alike step_alike start
  intro k below
  simp only [← run_natCast]
  intro through through'
  refine ⟨unread k below through, fun timed => ?_⟩
  obtain ⟨first, second⟩ := steady timed
  exact ⟨keepsTime_run first below through, keepsTime_run second below through'⟩

def atTime (emulator : Emulator) (time : Float) : Emulator := { emulator with clock := .still time }

/-- Runs cycles by a clock that reads `times k` in the cycle after the first `k`. -/
def runBy (emulator : Emulator) (times : Nat → Float) : Nat → Outcome Emulator Unit
  | 0 => .done emulator () #[]
  | count + 1 => (emulator.runBy times count).andThen fun _ e => (e.atTime (times count)).cycle

theorem keepsTime_runBy {times : Nat → Float} {count k : Nat}
    (steady : Steady (emulator.runBy times) count) (below : k < count)
    (through : (emulator.runBy times k).answer = .ok ()) :
    ((emulator.runBy times k).state.atTime (times k)).KeepsTime := by
  intro completed
  have next := steady k below through completed
  rwa [runBy, Outcome.andThen, through] at next

theorem runBy_alike {times times' : Nat → Float} {count : Nat}
    (same : emulator'.conceal .timers = emulator.conceal .timers)
    (unread : ∀ k < count, (emulator.runBy times k).answer = .ok () →
      (emulator.runBy times k).state.machine.Unread .timers)
    (steady : Steady (emulator.runBy times) count)
    (steady' : Steady (emulator'.runBy times') count) :
    Alike .timers (emulator.runBy times count) (emulator'.runBy times' count) := by
  induction count with
  | zero => exact ⟨rfl, same, rfl⟩
  | succ count ih =>
    have last := Nat.lt_succ_self count
    have before := ih (fun k below => unread k (Nat.lt_succ_of_lt below))
      (fun k below => steady k (Nat.lt_succ_of_lt below))
      (fun k below => steady' k (Nat.lt_succ_of_lt below))
    rw [runBy, runBy]
    -- The clocks may differ in every cycle: a reading is hidden with the timers.
    apply before.andThen
    intro _ through through'
    have same : ((emulator'.runBy times' count).state.atTime (times' count)).conceal .timers =
        ((emulator.runBy times count).state.atTime (times count)).conceal .timers := before.state
    apply cycle_alike same (unread count last through)
    exact fun _ => ⟨keepsTime_runBy steady last through, keepsTime_runBy steady' last through'⟩

theorem random_cycle (h : emulator.machine.Unread .random) :
    emulator.cycle.state.machine.random = emulator.machine.random := by
  obtain ⟨timers, eq⟩ := emulator.machine_cycle_eq
  rw [eq]
  exact Machine.random_cycle h

theorem random_run {count : Nat}
    (unread : ∀ k < count, (emulator.run k).answer = .ok () →
      (emulator.run k).state.machine.Unread .random) :
    (emulator.run count).state.machine.random = emulator.machine.random := by
  simp only [run_natCast] at unread ⊢
  exact Outcome.iterate_keeps (f := fun e : Emulator => e.machine.random)
    (o := .done emulator () #[]) (fun _ => random_cycle) unread

end Emulator

/-- Machines that differ in one kind of input run alike as long as no instruction reads it. -/
theorem hidden_inputs_reach_no_other_instruction :
    (∀ (hidden : Hidden) (m m' : Machine) (n : Nat), m'.conceal hidden = m.conceal hidden →
      (∀ k < n, (m.run k).answer = .ok () → (m.run k).state.Unread hidden) →
      Machine.Alike hidden (m.run n) (m'.run n) ∧
        (hidden = .random →
          (m.run n).state.random = m.random ∧ (m'.run n).state.random = m'.random)) ∧
    (∀ (hidden : Hidden) (emulator emulator' : Emulator) (n : Nat),
      emulator'.conceal hidden = emulator.conceal hidden →
      (∀ k < n, (emulator.run k).answer = .ok () →
        (emulator.run k).state.machine.Unread hidden) →
      (hidden = .timers →
        Emulator.Steady (emulator.run ·) n ∧ Emulator.Steady (emulator'.run ·) n) →
      Emulator.Alike hidden (emulator.run n) (emulator'.run n) ∧
        (hidden = .random →
          (emulator.run n).state.machine.random = emulator.machine.random ∧
          (emulator'.run n).state.machine.random = emulator'.machine.random)) ∧
    (∀ (emulator emulator' : Emulator) (times times' : Nat → Float) (n : Nat),
      emulator'.conceal .timers = emulator.conceal .timers →
      (∀ k < n, (emulator.runBy times k).answer = .ok () →
        (emulator.runBy times k).state.machine.Unread .timers) →
      Emulator.Steady (emulator.runBy times) n → Emulator.Steady (emulator'.runBy times') n →
      Emulator.Alike .timers (emulator.runBy times n) (emulator'.runBy times' n)) := by
  refine ⟨?_, ?_, ?_⟩
  · intro hidden m m' n same unread
    refine ⟨Machine.run_alike same unread, ?_⟩
    rintro rfl
    have alike (k : Nat) (below : k < n) : Machine.Alike .random (m.run k) (m'.run k) :=
      Machine.run_alike same fun j earlier => unread j (Nat.lt_trans earlier below)
    have unread' := Outcome.while_of_alike (p := (Machine.Unread · .random)) alike
      (fun _ _ same here => here.of_same same) unread
    exact ⟨Machine.random_run unread, Machine.random_run unread'⟩
  · intro hidden emulator emulator' n same unread steady
    refine ⟨Emulator.run_alike same unread steady, ?_⟩
    rintro rfl
    have alike (k : Nat) (below : k < n) :
        Emulator.Alike .random (emulator.run k) (emulator'.run k) :=
      Emulator.run_alike same (fun j earlier => unread j (Nat.lt_trans earlier below)) nofun
    have unread' := Outcome.while_of_alike (p := (Machine.Unread ·.machine .random)) alike
      (fun _ _ same here => here.of_same (Emulator.machine_of_conceal same)) unread
    exact ⟨Emulator.random_run unread, Emulator.random_run unread'⟩
  · intro emulator emulator' times times' n
    exact Emulator.runBy_alike

theorem hidden_inputs_reach_no_other_instruction_return :
    let m := { Machine.loaded [0x60, 0x05, 0x00, 0xEE] with listening := true }
    let sounding := { m with timers := ⟨9, 1⟩ }
    let scripted := { m with random := .stream (fun k => UInt8.ofNat k) 3 }
    let emulator : Emulator := { config := { timerMode := .fixedRate }
                                 machine := m, clock := .still 0, pace := ⟨1, none⟩ }
    let running := { emulator with machine := sounding
                                   clock := ⟨fun k => Float.ofNat (2 + 5 * k), 0⟩ }
    let steps (k : Nat) : Float := Float.ofNat k
    let backwards (k : Nat) : Float := 8 - Float.ofNat k
    (m.run 2).beeps = [] ∧ (sounding.run 2).beeps = [1] ∧
      Machine.Alike .timers (m.run 2) (sounding.run 2) ∧
      (scripted.run 2).state.random = scripted.random ∧
      Machine.Alike .keys (m.run 2) ((m.press 7).run 2) ∧
      Emulator.Alike .timers (emulator.run 2) (running.run 2) ∧
      Emulator.Alike .timers (emulator.runBy steps 2) (running.runBy backwards 2) := by
  intro m sounding scripted emulator running steps backwards
  obtain ⟨machines, emulators, clocks⟩ := hidden_inputs_reach_no_other_instruction
  have fetches {k : Nat} (below : k < 2) :
      ∃ word, (∀ hidden, (Instruction.ofWord word).reads hidden = false) ∧
        (m.run k).state.fetched? = some word ∧
        (emulator.run k).state.machine.fetched? = some word ∧
        (emulator.runBy steps k).state.machine.fetched? = some word := by
    rcases show k = 0 ∨ k = 1 by omega with rfl | rfl
    · exact ⟨0x6005, by rintro ⟨⟩ <;> rfl, by decide +kernel⟩
    · exact ⟨0x00EE, by rintro ⟨⟩ <;> rfl, by decide +kernel⟩
  have unread (hidden : Hidden) (k : Nat) (below : k < 2) (_ : (m.run k).answer = .ok ()) :
      (m.run k).state.Unread hidden := by
    obtain ⟨word, unread, fetched, -⟩ := fetches below
    exact Machine.unread_of_fetched fetched (unread hidden)
  have unreadRun (k : Nat) (below : k < 2) (_ : (emulator.run k).answer = .ok ()) :
      (emulator.run k).state.machine.Unread .timers := by
    obtain ⟨word, unread, -, fetched, -⟩ := fetches below
    exact Machine.unread_of_fetched fetched (unread .timers)
  have unreadBy (k : Nat) (below : k < 2) (_ : (emulator.runBy steps k).answer = .ok ()) :
      (emulator.runBy steps k).state.machine.Unread .timers := by
    obtain ⟨word, unread, -, -, fetched⟩ := fetches below
    exact Machine.unread_of_fetched fetched (unread .timers)
  have steadyRun : Emulator.Steady (emulator.run ·) 2 ∧ Emulator.Steady (running.run ·) 2 := by
    decide +kernel
  have steadyBy : Emulator.Steady (emulator.runBy steps) 2 ∧
      Emulator.Steady (running.runBy backwards) 2 := by decide +kernel
  have timers := machines .timers m sounding 2 rfl (unread .timers)
  have random := machines .random m scripted 2 rfl (unread .random)
  have keys := machines .keys m (m.press 7) 2 rfl (unread .keys)
  have paced := emulators .timers emulator running 2 rfl unreadRun fun _ => steadyRun
  have clocked := clocks emulator running steps backwards 2 rfl unreadBy steadyBy.1 steadyBy.2
  exact ⟨by decide +kernel, by decide +kernel, timers.1, (random.2 rfl).2, keys.1, paced.1,
    clocked⟩

end Chip8
