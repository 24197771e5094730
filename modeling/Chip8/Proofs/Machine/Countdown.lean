import Chip8.Proofs.Machine.Atomicity
import Chip8.Proofs.Machine.Counts

namespace Chip8

inductive Timer where
  | delay
  | sound
deriving DecidableEq, Repr

def Timer.setter : Timer → Register → Instruction
  | delay => .setDelay
  | sound => .setSound

namespace Timers

def counter (t : Timers) : Timer → UInt8
  | .delay => t.delay
  | .sound => t.sound

def put (t : Timers) (value : UInt8) : Timer → Timers
  | .delay => { t with delay := value }
  | .sound => { t with sound := value }

theorem counter_put (t : Timers) (value : UInt8) (timer : Timer) :
    (t.put value timer).counter timer = value := by
  cases timer <;> rfl

theorem ext_counter {t t' : Timers}
    (h : ∀ timer, (t'.counter timer).toNat = (t.counter timer).toNat) : t' = t := by
  have delay : t'.delay = t.delay := UInt8.toNat_inj.1 (h .delay)
  have sound : t'.sound = t.sound := UInt8.toNat_inj.1 (h .sound)
  cases t
  cases t'
  simp_all

theorem toNat_countDown (counter : UInt8) : (countDown counter).toNat = counter.toNat - 1 := by
  unfold countDown
  split
  case isTrue zero =>
    rw [zero]
    rfl
  case isFalse running =>
    have positive : 1 ≤ counter.toNat := by
      rw [← UInt8.toNat_inj] at running
      exact Nat.one_le_iff_ne_zero.2 running
    exact UInt8.toNat_sub_of_le counter 1 positive

theorem toNat_counter_tick (t : Timers) (timer : Timer) :
    (t.tick.2.counter timer).toNat = (t.counter timer).toNat - 1 := by
  cases timer
  · exact toNat_countDown t.delay
  · exact toNat_countDown t.sound

end Timers

/-! ## Signals -/

namespace Event

def isSignal : Event → Bool
  | soundExpired | beep _ => true
  | _ => false

def beeps (events : Array Event) : List Nat := events.toList.filterMap beepCycles?

theorem beeps_filter (events : Array Event) : beeps (events.filter isSignal) = beeps events := by
  rw [beeps, Array.toList_filter, List.filterMap_filter]
  congr 1
  funext event
  cases event <;> rfl

def expiry (heard : Bool) (cycles : Nat) : Array Event :=
  if heard then #[.soundExpired, .beep cycles] else #[.soundExpired]

theorem filter_expiry (heard : Bool) (cycles : Nat) :
    (expiry heard cycles).filter isSignal = expiry heard cycles := by
  cases heard <;> rfl

end Event

namespace Machine

open Event (expiry filter_expiry)

variable {m m' m'' : Machine} {timer : Timer}

theorem events_tick (m : Machine) :
    m.tick.2 = if m.timers.sound.toNat = 1 then expiry m.listening m.cycles else #[] := by
  have one : (m.timers.sound == 1) = true ↔ m.timers.sound.toNat = 1 := by
    rw [beq_iff_eq, ← UInt8.toNat_inj]
    rfl
  by_cases last : m.timers.sound.toNat = 1
  · rw [if_pos last]
    exact if_pos (one.2 last)
  · rw [if_neg last]
    exact if_neg (fun expired => last (one.1 expired))

theorem counter_ticks (m : Machine) (timer : Timer) (n : Nat) :
    ((m.ticks n).1.timers.counter timer).toNat = (m.timers.counter timer).toNat - n := by
  induction n generalizing m with
  | zero => rfl
  | succ n ih =>
    have first : (m.tick.1.timers.counter timer).toNat = (m.timers.counter timer).toNat - 1 :=
      m.timers.toNat_counter_tick timer
    show ((m.tick.1.ticks n).1.timers.counter timer).toNat = _
    rw [ih, first]
    omega

theorem events_ticks (m : Machine) (n : Nat) :
    (m.ticks n).2 = if 1 ≤ m.timers.sound.toNat ∧ m.timers.sound.toNat ≤ n
      then expiry m.listening m.cycles else #[] := by
  induction n generalizing m with
  | zero => rw [if_neg (by omega), ticks]
  | succ n ih =>
    have first : m.tick.1.timers.sound.toNat = m.timers.sound.toNat - 1 :=
      m.timers.toNat_counter_tick .sound
    show m.tick.2 ++ (m.tick.1.ticks n).2 = _
    rw [ih, events_tick, first]
    -- The end comes in the first tick, in a later one, or not at all.
    by_cases now : m.timers.sound.toNat = 1
    · rw [if_pos now, if_neg (by omega), if_pos (by omega), Array.append_empty]
    · rw [if_neg now, Array.empty_append]
      by_cases later : 2 ≤ m.timers.sound.toNat ∧ m.timers.sound.toNat ≤ n + 1
      · rw [if_pos (by omega), if_pos (by omega)]
        rfl
      · rw [if_neg (by omega), if_neg (by omega)]

/-! ## So many ticks later -/

/-- After `n` ticks, with these events on the way, `after` is as far as a timer goes. -/
structure Elapsed (kept : Prop) (timer : Timer) (m : Machine) (n : Nat) (events : Array Event)
    (after : Machine) : Prop where
  mode : after.tickPerCycle = m.tickPerCycle
  cycles : m.tickPerCycle = true → after.cycles = m.cycles + n
  listening : kept → after.listening = m.listening
  counter : (after.timers.counter timer).toNat = (m.timers.counter timer).toNat - n
  signals : timer = .sound → ∃ heard moment,
    events.filter Event.isSignal = (if 1 ≤ m.timers.sound.toNat ∧ m.timers.sound.toNat ≤ n
      then expiry heard moment else #[]) ∧
    (kept → heard = m.listening) ∧
    (m.tickPerCycle = true → moment = m.cycles + m.timers.sound.toNat)

namespace Elapsed

variable {kept : Prop} {n n' : Nat} {events events' : Array Event}

theorem of_same (counter : m'.timers.counter timer = m.timers.counter timer)
    (mode : m'.tickPerCycle = m.tickPerCycle)
    (cycles : m.tickPerCycle = true → m'.cycles = m.cycles)
    (listening : kept → m'.listening = m.listening)
    (quiet : events.filter Event.isSignal = #[]) : Elapsed kept timer m 0 events m' where
  mode := mode
  cycles := cycles
  listening := listening
  counter := congrArg UInt8.toNat counter
  signals _ := by
    refine ⟨m.listening, m.cycles + m.timers.sound.toNat, ?_, fun _ => rfl, fun _ => rfl⟩
    rw [quiet, if_neg (by omega)]

theorem refl (kept : Prop) (timer : Timer) (m : Machine) : Elapsed kept timer m 0 #[] m :=
  .of_same rfl rfl (fun _ => rfl) (fun _ => rfl) rfl

theorem trans (h : Elapsed kept timer m n events m') (h' : Elapsed kept timer m' n' events' m'') :
    Elapsed kept timer m (n + n') (events ++ events') m'' where
  mode := h'.mode.trans h.mode
  cycles on := by
    rw [h'.cycles (h.mode.trans on), h.cycles on]
    omega
  listening same := (h'.listening same).trans (h.listening same)
  counter := by
    rw [h'.counter, h.counter]
    omega
  signals sound := by
    subst sound
    obtain ⟨heard, moment, first, same, count⟩ := h.signals rfl
    obtain ⟨heard', moment', last, same', count'⟩ := h'.signals rfl
    have left : m'.timers.sound.toNat = m.timers.sound.toNat - n := h.counter
    rw [Array.filter_append Array.size_append, first, last, left]
    -- The end of the sound timer lies in one half only: after it the timer is zero.
    by_cases early : 1 ≤ m.timers.sound.toNat ∧ m.timers.sound.toNat ≤ n
    · refine ⟨heard, moment, ?_, same, count⟩
      rw [if_pos early, if_neg (by omega), if_pos (by omega), Array.append_empty]
    · rw [if_neg early, Array.empty_append]
      by_cases late : 1 ≤ m.timers.sound.toNat ∧ m.timers.sound.toNat ≤ n + n'
      · refine ⟨heard', moment', ?_, ?_, ?_⟩
        · rw [if_pos (by omega), if_pos late]
        · intro keeps
          rw [same' keeps, h.listening keeps]
        · intro on
          rw [count' (h.mode.trans on), h.cycles on, left]
          omega
      · refine ⟨heard, moment, ?_, same, count⟩
        rw [if_neg (by omega), if_neg late]

theorem count_expired (h : Elapsed kept .sound m n events m') :
    events.count .soundExpired =
      if 1 ≤ m.timers.sound.toNat ∧ m.timers.sound.toNat ≤ n then 1 else 0 := by
  obtain ⟨heard, moment, signals, -, -⟩ := h.signals rfl
  have signal : Event.isSignal .soundExpired = true := rfl
  rw [← Array.count_filter signal, signals]
  split
  · cases heard <;> rfl
  · rfl

theorem beeps_of_kept (h : Elapsed kept .sound m n events m') (keeps : kept) :
    ∃ moment, Event.beeps events =
        (if m.listening ∧ 1 ≤ m.timers.sound.toNat ∧ m.timers.sound.toNat ≤ n
          then [moment] else []) ∧
      (m.tickPerCycle = true → moment = m.cycles + m.timers.sound.toNat) := by
  obtain ⟨heard, moment, signals, same, count⟩ := h.signals rfl
  have told : Event.beeps (expiry m.listening moment) = if m.listening then [moment] else [] := by
    cases m.listening <;> rfl
  refine ⟨moment, ?_, count⟩
  rw [← Event.beeps_filter, signals, same keeps]
  by_cases expired : 1 ≤ m.timers.sound.toNat ∧ m.timers.sound.toNat ≤ n
  · rw [if_pos expired, told]
    simp only [expired, and_true]
  · rw [if_neg expired, if_neg (expired ∘ And.right)]
    rfl

theorem beeps_of_listening (h : Elapsed kept .sound m n events m') (keeps : kept)
    (listening : m.listening = true) :
    ∃ moment, Event.beeps events =
        (if 1 ≤ m.timers.sound.toNat ∧ m.timers.sound.toNat ≤ n then [moment] else []) ∧
      (m.tickPerCycle = true → moment = m.cycles + m.timers.sound.toNat) := by
  obtain ⟨moment, beeps, count⟩ := h.beeps_of_kept keeps
  refine ⟨moment, ?_, count⟩
  rw [beeps]
  simp only [listening, true_and]

end Elapsed

/-! ## Cycles -/

variable {kept : Prop}

theorem signals_execute (m : Machine) (ins : Instruction) (pc : Int) :
    (m.execute ins pc).events.filter Event.isSignal = #[] := by
  cases ins
  case awaitKey x =>
    show (m.awaitKey x pc).events.filter Event.isSignal = #[]
    cases m.waitEnds x pc
    all_goals
      rename_i ends
      rw [ends]
      rfl
  case ret | call | draw | storeDecimal | storeRegisters | loadRegisters =>
    simp only [execute]
    split <;> rfl
  all_goals rfl

theorem elapsed_execute {ins : Instruction} (quiet : ∀ x, ins ≠ timer.setter x) (pc : Int) :
    Elapsed kept timer m 0 (m.execute ins pc).events (m.execute ins pc).state := by
  have frame := execute_frame m ins pc
  refine .of_same ?_ frame.tickPerCycle (fun _ => frame.cycles) (fun _ => frame.listening)
    (m.signals_execute ins pc)
  cases timer with
  | delay => exact frame.delay quiet
  | sound => exact frame.sound quiet

theorem elapsed_complete (m : Machine) (next : UInt16) :
    Elapsed kept timer m (if m.tickPerCycle then 1 else 0) (m.complete next).events
      (m.complete next).state := by
  let counted : Machine :=
    { m with registers := { m.registers with pc := next }, cycles := m.cycles + 1 }
  by_cases mode : m.tickPerCycle = true
  · have complete : m.complete next = .done counted.tick.1 () counted.tick.2 := if_pos mode
    rw [complete, if_pos mode]
    -- The tick comes after the count, so a beep names the cycle as completed.
    refine ⟨rfl, fun _ => rfl, fun _ => rfl, m.timers.toNat_counter_tick timer, fun _ => ?_⟩
    refine ⟨m.listening, m.cycles + m.timers.sound.toNat, ?_, fun _ => rfl, fun _ => rfl⟩
    show counted.tick.2.filter Event.isSignal = _
    rw [events_tick]
    by_cases last : m.timers.sound.toNat = 1
    · rw [if_pos last, filter_expiry, if_pos (by omega), last]
    · rw [if_neg last, if_neg (by omega)]
      rfl
  · have complete : m.complete next = .done counted () #[] := if_neg mode
    rw [complete, if_neg mode]
    exact .of_same rfl rfl (fun on => absurd on mode) (fun _ => rfl) rfl

theorem elapsed_of_stopped {e : Error} (h : m.cycle.answer = .error e) :
    Elapsed kept timer m 0 m.cycle.events m.cycle.state := by
  rw [(cycle_state_of_error h).1]
  refine .of_same rfl rfl (fun _ => rfl) (fun _ => rfl) ?_
  rcases cycle_cases m with fetched | ⟨word, e', fetched, refused⟩ | ⟨word, next, fetched, done⟩
  · rw [cycle_of_not_fetched fetched]
    rfl
  · rw [cycle_of_refuses fetched refused]
    rfl
  · rw [cycle_of_attempt fetched done] at h
    exact absurd (h.symm.trans (complete_eq _ next).1) nofun

def cycleTicks (m : Machine) : Nat := if m.tickPerCycle ∧ m.cycle.answer = .ok () then 1 else 0

theorem cycleTicks_of_executed {ins : Instruction} (h : m.executed? = some ins) :
    m.cycleTicks = if m.tickPerCycle then 1 else 0 := by
  obtain ⟨word, completes, -⟩ := exists_completes_of_executed h
  simp [cycleTicks, completes.1]

theorem elapsed_of_executed {ins : Instruction} (h : m.executed? = some ins)
    (before : ∀ word, Elapsed kept timer m' 0
      ((m.fetch word).execute ins m.registers.pc.toNat).events
      ((m.fetch word).execute ins m.registers.pc.toNat).state) :
    Elapsed kept timer m' m.cycleTicks m.cycle.events m.cycle.state := by
  obtain ⟨word, next, -, cycle⟩ := cycle_of_executed h
  have mode := (execute_frame (m.fetch word) ins m.registers.pc.toNat).tickPerCycle
  have fetching : Elapsed kept timer m' 0 #[.executing m.registers.pc word] m' :=
    .of_same rfl rfl (fun _ => rfl) (fun _ => rfl) rfl
  have whole := (fetching.trans (before word)).trans (elapsed_complete _ next)
  rw [Nat.zero_add, mode] at whole
  rw [cycleTicks_of_executed h, cycle]
  exact whole

theorem elapsed_cycle (quiet : ∀ x, m.executed? ≠ some (timer.setter x)) :
    Elapsed kept timer m m.cycleTicks m.cycle.events m.cycle.state := by
  cases answer : m.cycle.answer with
  | error e =>
    have none : m.cycleTicks = 0 := by simp [cycleTicks, answer]
    rw [none]
    exact elapsed_of_stopped answer
  | ok =>
    obtain ⟨word, completes⟩ := exists_completes answer
    have executed := executed?_of_completes completes
    apply elapsed_of_executed executed
    intro word'
    have fetching : Elapsed kept timer m 0 #[] (m.fetch word') :=
      .of_same rfl rfl (fun _ => rfl) (fun _ => rfl) rfl
    have other (x : Register) : Instruction.ofWord word ≠ timer.setter x := by
      intro same
      exact quiet x (same ▸ executed)
    have carried : Elapsed kept timer (m.fetch word') 0
        ((m.fetch word').execute (.ofWord word) m.registers.pc.toNat).events
        ((m.fetch word').execute (.ofWord word) m.registers.pc.toNat).state :=
      elapsed_execute other m.registers.pc.toNat
    have through := fetching.trans carried
    rwa [Array.empty_append] at through

theorem elapsed_cycle_of_setter {x : Register} (h : m.executed? = some (timer.setter x)) :
    Elapsed kept timer { m with timers := m.timers.put (m.registers.value x) timer } m.cycleTicks
      m.cycle.events m.cycle.state := by
  apply elapsed_of_executed h
  intro word
  cases timer <;> exact .of_same rfl rfl (fun _ => rfl) (fun _ => rfl) rfl

/-! ## Sessions -/

namespace Operation

/-- A host sets or ticks the timers or changes when cycles tick them, or a program sets this one. -/
def Disturbs (timer : Timer) (op : Operation) (m : Machine) : Prop :=
  match op with
  | cycle => ∃ x, m.executed? = some (timer.setter x)
  | execute ins _ => ∃ x, ins = timer.setter x
  | tick | timers _ | reset _ | setTickPerCycle _ => True
  | _ => False

instance (timer : Timer) (op : Operation) (m : Machine) : Decidable (op.Disturbs timer m) := by
  unfold Disturbs
  split <;> infer_instance

def changesListener : Operation → Bool
  | listen _ => true
  | _ => false

def ticks (op : Operation) (m : Machine) : Nat :=
  match op with
  | cycle => m.cycleTicks
  | _ => 0

theorem elapsed_perform {op : Operation} (quiet : ¬ op.Disturbs timer m)
    (keeps : kept → op.changesListener = false) :
    Elapsed kept timer m (op.ticks m) (op.perform m).events (op.perform m).state := by
  cases op with
  | cycle => exact elapsed_cycle (not_exists.1 quiet)
  | execute ins pc => exact elapsed_execute (not_exists.1 quiet) pc
  | tick => exact absurd trivial quiet
  | timers => exact absurd trivial quiet
  | reset => exact absurd trivial quiet
  | setTickPerCycle => exact absurd trivial quiet
  | listen on => exact .of_same rfl rfl (fun _ => rfl) (fun same => absurd (keeps same) nofun) rfl
  | loadRom rom =>
    show Elapsed kept timer m 0 (m.loadRom rom).events (m.loadRom rom).state
    unfold Machine.loadRom
    split <;> exact .of_same rfl rfl (fun _ => rfl) (fun _ => rfl) rfl
  | _ => exact .of_same rfl rfl (fun _ => rfl) (fun _ => rfl) rfl

theorem completed_eq {op : Operation} (quiet : ¬ op.Disturbs timer m)
    (mode : m.tickPerCycle = true) (before : Nat) :
    op.completed m before = before + op.ticks m := by
  cases op with
  | cycle =>
    simp only [completed, ticks, cycleTicks, mode]
    split <;> simp_all
  | reset => exact absurd trivial quiet
  | _ => rfl

end Operation

end Machine
end Chip8
