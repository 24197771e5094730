import Chip8.Proofs.Machine.Atomicity
import Chip8.Proofs.Outcome.Lockstep

namespace Chip8

inductive Hidden where
  | timers
  | random
  | keys
deriving DecidableEq, Repr

def Hidden.shows : Hidden → Event → Bool
  | timers, .soundExpired | timers, .beep _ => false
  | _, _ => true

def Instruction.reads : Instruction → Hidden → Bool
  | readDelay _, .timers => true
  | random _ _, .random => true
  | skipPressed _, .keys | skipReleased _, .keys | awaitKey _, .keys => true
  | _, _ => false

namespace Machine

variable {hidden : Hidden} {m m' : Machine} {word : UInt16}

def conceal (hidden : Hidden) (m : Machine) : Machine :=
  match hidden with
  | .timers => { m with timers := .stopped }
  | .random => { m with random := .stream (fun _ => 0) 0 }
  | .keys => { m with keypad := .released, keySource := none }

abbrev Alike {α : Type} (hidden : Hidden) (o o' : Outcome Machine α) : Prop :=
  o.Alike (conceal hidden) hidden.shows o'

theorem execute_conceal {ins : Instruction} (unread : ins.reads hidden = false) (m : Machine)
    (pc : Int) : Alike hidden (m.execute ins pc) ((m.conceal hidden).execute ins pc) := by
  -- What an instruction branches on is not hidden, so both machines take the same branch.
  cases ins
  case ret | call | draw | storeDecimal | storeRegisters | loadRegisters =>
    cases hidden
    all_goals
      simp only [execute, conceal]
      split <;> exact ⟨rfl, rfl, rfl⟩
  case awaitKey =>
    cases hidden
    case keys => cases unread
    all_goals
      simp only [execute, awaitKey, conceal]
      split
      · exact ⟨rfl, rfl, rfl⟩
      · exact ⟨rfl, rfl, rfl⟩
      · split <;> exact ⟨rfl, rfl, rfl⟩
  case readDelay =>
    cases hidden with
    | timers => cases unread
    | _ => exact ⟨rfl, rfl, rfl⟩
  case random =>
    cases hidden with
    | random => cases unread
    | _ => exact ⟨rfl, rfl, rfl⟩
  case skipPressed | skipReleased =>
    cases hidden with
    | keys => cases unread
    | _ => exact ⟨rfl, rfl, rfl⟩
  all_goals
    cases hidden
    all_goals exact ⟨rfl, rfl, rfl⟩

theorem shown_tick (m : Machine) : m.tick.2.filter Hidden.timers.shows = #[] := by
  simp only [tick]
  split
  · split <;> rfl
  · rfl

theorem shown_ticks (m : Machine) (count : Nat) :
    (m.ticks count).2.filter Hidden.timers.shows = #[] := by
  induction count generalizing m with
  | zero => rfl
  | succ count ih =>
    show (m.tick.2 ++ (m.tick.1.ticks count).2).filter Hidden.timers.shows = #[]
    rw [Array.filter_append Array.size_append, shown_tick, ih, Array.append_empty]

theorem conceal_conceal (m : Machine) (hidden : Hidden) :
    (m.conceal hidden).conceal hidden = m.conceal hidden := by
  cases hidden <;> rfl

theorem tick_conceal (m : Machine) (hidden : Hidden) :
    Alike hidden (.done m.tick.1 () m.tick.2)
      (.done (m.conceal hidden).tick.1 () (m.conceal hidden).tick.2) := by
  cases hidden with
  | timers => exact ⟨rfl, rfl, (shown_tick _).trans (shown_tick m).symm⟩
  | _ => exact ⟨rfl, rfl, rfl⟩

def elapse (m : Machine) (count : Nat) : Outcome Machine Unit :=
  .done (m.ticks count).1 () (m.ticks count).2

theorem elapse_conceal (m : Machine) (hidden : Hidden) (count : Nat) :
    Alike hidden (m.elapse count) ((m.conceal hidden).elapse count) := by
  induction count generalizing m with
  | zero => exact ⟨rfl, m.conceal_conceal hidden, rfl⟩
  | succ count ih =>
    have first := m.tick_conceal hidden
    have rest := Outcome.Alike.of_view (f := (elapse · count)) (ih m.tick.1)
      (ih (m.conceal hidden).tick.1) first.state
    exact ⟨rfl, rest.state, Outcome.shown_append first.events rest.events⟩

theorem complete_conceal (m : Machine) (hidden : Hidden) (next : UInt16) :
    Alike hidden (m.complete next) ((m.conceal hidden).complete next) := by
  have ticked := tick_conceal
    { m with registers := { m.registers with pc := next }, cycles := m.cycles + 1 } hidden
  have same : (m.conceal hidden).tickPerCycle = m.tickPerCycle := by cases hidden <;> rfl
  dsimp only [complete]
  by_cases ticking : m.tickPerCycle = true
  · rw [if_pos ticking, if_pos (same.trans ticking)]
    cases hidden <;> exact ticked
  · rw [if_neg ticking, if_neg (same.trans_ne ticking)]
    cases hidden <;> exact ⟨rfl, rfl, rfl⟩

theorem complete_alike (same : m'.conceal hidden = m.conceal hidden) (next : UInt16) :
    Alike hidden (m.complete next) (m'.complete next) :=
  .of_view (f := (complete · next)) (m.complete_conceal hidden next)
    (m'.complete_conceal hidden next) same

/-- The next cycle carries out no instruction that reads the hidden part. -/
def Unread (m : Machine) (hidden : Hidden) : Prop :=
  ∀ word, m.fetched? = some word → ∀ ins : Instruction, ins.Fits word → ins.reads hidden = false

theorem unread_iff : m.Unread hidden ↔
    ∀ word, m.fetched? = some word → (Instruction.ofWord word).reads hidden = false := by
  constructor
  · intro h word fetched
    rcases Instruction.ofWord_fits word with unknown | fits
    · rw [unknown]
      rfl
    · exact h word fetched _ fits
  · intro h word fetched ins fits
    rw [← Instruction.ofWord_of_fits fits]
    exact h word fetched

theorem unread_of_fetched (fetched : m.fetched? = some word)
    (h : (Instruction.ofWord word).reads hidden = false) : m.Unread hidden := by
  rw [unread_iff]
  intro word' fetched'
  cases fetched.symm.trans fetched'
  exact h

theorem fetched?_conceal (m : Machine) (hidden : Hidden) :
    (m.conceal hidden).fetched? = m.fetched? := by
  cases hidden <;> rfl

theorem Unread.of_same (h : m.Unread hidden) (same : m'.conceal hidden = m.conceal hidden) :
    m'.Unread hidden := by
  unfold Unread
  rw [← m'.fetched?_conceal hidden, same, fetched?_conceal]
  exact h

theorem cycle_conceal (h : m.Unread hidden) :
    Alike hidden m.cycle (m.conceal hidden).cycle := by
  have pc : (m.conceal hidden).registers.pc = m.registers.pc := by cases hidden <;> rfl
  have fetch := m.fetched?_conceal hidden
  cases fetched : m.fetched? with
  | none =>
    rw [cycle_of_not_fetched fetched, cycle_of_not_fetched (fetch.trans fetched), pc]
    exact ⟨rfl, m.conceal_conceal hidden, rfl⟩
  | some word =>
    have fetched' := fetch.trans fetched
    have attempts : Alike hidden (m.attempt word) ((m.conceal hidden).attempt word) := by
      have unread := unread_iff.1 h word fetched
      have alike := execute_conceal unread (m.fetch word) m.registers.pc.toNat
      cases hidden <;> exact alike
    cases answer : (m.attempt word).answer with
    | error e =>
      have answer' := attempts.answer.trans answer
      rw [cycle_of_attempt_error fetched answer, cycle_of_attempt_error fetched' answer', pc]
      exact ⟨rfl, attempts.state, Outcome.shown_append rfl attempts.events⟩
    | ok next =>
      have answer' := attempts.answer.trans answer
      rw [cycle_of_attempt fetched answer, cycle_of_attempt fetched' answer', pc]
      exact (complete_alike attempts.state next).after (Outcome.shown_append rfl attempts.events)

theorem cycle_alike (same : m'.conceal hidden = m.conceal hidden) (h : m.Unread hidden) :
    Alike hidden m.cycle m'.cycle :=
  .of_view (cycle_conceal h) (cycle_conceal (h.of_same same)) same

theorem random_cycle (h : m.Unread .random) : m.cycle.state.random = m.random := by
  refine cycle_induction (P := fun after => after.random = m.random) (fun _ => rfl) ?_
  intro word pc timers cycles completes
  have unread := unread_iff.1 h word completes.2
  apply (attempt_frame m word).random
  intro x nn drawn
  rw [drawn] at unread
  cases unread

end Machine
end Chip8
