import Chip8.Proofs.Emulator.Start
import Chip8.Proofs.Machine.CarriedOut

namespace Chip8

namespace Framebuffer

variable {width height : Nat} {before middle after : Framebuffer width height} {n k : Nat}

/-- So many drawings lead from one frame to the other. -/
inductive Drawn (before : Framebuffer width height) : Framebuffer width height → Nat → Prop where
  | nothing : Drawn before before 0
  | something {after : Framebuffer width height} {n : Nat} (positive : 0 < n)
      (dirty : after.dirty = true) : Drawn before after n

namespace Drawn

theorem trans (h : Drawn before middle n) (h' : Drawn middle after k) :
    Drawn before after (n + k) := by
  cases h' with
  | nothing => exact h
  | something positive dirty => exact .something (Nat.add_pos_right n positive) dirty

theorem dirty_iff (h : Drawn before after k) (start : before.dirty = true ↔ 0 < n) :
    after.dirty = true ↔ 0 < n + k := by
  cases h with
  | nothing => exact start
  | something positive dirty => exact iff_of_true dirty (Nat.add_pos_right n positive)

theorem dirty_of_pixel_ne (h : Drawn before after n) {x y : Int}
    (changed : after.pixel x y ≠ before.pixel x y) : after.dirty = true := by
  cases h with
  | nothing => exact absurd rfl changed
  | something positive dirty => exact dirty

end Drawn

/-! ## Sessions -/

section Sessions

variable {σ ι α : Type} {perform : ι → σ → Outcome σ α} {screen : σ → Framebuffer width height}
  {takesDown : ι → Bool} {drawings : ι → σ → Nat} {s : σ}

/-- The drawings since the mark was taken down, if there were so many before an operation. -/
def pending (takesDown : ι → Bool) (drawings : ι → σ → Nat) (op : ι) (s : σ) (before : Nat) : Nat :=
  if takesDown op then 0 else before + drawings op s

structure Marks (perform : ι → σ → Outcome σ α) (screen : σ → Framebuffer width height)
    (takesDown : ι → Bool) (drawings : ι → σ → Nat) : Prop where
  drawn : ∀ op s, takesDown op = false →
    (screen s).Drawn (screen (perform op s).state) (drawings op s)
  down : ∀ op s, takesDown op = true → (screen (perform op s).state).dirty = false

theorem Marks.dirty_final (marks : Marks perform screen takesDown drawings)
    (start : (screen s).dirty = false) (ops : List ι) :
    (screen (Session.final perform ops s)).dirty = true ↔
      0 < Session.tally perform (pending takesDown drawings) ops s 0 := by
  -- The mark is up at every moment just if the count is not zero.
  apply Session.tally_induction (R := fun s n => (screen s).dirty = true ↔ 0 < n)
  · rw [start]
    decide
  · intro op _ s n before
    unfold pending
    cases down : takesDown op with
    | true => simp [marks.down op s down]
    | false => exact (marks.drawn op s down).dirty_iff before

theorem Marks.dirty_of_pixel_ne (marks : Marks perform screen takesDown drawings) {ops : List ι}
    (kept : ∀ op ∈ ops, takesDown op = false) {x y : Int}
    (changed : (screen (Session.final perform ops s)).pixel x y ≠ (screen s).pixel x y) :
    (screen (Session.final perform ops s)).dirty = true := by
  have drawn : ∃ n, (screen s).Drawn (screen (Session.final perform ops s)) n := by
    apply Session.final_induction (fun s' => ∃ n, (screen s).Drawn (screen s') n) ⟨0, .nothing⟩
    rintro op member s' ⟨n, before⟩
    exact ⟨_, before.trans (marks.drawn op s' (kept op member))⟩
  obtain ⟨n, drawn⟩ := drawn
  exact drawn.dirty_of_pixel_ne changed

end Sessions

end Framebuffer

namespace Machine

variable {m : Machine}

namespace Operation

def takesDown : Operation → Bool
  | reset _ | screen .acknowledge => true
  | _ => false

/-- The drawings in an operation, by a program or by the host. -/
def drawings (op : Operation) (m : Machine) : Nat :=
  match op with
  | screen (.draw _ _ _) | screen .clear => 1
  | op => op.carries Instruction.draws m

theorem drawn_of_carries {op : Operation} (kept : op.isReset = false)
    (quiet : op.usesScreen = false) (m : Machine) :
    m.screen.Drawn (op.perform m).state.screen (op.carries Instruction.draws m) := by
  rcases carries_cases Instruction.draws op m with none | ⟨one, ins, carried, draws⟩
  · rw [screen_of_others none kept quiet, none]
    exact .nothing
  · rw [one]
    exact .something Nat.one_pos (dirty_of_carriedOut carried draws)

theorem marks : Framebuffer.Marks perform Machine.screen takesDown drawings where
  drawn op m kept := by
    cases op with
    | screen op =>
      cases op with
      | draw | clear => exact .something Nat.one_pos rfl
      | pixel => exact .nothing
      | acknowledge => cases kept
    | reset => cases kept
    | _ => exact drawn_of_carries rfl rfl m
  down op m down := by
    cases op with
    | screen op =>
      cases op with
      | acknowledge => rfl
      | _ => cases down
    | reset => rfl
    | _ => cases down

end Operation
end Machine

namespace Emulator

theorem drawn_cycle (emulator : Emulator) :
    emulator.machine.screen.Drawn emulator.cycle.state.machine.screen
      (emulator.cycleCarries Instruction.draws) := by
  obtain ⟨timers, eq⟩ := emulator.machine_cycle_eq
  rw [eq]
  exact Machine.Operation.marks.drawn .cycle emulator.machine rfl

namespace Operation

def takesDown : Operation → Bool
  | machine op => op.takesDown
  | reset _ => true
  | _ => false

def drawings (op : Operation) (emulator : Emulator) : Nat :=
  match op with
  | machine op => op.drawings emulator.machine
  | op => op.carries Instruction.draws emulator

theorem drawn_run (emulator : Emulator) (count : Int) :
    emulator.machine.screen.Drawn (emulator.run count).state.machine.screen
      ((run count).drawings emulator) := by
  have whole : emulator.machine.screen.Drawn (emulator.run count).state.machine.screen
      (0 + (run count).carries Instruction.draws emulator) :=
    carries_run_induction (R := fun e n => emulator.machine.screen.Drawn e.machine.screen n)
      .nothing (fun e n before => before.trans e.drawn_cycle) count
  rwa [Nat.zero_add] at whole

theorem marks : Framebuffer.Marks perform (·.machine.screen) takesDown drawings where
  drawn op emulator kept := by
    cases op with
    | machine op => exact Machine.Operation.marks.drawn op emulator.machine kept
    | cycle => exact emulator.drawn_cycle
    | run count => exact drawn_run emulator count
    | loadRomFile files path =>
      obtain ⟨memory, eq⟩ := emulator.state_loadRomFile files path
      have same : (emulator.loadRomFile files path).state.machine.screen =
          emulator.machine.screen := congrArg (fun e => e.machine.screen) eq
      show emulator.machine.screen.Drawn (emulator.loadRomFile files path).state.machine.screen 0
      rw [same]
      exact .nothing
    | reset => cases kept
    | setClock => exact .nothing
  down op emulator down := by
    cases op with
    | machine op => exact Machine.Operation.marks.down op emulator.machine down
    | reset => rfl
    | _ => cases down

end Operation
end Emulator

open Framebuffer in
/-- The mark is up if and only if something was drawn since it was taken down last. -/
theorem mark_misses_no_change :
    (∀ (m : Machine) (ops : List Machine.Operation), m.screen.dirty = false →
      ((Session.final Machine.Operation.perform ops m).screen.dirty = true ↔
        0 < Session.tally Machine.Operation.perform
          (pending Machine.Operation.takesDown Machine.Operation.drawings) ops m 0)) ∧
    (∀ (emulator : Emulator) (ops : List Emulator.Operation),
      emulator.machine.screen.dirty = false →
      ((Session.final Emulator.Operation.perform ops emulator).machine.screen.dirty = true ↔
        0 < Session.tally Emulator.Operation.perform
          (pending Emulator.Operation.takesDown Emulator.Operation.drawings) ops emulator 0)) ∧
    (∀ (m : Machine) (ops : List Machine.Operation), (∀ op ∈ ops, op.takesDown = false) →
      let after := Session.final Machine.Operation.perform ops m
      ∀ x y, after.screen.pixel x y ≠ m.screen.pixel x y → after.screen.dirty = true) ∧
    (∀ (emulator : Emulator) (ops : List Emulator.Operation),
      (∀ op ∈ ops, op.takesDown = false) →
      let after := (Session.final Emulator.Operation.perform ops emulator).machine
      ∀ x y, after.screen.pixel x y ≠ emulator.machine.screen.pixel x y →
        after.screen.dirty = true) ∧
    (∀ random, (Machine.initial random).screen.dirty = false) ∧
    (∀ (config : Config) (random : Option RandomSource) (keySource : Option KeySource)
        (clock : Clock) (files : Files Id) (emulator : Emulator) (events : Array Event),
      Emulator.start config random keySource clock files = (.ok emulator, events) →
      emulator.machine.screen.dirty = false) ∧
    (∀ (emulator : Emulator) (e : Error), emulator.machine.cycle.answer = .error e →
      emulator.machine.cycle.state.screen = emulator.machine.screen ∧
      emulator.cycle.state.machine.screen = emulator.machine.screen) := by
  refine ⟨?_, ?_, ?_, ?_, fun _ => rfl, ?_, ?_⟩
  · intro m ops down
    exact Machine.Operation.marks.dirty_final down ops
  · intro emulator ops down
    exact Emulator.Operation.marks.dirty_final down ops
  · intro m ops kept after x y changed
    exact Machine.Operation.marks.dirty_of_pixel_ne kept changed
  · intro emulator ops kept after x y changed
    exact Emulator.Operation.marks.dirty_of_pixel_ne kept changed
  · intro config random keySource clock files emulator events started
    obtain ⟨memory, pace, -, -, rfl⟩ := Emulator.eq_of_start started
    rfl
  · intro emulator e stopped
    have kept : emulator.machine.cycle.state.screen = emulator.machine.screen := by
      rw [(Machine.cycle_state_of_error stopped).1]
      rfl
    rw [Emulator.cycle_of_machine_error stopped]
    exact ⟨kept, kept⟩

theorem mark_misses_no_change_corner :
    let m := Machine.loaded [0xA2, 0x00, 0xD0, 0x01, 0x00, 0xEE]
    let emulator : Emulator := { Emulator.usual with machine := m }
    let draws : List Machine.Operation := [.cycle, .keypad (.press 1), .cycle, .cycle]
    let drawn := Session.final Machine.Operation.perform draws m
    let taken := Session.final Machine.Operation.perform (draws ++ [.screen .acknowledge]) m
    let run := Session.final Emulator.Operation.perform [.run 3] emulator
    let reset := Session.final Emulator.Operation.perform [.run 3, .reset false] emulator
    drawn.screen.pixel 0 0 ≠ m.screen.pixel 0 0 ∧ drawn.screen.dirty = true ∧
      ¬ taken.screen.dirty = true ∧ run.machine.screen.dirty = true ∧
      ¬ reset.machine.screen.dirty = true ∧ Emulator.usual.machine.screen.dirty = false ∧
      run.machine.cycle.answer ≠ .ok () ∧ run.machine.cycle.state.screen = run.machine.screen := by
  intro m emulator draws drawn taken run reset
  obtain ⟨marked, marked', changes, changes', -, started, stopped⟩ := mark_misses_no_change
  have changed : drawn.screen.pixel 0 0 ≠ m.screen.pixel 0 0 := by decide +kernel
  have up := changes m draws (by simp [draws, Machine.Operation.takesDown]) 0 0 changed
  have down := (marked m (draws ++ [.screen .acknowledge]) rfl).not.2 (by decide +kernel)
  have changed' : run.machine.screen.pixel 0 0 ≠ emulator.machine.screen.pixel 0 0 := by
    decide +kernel
  have up' := changes' emulator [.run 3] (by simp [Emulator.Operation.takesDown]) 0 0 changed'
  have down' := (marked' emulator [.run 3, .reset false] rfl).not.2 (by decide +kernel)
  have error : run.machine.cycle.answer =
      .error (.fault (Fault.returnFromEmpty.locate (some 0x204) (some 0x00EE))) := by
    decide +kernel
  have new := started _ _ _ _ _ _ _ Emulator.start_usual
  refine ⟨changed, up, down, up', down', new, ?_, (stopped run _ error).1⟩
  rw [error]
  exact nofun

end Chip8
