import Chip8.Proofs.Headless.Runs
import Chip8.Proofs.Keypad.Latch
import Chip8.Proofs.Machine.KeyWait
import Mathlib.Logic.Relation
import Mathlib.Order.Bounds.Defs

namespace Chip8.Headless.Invocation

variable {σ : Type} {inv : Invocation} {sys : System σ} {disk : σ} {clock : Clock} {path : Path}
  {rom : List UInt8} {held : List Key} {key : Key} {start : Emulator}

/-! ## The keys of an invocation -/

def Accepted (inv : Invocation) : Prop :=
  (∀ text ∈ inv.keys, ∃ key, Key.ofNumeral text = .ok key) ∧
    ∀ name ∈ inv.hostKeys, ∃ key, Key.ofHostName name = .ok key

def Denotes (inv : Invocation) (key : Key) : Prop :=
  (∃ text ∈ inv.keys, Key.ofNumeral text = .ok key) ∨
    ∃ name ∈ inv.hostKeys, Key.ofHostName name = .ok key

theorem mem_of_holds (holds : inv.Holds held) : key ∈ held ↔ inv.Denotes key := by
  have shown : key ∈ held ↔ .ok key ∈ inv.readings.map Prod.snd := by
    rw [holds]
    simp
  rw [shown]
  simp only [readings, List.map_append, List.map_map, List.mem_append, List.mem_map, Denotes]
  rfl

theorem exists_holds (accepted : inv.Accepted) : ∃ held, inv.Holds held := by
  refine inv.holds_or_rejectsFirst.resolve_right ?_
  rintro ⟨text, cause, before, after, split, -⟩
  have mem : (text, .error (.badKey cause)) ∈ inv.readings := split ▸ List.mem_append_cons_self
  rcases List.mem_append.1 mem with numeral | name
  · obtain ⟨text, asked, same⟩ := List.mem_map.1 numeral
    obtain ⟨key, read⟩ := accepted.1 text asked
    cases read.symm.trans (Prod.mk.inj same).2
  · obtain ⟨name, asked, same⟩ := List.mem_map.1 name
    obtain ⟨key, read⟩ := accepted.2 name asked
    cases read.symm.trans (Prod.mk.inj same).2

theorem holds_of_heldKeys (keys : inv.heldKeys = .ok held) : inv.Holds held := by
  rcases inv.holds_or_rejectsFirst with ⟨held', holds⟩ | ⟨text, cause, rejects⟩
  · cases (heldKeys_of_holds holds).symm.trans keys
    exact holds
  · cases (heldKeys_of_rejectsFirst rejects).symm.trans keys

/-! ## During a run -/

/-- A run of this invocation begins its first cycle with this emulator. -/
def Begins (inv : Invocation) (sys : System σ) (disk : σ) (clock : Clock) (start : Emulator) :
    Prop :=
  inv.version = false ∧ ∃ path held emulator,
    inv.checked sys disk = .ok path ∧ inv.heldKeys = .ok held ∧
    Emulator.create inv.config none none clock = .ok emulator ∧
    let loaded := emulator.loadRomFile (sys.files disk) path
    loaded.answer = .ok () ∧ start = (inv.hold path held loaded.state).state

theorem exists_begins (proper : inv.version = false) (accepted : inv.Accepted)
    (checked : inv.checked sys disk = .ok path)
    (read : ((sys.files disk).readRom path).run = .ok rom)
    (fits : rom.length ≤ Memory.romCapacity) (clock : Clock) :
    ∃ start, inv.Begins sys disk clock start := by
  obtain ⟨held, holds⟩ := exists_holds accepted
  refine ⟨_, proper, path, held, _, checked, heldKeys_of_holds holds, create_eq inv clock, ?_, rfl⟩
  rw [Emulator.loadRomFile, read, Emulator.loadRomRead_of_fits fits]
  rfl

theorem played_of_loaded {loaded : Outcome Emulator Unit} (through : loaded.answer = .ok ()) :
    inv.played path held loaded = ((inv.hold path held loaded.state).state.run inv.cycles).after
      (loaded.events ++ #[.running path.name inv.cycles.toNat]) := by
  simp only [played, Outcome.andThen, through]
  rfl

theorem ran_of_begins (begins : inv.Begins sys disk clock start) :
    ∃ events,
      let o := (start.run inv.cycles).after events
      inv.ran sys ⟨disk, clock⟩ =
        (.ok (inv.reported sys o disk).1, ⟨(inv.reported sys o disk).2, o.state.clock⟩) := by
  obtain ⟨proper, path, held, emulator, checked, keys, created, loaded, rfl⟩ := begins
  cases (create_eq inv clock).symm.trans created
  have ran := ran_of_heldKeys proper checked keys clock
  rw [played_of_loaded loaded] at ran
  exact ⟨_, ran⟩

theorem latched_of_create {emulator : Emulator}
    (created : Emulator.create inv.config none none clock = .ok emulator) :
    emulator.machine.Latched .released := by
  cases (create_eq inv clock).symm.trans created
  exact ⟨rfl, rfl⟩

theorem latched_of_begins (begins : inv.Begins sys disk clock start) :
    ∃ held, inv.Holds held ∧ start.machine.Latched (held.foldl Keypad.press .released) := by
  obtain ⟨-, path, held, emulator, -, keys, created, -, rfl⟩ := begins
  obtain ⟨alone, up⟩ := latched_of_create created
  obtain ⟨memory, loaded⟩ := emulator.state_loadRomFile (sys.files disk) path
  refine ⟨held, holds_of_heldKeys keys, ?_⟩
  rw [loaded, hold]
  show (held.foldl Machine.press { emulator.machine with memory }).Latched _
  rw [foldl_press_eq, ← up]
  exact ⟨alone, rfl⟩

end Chip8.Headless.Invocation

namespace Chip8.Emulator

theorem latched_run {emulator : Emulator} {pad : Keypad} (h : emulator.machine.Latched pad)
    (count : Int) : (emulator.run count).state.machine.Latched pad := by
  refine run_induction (fun e => e.machine.Latched pad) h (fun e latched => ?_) count
  obtain ⟨timers, same⟩ := e.machine_cycle_eq
  rw [same]
  exact latched.cycle

end Chip8.Emulator

namespace Chip8.Headless.Invocation

variable {σ : Type} {inv : Invocation} {sys : System σ} {disk : σ} {clock : Clock} {path : Path}
  {rom : List UInt8} {held : List Key} {key : Key} {start : Emulator}

theorem isDown_of_begins (begins : inv.Begins sys disk clock start) (count : Int) (key : Key) :
    (start.run count).state.machine.keypad.isDown key = true ↔ inv.Denotes key := by
  obtain ⟨held, holds, latched⟩ := latched_of_begins begins
  rw [(Emulator.latched_run latched count).2, Keypad.isDown_foldl_press, Keypad.isDown_released,
    mem_of_holds holds]
  simp

/-! ## Waiting -/

theorem first_of_begins (begins : inv.Begins sys disk clock start) (count : Int)
    (least : IsLeast {key | inv.Denotes key} key) :
    (start.run count).state.machine.keypad.first? = some key := by
  refine Keypad.first?_eq_some_iff.2 ⟨(isDown_of_begins begins count key).2 least.1, ?_⟩
  intro lower below
  rw [Bool.eq_false_iff]
  intro down
  exact absurd (least.2 ((isDown_of_begins begins count lower).1 down)) (not_le_of_gt below)

theorem exists_least (given : inv.Denotes key) :
    ∃ least, IsLeast {key | inv.Denotes key} least := by
  obtain ⟨least, denoted, lowest⟩ := wellFounded_lt.has_min {key | inv.Denotes key} ⟨key, given⟩
  exact ⟨least, denoted, fun other given => not_lt.1 (lowest other given)⟩

theorem stores_least (begins : inv.Begins sys disk clock start)
    (least : IsLeast {key | inv.Denotes key} key) {k : Nat} {word : UInt16} {x : Register}
    (through : (start.run k).answer = .ok ())
    (fetched : (start.run k).state.machine.fetched? = some word)
    (fits : (Instruction.awaitKey x).Fits word) :
    let before := (start.run k).state.machine
    let after := (start.run (k + 1 : Nat)).state.machine
    before.cycle.answer = .ok () ∧ after.registers.pc.toNat = before.registers.pc.toNat + 2 ∧
      (after.registers.value x).toNat = key.val := by
  intro before after
  obtain ⟨answer, taken⟩ := Machine.cycle_of_down fetched fits (first_of_begins begins k least)
  have same : after.registers = ((before.spend word 1).take x key).registers := by
    obtain ⟨timers, cycled⟩ := (start.run k).state.machine_cycle_eq
    have state : after = (start.run k).state.cycle.state.machine :=
      congrArg (fun o => o.state.machine) (Emulator.run_succ_of_ok through)
    rw [state, cycled, taken]
  rw [same]
  exact ⟨answer, Machine.toNat_pc_add_two fetched, Machine.toNat_value_take _ x key⟩

/-! ## The same keys -/

def withKeys (inv : Invocation) (keys hostKeys : List String) : Invocation :=
  { inv with keys, hostKeys }

variable {keys hostKeys : List String} {held' : List Key}

theorem hold_congr (same : ∀ key, key ∈ held ↔ key ∈ held') :
    inv.hold path held = inv.hold path held' := by
  funext emulator
  rw [hold, hold, foldl_press_eq, foldl_press_eq, Keypad.foldl_press_congr same]

section Hosted

variable {m : Type → Type} [Monad m] {host : Host m}

theorem runRom_withKeys (holds : inv.Holds held) (holds' : (inv.withKeys keys hostKeys).Holds held')
    (same : ∀ key, key ∈ held' ↔ key ∈ held) :
    (inv.withKeys keys hostKeys).runRom host path = inv.runRom host path := by
  have config : (inv.withKeys keys hostKeys).config = inv.config := rfl
  have hold : (inv.withKeys keys hostKeys).hold path held' = inv.hold path held := hold_congr same
  have play (loaded : Outcome Emulator Unit) :
      (inv.withKeys keys hostKeys).play host path held' loaded =
        inv.play host path held loaded := by
    unfold Invocation.play
    rw [hold]
    rfl
  unfold runRom
  rw [heldKeys_of_holds holds, heldKeys_of_holds holds', config]
  simp only [play]
  rfl

theorem run_withKeys (accepted : inv.Accepted) (accepted' : (inv.withKeys keys hostKeys).Accepted)
    (same : ∀ key, (inv.withKeys keys hostKeys).Denotes key ↔ inv.Denotes key) :
    (inv.withKeys keys hostKeys).run host = inv.run host := by
  obtain ⟨held, holds⟩ := exists_holds accepted
  obtain ⟨held', holds'⟩ := exists_holds accepted'
  have members (key : Key) : key ∈ held' ↔ key ∈ held := by
    rw [mem_of_holds holds, mem_of_holds holds', same]
  have runRom (path : Path) :
      (inv.withKeys keys hostKeys).runRom host path = inv.runRom host path :=
    runRom_withKeys holds holds' members
  unfold Invocation.run
  simp only [runRom]
  rfl

end Hosted

/-- Ways of asking for the same keys: in another order, again, or for a named key by its number. -/
inductive Rearranges : Invocation → Invocation → Prop
  | permute {inv : Invocation} {keys hostKeys : List String} :
      inv.keys.Perm keys → inv.hostKeys.Perm hostKeys → Rearranges inv (inv.withKeys keys hostKeys)
  | again {inv : Invocation} {text : String} :
      text ∈ inv.keys → Rearranges inv (inv.withKeys (text :: inv.keys) inv.hostKeys)
  | againByName {inv : Invocation} {name : String} :
      name ∈ inv.hostKeys → Rearranges inv (inv.withKeys inv.keys (name :: inv.hostKeys))
  | byNumber {inv : Invocation} {before after : List String} {name numeral : String} {key : Key} :
      inv.hostKeys = before ++ name :: after → Key.ofHostName name = .ok key →
      Key.ofNumeral numeral = .ok key →
      Rearranges inv (inv.withKeys (numeral :: inv.keys) (before ++ after))

def SameKeys (inv inv' : Invocation) : Prop :=
  inv'.Accepted ∧ ∀ key, inv'.Denotes key ↔ inv.Denotes key

theorem sameKeys_of_mem_iff (accepted : inv.Accepted)
    (numerals : ∀ text, text ∈ keys ↔ text ∈ inv.keys)
    (names : ∀ name, name ∈ hostKeys ↔ name ∈ inv.hostKeys) :
    inv.SameKeys (inv.withKeys keys hostKeys) := by
  refine ⟨⟨fun text asked => accepted.1 text ((numerals text).1 asked),
    fun name asked => accepted.2 name ((names name).1 asked)⟩, fun key => ?_⟩
  simp only [Denotes, withKeys, numerals, names]

theorem sameKeys_of_byNumber {before after : List String} {name numeral : String}
    (accepted : inv.Accepted) (split : inv.hostKeys = before ++ name :: after)
    (named : Key.ofHostName name = .ok key) (numbered : Key.ofNumeral numeral = .ok key) :
    inv.SameKeys (inv.withKeys (numeral :: inv.keys) (before ++ after)) := by
  have kept : ∀ other ∈ before ++ after, other ∈ inv.hostKeys := by
    intro other asked
    rw [split]
    exact List.mem_append.2 ((List.mem_append.1 asked).imp_right (List.mem_cons_of_mem name))
  constructor
  · refine ⟨?_, fun other asked => accepted.2 other (kept other asked)⟩
    intro text asked
    rcases List.mem_cons.1 asked with rfl | asked
    · exact ⟨key, numbered⟩
    · exact accepted.1 text asked
  · intro other
    have read : Key.ofNumeral numeral = Key.ofHostName name := numbered.trans named.symm
    simp only [Denotes, withKeys, split, List.mem_append, List.mem_cons, or_and_right, exists_or,
      exists_eq_left, read, or_assoc, or_left_comm]

theorem Rearranges.sameKeys {inv inv' : Invocation} (rearranges : Rearranges inv inv')
    (accepted : inv.Accepted) : inv.SameKeys inv' := by
  have repeated {text : String} {texts : List String} (asked : text ∈ texts) (other : String) :
      other ∈ text :: texts ↔ other ∈ texts :=
    List.mem_cons.trans (or_iff_right_of_imp fun same => same ▸ asked)
  cases rearranges with
  | permute numerals names =>
    exact sameKeys_of_mem_iff accepted (fun _ => numerals.mem_iff.symm) fun _ => names.mem_iff.symm
  | again asked => exact sameKeys_of_mem_iff accepted (repeated asked) fun _ => Iff.rfl
  | againByName asked => exact sameKeys_of_mem_iff accepted (fun _ => Iff.rfl) (repeated asked)
  | byNumber split named numbered => exact sameKeys_of_byNumber accepted split named numbered

theorem Rearranges.fixedRate_eq {inv inv' : Invocation} (rearranges : Rearranges inv inv') :
    inv'.fixedRate = inv.fixedRate := by
  cases rearranges <;> rfl

theorem Rearranges.run_eq {m : Type → Type} [Monad m] {inv inv' : Invocation}
    (rearranges : Rearranges inv inv') (accepted : inv.Accepted) (host : Host m) :
    inv'.run host = inv.run host := by
  obtain ⟨accepted', same⟩ := rearranges.sameKeys accepted
  cases rearranges <;> exact run_withKeys accepted accepted' same

theorem run_of_rearranged {m : Type → Type} [Monad m] {inv' : Invocation}
    (accepted : inv.Accepted) (rearranged : Relation.ReflTransGen Rearranges inv inv')
    (host : Host m) :
    inv'.Accepted ∧ inv'.run host = inv.run host ∧ inv'.fixedRate = inv.fixedRate := by
  induction rearranged with
  | refl => exact ⟨accepted, rfl, rfl⟩
  | tail _ last ih =>
    obtain ⟨accepted', run, rate⟩ := ih
    exact ⟨(last.sameKeys accepted').1, (last.run_eq accepted' host).trans run,
      last.fixedRate_eq.trans rate⟩

theorem effect_of_rearranged {inv' : Invocation} {clock' : Clock} (accepted : inv.Accepted)
    (rearranged : Relation.ReflTransGen Rearranges inv inv')
    (timed : inv.fixedRate = false ∨ clock' = clock) :
    inv'.effect sys ⟨disk, clock'⟩ = inv.effect sys ⟨disk, clock⟩ := by
  obtain ⟨-, run, rate⟩ := run_of_rearranged accepted rearranged sys.host
  have same : inv'.effect sys ⟨disk, clock⟩ = inv.effect sys ⟨disk, clock⟩ := by
    unfold effect ran
    rw [run]
  -- Where cycles tick the timers, the clock is read nowhere.
  rcases timed with perCycle | rfl
  · exact (effect_of_perCycle (rate.trans perCycle) clock clock').trans same
  · exact same

theorem numeral_of_key (key : Key) : Key.ofNumeral (Hex.padded 1 key.val) = .ok key := by
  revert key
  decide +kernel

/-- The keys that are asked for are down at every cycle, and no others. -/
theorem held_keys_stay_down (inv : Invocation) (sys : System σ) (disk : σ) (clock : Clock) :
    (∀ path rom, inv.version = false → inv.Accepted → inv.checked sys disk = .ok path →
      ((sys.files disk).readRom path).run = .ok rom → rom.length ≤ 3584 →
      ∃ start, inv.Begins sys disk clock start) ∧
    (∀ start, inv.Begins sys disk clock start →
      (∃ events,
        let o := (start.run inv.cycles).after events
        inv.ran sys ⟨disk, clock⟩ =
          (.ok (inv.reported sys o disk).1, ⟨(inv.reported sys o disk).2, o.state.clock⟩)) ∧
      (∀ (k : Nat) key,
        (start.run k).state.machine.keypad.isDown key = true ↔ inv.Denotes key) ∧
      ∀ given, inv.Denotes given → ∃ key, IsLeast {key | inv.Denotes key} key ∧
        ∀ (k : Nat) word x, (start.run k).answer = .ok () →
          (start.run k).state.machine.fetched? = some word → (Instruction.awaitKey x).Fits word →
          let before := (start.run k).state.machine
          let after := (start.run (k + 1 : Nat)).state.machine
          before.cycle.answer = .ok () ∧
            after.registers.pc.toNat = before.registers.pc.toNat + 2 ∧
            (after.registers.value x).toNat = key.val) ∧
    (∀ inv' clock', inv.Accepted → Relation.ReflTransGen Rearranges inv inv' →
      inv.fixedRate = false ∨ clock' = clock →
      inv'.effect sys ⟨disk, clock'⟩ = inv.effect sys ⟨disk, clock⟩) ∧
    ∀ key : Key, Key.ofNumeral (Hex.padded 1 key.val) = .ok key := by
  refine ⟨fun path rom proper accepted checked read fits =>
    exists_begins proper accepted checked read fits clock, fun start begins => ?_,
    fun inv' clock' => effect_of_rearranged, numeral_of_key⟩
  refine ⟨ran_of_begins begins, fun k => isDown_of_begins begins k, fun given denoted => ?_⟩
  obtain ⟨key, least⟩ := exists_least denoted
  exact ⟨key, least, fun k word x through fetched fits =>
    stores_least begins least through fetched fits⟩

theorem held_keys_stay_down_both :
    let sys := System.shelf [0xF0, 0x0A] "screen.txt"
    let both : Invocation :=
      { rom := some "rom.ch8", cycles := 1, keys := ["5"], hostKeys := ["q"] }
    let numbers := both.withKeys ["4", "5"] []
    both.version = false ∧ both.Accepted ∧ both.Denotes 4 ∧
      Relation.ReflTransGen Rearranges both numbers ∧ both.fixedRate = false ∧
      numbers.effect sys ⟨none, .still 1⟩ = both.effect sys ⟨none, .still 0⟩ ∧
      ∃ start, both.Begins sys none (.still 0) start ∧
        (start.run (0 : Nat)).state.machine.fetched? = some 0xF00A ∧
        (start.run (0 : Nat)).state.machine.keypad.isDown 5 = true ∧
        ((start.run (1 : Nat)).state.machine.registers.value 0).toNat = 4 := by
  intro sys both numbers
  have five : Key.ofNumeral "5" = .ok 5 := by decide +kernel
  have four : Key.ofNumeral "4" = .ok 4 := by decide +kernel
  have named : Key.ofHostName "q" = .ok 4 := by decide +kernel
  have accepted : both.Accepted := by
    refine ⟨fun text asked => ⟨5, ?_⟩, fun name asked => ⟨4, ?_⟩⟩
    · rwa [List.mem_singleton.1 asked]
    · rwa [List.mem_singleton.1 asked]
  have holds : both.Holds [5, 4] := by
    show [Key.ofNumeral "5", Key.ofHostName "q"] = [.ok 5, .ok 4]
    rw [five, named]
  have split : both.hostKeys = [] ++ "q" :: [] := rfl
  have rearranged : Rearranges both numbers := .byNumber split named four
  have checked : both.checked sys none = .ok (.ofText "rom.ch8") :=
    System.checked_shelf rfl (by decide) rfl _ _ _
  have read : ((sys.files none).readRom (.ofText "rom.ch8")).run = .ok [0xF0, 0x0A] :=
    System.readRom_shelf _ _ _
  have denotes (key : Key) : both.Denotes key ↔ key = 5 ∨ key = 4 := by
    rw [← mem_of_holds holds]
    simp
  have lowest : IsLeast {key | both.Denotes key} 4 := by
    refine ⟨(denotes 4).2 (.inr rfl), fun key denoted => ?_⟩
    rcases (denotes key).1 denoted with rfl | rfl <;> decide
  obtain ⟨starts, during, same, -⟩ := held_keys_stay_down both sys none (.still 0)
  obtain ⟨start, begins⟩ := starts _ _ rfl accepted checked read (by decide)
  have fetched : (start.run (0 : Nat)).state.machine.fetched? = some 0xF00A := by
    obtain ⟨-, path, held, emulator, checked', keys, created, -, rfl⟩ := begins
    cases checked.symm.trans checked'
    cases (heldKeys_of_holds holds).symm.trans keys
    cases (create_eq both _).symm.trans created
    rw [Emulator.loadRomFile, read, Emulator.loadRomRead_of_fits (by decide)]
    decide +kernel
  obtain ⟨-, down, waits⟩ := during start begins
  obtain ⟨key, least, waits⟩ := waits 4 ((denotes 4).2 (.inr rfl))
  cases least.unique lowest
  obtain ⟨-, -, stored⟩ := waits 0 0xF00A 0 rfl fetched ⟨rfl, by decide +kernel⟩
  exact ⟨rfl, accepted, (denotes 4).2 (.inr rfl), .single rearranged, rfl,
    same numbers (.still 1) accepted (.single rearranged) (.inl rfl), start, begins, fetched,
    (down 0 5).2 ((denotes 5).2 (.inl rfl)), stored⟩

end Chip8.Headless.Invocation
