import Chip8.Proofs.Headless.Endings

namespace Chip8.Headless

def Report.picture (r : Report) : String :=
  match r.written with
  | some (_, picture) => picture
  | none => r.stdout

/-- What a report is apart from the log. -/
def Report.result (r : Report) : Nat × String × Option (String × String) :=
  (r.exit, r.stdout, r.written)

namespace Invocation

variable {σ : Type} {inv : Invocation} {sys : System σ} {disk after : σ} {clock clock' : Clock}
  {path : Path} {m m' : Machine} {r : Report} {o : Outcome Emulator Unit} {output : String}

/-! ## Reports -/

theorem concluded_of_exit_zero {text : String} {written : Option (String × String)}
    {events : Array Event} (success : (inv.concluded sys text written events).exit = 0) :
    sys.print text = .ok () ∧ inv.concluded sys text written events =
      { stdout := text, stderr := log inv.verbose events, written } := by
  unfold concluded at success ⊢
  cases printed : sys.print text with
  | error e =>
    rw [printed] at success
    exact absurd success (exitCode_ne_zero e)
  | ok => exact ⟨rfl, rfl⟩

theorem picture_reported (success : (inv.reported sys o disk).1.exit = 0) :
    o.answer = .ok () ∧
      (inv.reported sys o disk).1.picture = inv.picture o.state.machine ++ "\n" := by
  unfold reported at success ⊢
  cases answer : o.answer with
  | error e =>
    rw [answer] at success
    exact absurd success (exitCode_ne_zero e)
  | ok =>
    rw [answer] at success
    refine ⟨rfl, ?_⟩
    cases asked : inv.output with
    | none =>
      rw [asked] at success
      dsimp only at success ⊢
      rw [(concluded_of_exit_zero success).2]
      rfl
    | some output =>
      rw [asked] at success
      dsimp only at success ⊢
      cases saved : sys.write disk (.ofText output) (inv.picture o.state.machine ++ "\n") with
      | mk answer after =>
        rw [saved] at success
        cases answer with
        | error e => exact absurd success (exitCode_ne_zero e)
        | ok =>
          dsimp only at success ⊢
          rw [(concluded_of_exit_zero success).2]
          rfl

/-- The invocation runs its program through, to this machine. -/
def Finishes (inv : Invocation) (sys : System σ) (disk : σ) (clock : Clock) (m : Machine) : Prop :=
  inv.version = false ∧ ∃ path held emulator,
    inv.checked sys disk = .ok path ∧ inv.heldKeys = .ok held ∧
    Emulator.create inv.config none none clock = .ok emulator ∧
    let o := inv.played path held (emulator.loadRomFile (sys.files disk) path)
    o.answer = .ok () ∧ o.state.machine = m

theorem effect_of_finishes (finishes : inv.Finishes sys disk clock m) :
    ∃ o : Outcome Emulator Unit, o.answer = .ok () ∧ o.state.machine = m ∧
      inv.effect sys ⟨disk, clock⟩ =
        (.ok (inv.reported sys o disk).1, (inv.reported sys o disk).2) := by
  obtain ⟨proper, path, held, emulator, accepted, keys, created, through, final⟩ := finishes
  cases (create_eq inv clock).symm.trans created
  exact ⟨_, through, final, effect_of_heldKeys proper accepted keys clock⟩

theorem exists_finishes (proper : inv.version = false)
    (ran : inv.effect sys ⟨disk, clock⟩ = (.ok r, after)) (success : r.exit = 0) :
    ∃ m, inv.Finishes sys disk clock m ∧ r.picture = inv.picture m ++ "\n" := by
  cases accepted : inv.checked sys disk with
  | error usage =>
    rw [effect, ran_of_rejected proper accepted] at ran
    cases ran
  | ok path =>
    cases keys : inv.heldKeys with
    | error e =>
      rw [effect, ran_of_badKey proper accepted keys] at ran
      cases ran
      exact absurd success (exitCode_ne_zero e)
    | ok held =>
      cases (effect_of_heldKeys proper accepted keys clock).symm.trans ran
      obtain ⟨through, picture⟩ := picture_reported success
      exact ⟨_, ⟨proper, path, held, _, accepted, keys, create_eq inv clock, through, rfl⟩, picture⟩

/-! ## Where pictures go -/

def toStdout (inv : Invocation) : Invocation := { inv with output := none }

def toFile (inv : Invocation) (output : String) : Invocation := { inv with output := some output }

structure Writable (sys : System σ) (disk : σ) (output : String) : Prop where
  named : outputError? output (sys.find disk output) = none
  writes : ∀ text, IsAscii text → (sys.write disk (.ofText output) text).1 = .ok ()

def announceExit (sys : System σ) (output : String) : Nat :=
  match sys.print (announcement (.ofText output)) with
  | .ok () => 0
  | .error e => e.exitCode

theorem finishes_toFile (writable : Writable sys disk output)
    (finishes : inv.toStdout.Finishes sys disk clock m) :
    (inv.toFile output).Finishes sys disk clock m := by
  obtain ⟨proper, path, held, emulator, accepted, rest⟩ := finishes
  obtain ⟨name, named, found, same, cycles, -⟩ := checked_eq_ok_iff.1 accepted
  refine ⟨proper, path, held, emulator, checked_eq_ok_iff.2 ⟨name, named, found, same, cycles, ?_⟩,
    rest⟩
  intro output' asked
  cases asked
  exact writable.named

theorem stdout_toStdout (through : o.answer = .ok ())
    (success : (inv.toStdout.reported sys o disk).1.exit = 0) :
    (inv.toStdout.reported sys o disk).1.stdout = inv.picture o.state.machine ++ "\n" := by
  rw [reported, through] at success ⊢
  dsimp only [toStdout] at success ⊢
  rw [(concluded_of_exit_zero success).2]
  rfl

theorem reported_toFile (inv : Invocation) (through : o.answer = .ok ())
    (writable : Writable sys disk output) :
    let picture := inv.picture o.state.machine ++ "\n"
    let (r, after) := (inv.toFile output).reported sys o disk
    r.written = some ((Path.ofText output).text, picture) ∧
      after = (sys.write disk (.ofText output) picture).2 ∧
      r.exit = announceExit sys output := by
  have saved : sys.write disk (.ofText output) (inv.picture o.state.machine ++ "\n") =
      (.ok (), (sys.write disk (.ofText output) (inv.picture o.state.machine ++ "\n")).2) :=
    Prod.ext (writable.writes _ ((inv.toFile output).isAscii_shown _)) rfl
  have reported : (inv.toFile output).reported sys o disk = _ :=
    reported_of_written through rfl saved
  rw [reported]
  dsimp only
  unfold concluded announceExit
  cases sys.print (announcement (.ofText output)) <;> exact ⟨rfl, rfl, rfl⟩

theorem written_of_printed (writable : Writable sys disk output) (proper : inv.version = false)
    (timed : inv.fixedRate = false ∨ clock' = clock)
    (ran : inv.toStdout.effect sys ⟨disk, clock⟩ = (.ok r, after)) (success : r.exit = 0) :
    ∃ r', (inv.toFile output).effect sys ⟨disk, clock'⟩ =
        (.ok r', (sys.write disk (.ofText output) r.stdout).2) ∧
      r'.written = some ((Path.ofText output).text, r.stdout) ∧
      r'.exit = announceExit sys output := by
  have printing : inv.toStdout.version = false := proper
  obtain ⟨m, finishes, -⟩ := exists_finishes printing ran success
  obtain ⟨o, through, final, printed⟩ := effect_of_finishes finishes
  obtain ⟨o', through', final', written⟩ := effect_of_finishes (finishes_toFile writable finishes)
  cases ran.symm.trans printed
  have shown :
      (inv.toStdout.reported sys o disk).1.stdout = inv.picture o'.state.machine ++ "\n" := by
    rw [stdout_toStdout through success, final, final']
  have same : (inv.toFile output).effect sys ⟨disk, clock'⟩ =
      (inv.toFile output).effect sys ⟨disk, clock⟩ := by
    rcases timed with perCycle | rfl
    · have unpaced : (inv.toFile output).fixedRate = false := perCycle
      exact effect_of_perCycle unpaced clock clock'
    · rfl
  obtain ⟨file, saved, exit⟩ := inv.reported_toFile through' writable
  rw [shown, same, written, ← saved]
  exact ⟨_, rfl, file, exit⟩

/-! ## What is logged -/

def logging (inv : Invocation) (verbose : Bool) : Invocation := { inv with verbose }

def result (inv : Invocation) (sys : System σ) (world : World σ) :
    Except UsageError (Nat × String × Option (String × String)) × σ :=
  ((inv.effect sys world).1.map Report.result, (inv.effect sys world).2)

theorem result_concluded (verbose : Bool) (text : String) (written : Option (String × String))
    (events : Array Event) :
    ((inv.logging verbose).concluded sys text written events).result =
      (inv.concluded sys text written events).result := by
  unfold concluded
  cases sys.print text <;> rfl

theorem result_reported (inv : Invocation) (sys : System σ) (disk : σ) (o : Outcome Emulator Unit)
    (verbose : Bool) :
    ((inv.logging verbose).reported sys o disk).1.result = (inv.reported sys o disk).1.result ∧
      ((inv.logging verbose).reported sys o disk).2 = (inv.reported sys o disk).2 := by
  have asked : (inv.logging verbose).output = inv.output := rfl
  have picture : (inv.logging verbose).picture o.state.machine = inv.picture o.state.machine := rfl
  unfold reported
  rw [asked, picture]
  cases o.answer with
  | error e => exact ⟨rfl, rfl⟩
  | ok =>
    dsimp only
    cases inv.output with
    | none => exact ⟨result_concluded verbose _ _ _, rfl⟩
    | some output =>
      dsimp only
      rcases sys.write disk (.ofText output) (inv.picture o.state.machine ++ "\n") with
        ⟨_ | _, after⟩
      · exact ⟨rfl, rfl⟩
      · exact ⟨result_concluded verbose _ _ _, rfl⟩

theorem result_logging (verbose : Bool) (clock : Clock) :
    (inv.logging verbose).result sys ⟨disk, clock⟩ = inv.result sys ⟨disk, clock⟩ := by
  have checked : (inv.logging verbose).checked sys disk = inv.checked sys disk := rfl
  have heldKeys : (inv.logging verbose).heldKeys = inv.heldKeys := rfl
  unfold result
  cases version : inv.version with
  | true =>
    have asked : (inv.logging verbose).version = true := version
    rw [effect, effect, ran_of_version version, ran_of_version asked]
    exact congrArg (fun r => (Except.ok r, disk)) (result_concluded verbose _ _ _)
  | false =>
    have proper : (inv.logging verbose).version = false := version
    cases accepted : inv.checked sys disk with
    | error usage =>
      rw [effect, effect, ran_of_rejected version accepted,
        ran_of_rejected proper (checked.trans accepted)]
    | ok path =>
      cases keys : inv.heldKeys with
      | error e =>
        rw [effect, effect, ran_of_badKey version accepted keys,
          ran_of_badKey proper (checked.trans accepted) (heldKeys.trans keys)]
        rfl
      | ok held =>
        obtain ⟨report, left⟩ := inv.result_reported sys disk (inv.played path held
          ((inv.emulator clock).loadRomFile (sys.files disk) path)) verbose
        have logged :=
          effect_of_heldKeys proper (checked.trans accepted) (heldKeys.trans keys) clock
        rw [effect_of_heldKeys version accepted keys, logged]
        exact Prod.ext (congrArg Except.ok report) left

theorem result_of_logging (verbose : Bool) (timed : inv.fixedRate = false ∨ clock' = clock) :
    (inv.logging verbose).result sys ⟨disk, clock'⟩ = inv.result sys ⟨disk, clock⟩ := by
  rcases timed with perCycle | rfl
  · rw [result_logging, result, result, effect_of_perCycle perCycle]
  · exact result_logging verbose _

theorem picture_is_lossless (inv : Invocation) (sys : System σ) (disk : σ) (clock clock' : Clock) :
    (∀ r after, inv.version = false → inv.effect sys ⟨disk, clock⟩ = (.ok r, after) → r.exit = 0 →
      ∃ m, inv.Finishes sys disk clock m ∧ r.picture = inv.picture m ++ "\n") ∧
    (∀ m, inv.picture m = "\n".intercalate (inv.lines m) ∧
      m.screenLines.map String.toList = (List.finRange 32).map fun y =>
        (List.finRange 64).map fun x => if m.screen.lit (x, y) then '#' else '.') ∧
    (∀ m m', inv.picture m = inv.picture m' ↔
      m.screen.pixels = m'.screen.pixels ∧ (inv.summary = true → Machine.SameSummary m m')) ∧
    (inv.fixedRate = false ∨ clock' = clock →
      (∀ output r after, Writable sys disk output → inv.version = false →
        inv.toStdout.effect sys ⟨disk, clock⟩ = (.ok r, after) → r.exit = 0 →
        ∃ r', (inv.toFile output).effect sys ⟨disk, clock'⟩ =
            (.ok r', (sys.write disk (.ofText output) r.stdout).2) ∧
          r'.written = some ((Path.ofText output).text, r.stdout) ∧
          r'.exit = announceExit sys output) ∧
      ∀ verbose, (inv.logging verbose).result sys ⟨disk, clock'⟩ = inv.result sys ⟨disk, clock⟩) :=
  ⟨fun _ _ => exists_finishes,
    fun m => ⟨picture_eq inv m, Framebuffer.map_toList_textRows rfl rfl m.screen⟩,
    fun _ _ => picture_inj,
    fun timed => ⟨fun _ _ _ writable proper => written_of_printed writable proper timed,
      fun verbose => result_of_logging verbose timed⟩⟩

theorem picture_is_lossless_single :
    let sys := System.shelf strayReturn "screen.txt"
    let single : Invocation := { rom := some "rom.ch8", cycles := 1 }
    single.version = false ∧ single.fixedRate = false ∧ Writable sys none "screen.txt" ∧
      ∃ r r' m, single.effect sys ⟨none, .still 0⟩ = (.ok r, none) ∧ r.exit = 0 ∧
        single.Finishes sys none (.still 0) m ∧ r.picture = single.picture m ++ "\n" ∧
        (single.toFile "screen.txt").effect sys ⟨none, .still 1⟩ = (.ok r', some r.stdout) ∧
        r'.exit = 0 ∧ r'.written = some ((Path.ofText "screen.txt").text, r.stdout) ∧
        (single.logging true).result sys ⟨none, .still 1⟩ = single.result sys ⟨none, .still 0⟩ := by
  intro sys single
  have lawful : sys.Lawful :=
    System.lawful_shelf strayReturn (by decide +kernel) (by decide +kernel) (by decide +kernel)
  have writable : Writable sys none "screen.txt" :=
    ⟨by decide +kernel, fun _ _ => congrArg Prod.fst (if_pos rfl)⟩
  have announced : announceExit sys "screen.txt" = 0 := by decide +kernel
  have accepted : single.checked sys none = .ok (.ofText "rom.ch8") :=
    System.checked_shelf rfl (by decide) rfl _ _ _
  have holds : single.Holds [] := rfl
  have through : ((single.ready strayReturn []).run single.cycles.toNat).answer = .ok () := by
    decide +kernel
  obtain ⟨o, answer, -, -, ran⟩ := ran_of_fits rfl rfl accepted holds (by decide)
    (System.readRom_shelf _ _ _) (by decide) (.still 0)
  rw [reported_of_printed lawful (answer.trans through) rfl] at ran
  have effect : single.effect sys ⟨none, .still 0⟩ = _ := congrArg (fun r => (r.1, r.2.disk)) ran
  obtain ⟨shows, -, -, same⟩ := picture_is_lossless single sys none (.still 0) (.still 1)
  obtain ⟨written, logged⟩ := same (.inl rfl)
  obtain ⟨m, finishes, shown⟩ := shows _ _ rfl effect rfl
  obtain ⟨r', file, text, exit⟩ := written "screen.txt" _ _ writable rfl effect rfl
  have saved (text : String) : (sys.write none (.ofText "screen.txt") text).2 = some text :=
    congrArg Prod.snd (if_pos rfl)
  rw [saved] at file
  exact ⟨rfl, rfl, writable, _, r', m, effect, rfl, finishes, shown, file, exit.trans announced,
    text, logged true⟩

/-! ## Runs that differ -/

def timedProgram : List UInt8 := [0x60, 0x05, 0xF0, 0x15]

def timed : Invocation := { rom := some "rom.ch8", cycles := 2, fixedRate := true }

def perSecond : Clock := ⟨fun k => Float.ofNat k, 0⟩

def timedSystem : System (Option String) := .shelf timedProgram "screen.txt"

def timedEnd (clock : Clock) : Outcome Emulator Unit :=
  timed.played (.ofText "rom.ch8") []
    ((timed.emulator clock).loadRomRead (.ofText "rom.ch8") (.ok timedProgram))

theorem timedEnd_still : (timedEnd (.still 0)).answer = .ok () ∧
    (timedEnd (.still 0)).state.machine.timers.delay = 5 := by
  decide +kernel

theorem timedEnd_perSecond : (timedEnd perSecond).answer = .ok () ∧
    (timedEnd perSecond).state.machine.timers.delay = 0 := by
  decide +kernel

theorem effect_timed (verbose : Bool) {clock : Clock}
    (through : (timedEnd clock).answer = .ok ()) :
    ∃ r, (timed.logging verbose).effect timedSystem ⟨none, clock⟩ = (.ok r, none) ∧ r.exit = 0 ∧
      r.stdout = timed.picture (timedEnd clock).state.machine ++ "\n" := by
  have lawful : timedSystem.Lawful :=
    System.lawful_shelf timedProgram (by decide +kernel) (by decide +kernel) (by decide +kernel)
  have cycles : (0 : Int) ≤ 2 := by decide
  have accepted : (timed.logging verbose).checked timedSystem none = .ok (.ofText "rom.ch8") :=
    System.checked_shelf rfl cycles rfl _ _ _
  have holds : (timed.logging verbose).Holds [] := rfl
  have read : ((timedSystem.files none).readRom (.ofText "rom.ch8")).run = .ok timedProgram :=
    System.readRom_shelf _ _ _
  have ended : (timed.logging verbose).played (.ofText "rom.ch8") []
      (((timed.logging verbose).emulator clock).loadRomRead (.ofText "rom.ch8")
        (.ok timedProgram)) = timedEnd clock := rfl
  have effect := effect_of_heldKeys rfl accepted (heldKeys_of_holds holds) clock
  rw [Emulator.loadRomFile, read, ended] at effect
  dsimp only at effect
  rw [reported_of_printed lawful through rfl] at effect
  exact ⟨_, effect, rfl, rfl⟩

theorem pictures_may_differ :
    (timed.version = false ∧ ∃ r r', timed.effect timedSystem ⟨none, .still 0⟩ = (.ok r, none) ∧
      (timed.logging true).effect timedSystem ⟨none, perSecond⟩ = (.ok r', none) ∧
      r.exit = 0 ∧ r'.exit = 0 ∧ r'.stdout ≠ r.stdout) ∧
    Writable strayShelf none "é.txt" ∧ unnamed.toStdout.toFile "é.txt" = unnamed ∧
      unnamed.version = false ∧ unnamed.fixedRate = false ∧ ∃ r r',
        unnamed.toStdout.effect strayShelf ⟨none, .still 0⟩ = (.ok r, none) ∧ r.exit = 0 ∧
        unnamed.effect strayShelf ⟨none, .still 0⟩ = (.ok r', some r.stdout) ∧ r'.exit = 3 := by
  constructor
  · obtain ⟨through, five⟩ := timedEnd_still
    obtain ⟨through', zero⟩ := timedEnd_perSecond
    obtain ⟨r, quiet, success, stdout⟩ := effect_timed false through
    obtain ⟨r', logged, success', stdout'⟩ := effect_timed true through'
    refine ⟨rfl, r, r', quiet, logged, success, success', fun same => ?_⟩
    rw [stdout, stdout', String.append_left_inj, picture_inj] at same
    have delay := (same.2 rfl).delay
    rw [five, zero] at delay
    cases delay
  · have writable : Writable strayShelf none "é.txt" :=
      ⟨by decide +kernel, fun _ _ => congrArg Prod.fst (if_pos rfl)⟩
    have saved (text : String) : (strayShelf.write none (.ofText "é.txt") text).2 = some text :=
      congrArg Prod.snd (if_pos rfl)
    have accepted : unnamed.toStdout.checked strayShelf none = .ok (.ofText "rom.ch8") :=
      System.checked_shelf rfl (by decide) rfl _ _ _
    have holds : unnamed.toStdout.Holds [] := rfl
    obtain ⟨o, answer, -, -, ran⟩ := ran_of_fits rfl rfl accepted holds (by decide)
      (System.readRom_shelf _ _ _) (by decide) (.still 0)
    rw [reported_of_printed lawful_strayShelf (answer.trans through_unnamed) rfl] at ran
    have effect : unnamed.toStdout.effect strayShelf ⟨none, .still 0⟩ = _ :=
      congrArg (fun r => (r.1, r.2.disk)) ran
    have still : Clock.still 0 = Clock.still 0 := rfl
    obtain ⟨r', written, -, exit⟩ := written_of_printed writable rfl (.inr still) effect rfl
    rw [saved] at written
    have refused : announceExit strayShelf "é.txt" = 3 := by decide +kernel
    exact ⟨writable, rfl, rfl, rfl, _, r', effect, rfl, written, exit.trans refused⟩

end Invocation
end Chip8.Headless
