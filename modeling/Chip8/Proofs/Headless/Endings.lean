import Chip8.Proofs.Headless.Runs

namespace Chip8.Headless.Invocation

variable {σ : Type} {inv : Invocation} {sys : System σ} {disk : σ} {path : Path} {rom : List UInt8}
  {held : List Key}

/-- What is reported of a run of `rom`, by the first thing that is wrong. -/
structure Ends (inv : Invocation) (sys : System σ) (disk : σ) (path : Path) (rom : List UInt8)
    (report : Report) (after : σ) : Prop where
  keys : (∃ held, inv.Holds held) ∨ ∃ text cause, inv.RejectsFirst text cause
  rejected : ∀ text cause, inv.RejectsFirst text cause → report.exit = 2 ∧ cause.text = text ∧
    report.stderr = Plain.ofText (Error.badKey cause).report ++ "\n"
  tooLarge : ∀ held, inv.Holds held → 3584 < rom.length → report.exit = 1 ∧
    report.stderr = (Error.ofRomSize rom.length 3584 "").report ++ "\n"
  -- Keys and programs are looked at before anything is logged, so only faults come after a log.
  stopped : ∀ held, inv.Holds held → rom.length ≤ 3584 →
    ∀ k f, (inv.ready rom held).StopsAfter k inv.cycles.toNat (.fault f) → report.exit = 1 ∧
      report.stderr = log inv.verbose (inv.opening path rom ++
        ((inv.ready rom held).run inv.cycles.toNat).events) ++ ((Error.fault f).report ++ "\n")
  finished : ∀ held, inv.Holds held → rom.length ≤ 3584 →
    (∀ k f, ¬ (inv.ready rom held).StopsAfter k inv.cycles.toNat (.fault f)) →
    report.exit = inv.finishExit sys disk
      (inv.picture ((inv.ready rom held).run inv.cycles.toNat).state ++ "\n")
  withheld : report.exit ≠ 0 → inv.Withheld sys disk report after
  noInternalError : inv.output = none → report.exit ≠ 3

theorem not_rejectsFirst (holds : inv.Holds held) (text : String) (cause : BadKey) :
    ¬ inv.RejectsFirst text cause := by
  intro rejects
  cases (heldKeys_of_holds holds).symm.trans (heldKeys_of_rejectsFirst rejects)

theorem eq_of_holds {held' : List Key} (holds : inv.Holds held) (holds' : inv.Holds held') :
    held' = held := by
  cases (heldKeys_of_holds holds).symm.trans (heldKeys_of_holds holds')
  rfl

theorem ends_of_rejectsFirst {text : String} {cause : BadKey} (h : inv.RejectsFirst text cause) :
    inv.Ends sys disk path rom (.ofError (.badKey cause) inv.verbose #[]) disk := by
  have unheld (held : List Key) (holds : inv.Holds held) : False :=
    not_rejectsFirst holds text cause h
  refine ⟨Or.inr ⟨text, cause, h⟩, ?_, ?_, ?_, ?_, fun _ => withheld_of_error .., ?_⟩
  · intro text' cause' h'
    cases (heldKeys_of_rejectsFirst h).symm.trans (heldKeys_of_rejectsFirst h')
    exact ⟨rfl, text_of_rejectsFirst h', rfl⟩
  · exact fun held holds => (unheld held holds).elim
  · exact fun held holds => (unheld held holds).elim
  · exact fun held holds => (unheld held holds).elim
  · exact fun _ => (by decide : (2 : Nat) ≠ 3)

theorem ends_of_tooLarge (holds : inv.Holds held) (large : Memory.romCapacity < rom.length) :
    inv.Ends sys disk path rom
      (.ofError (.ofRomSize rom.length Memory.romCapacity "") inv.verbose #[]) disk := by
  refine ⟨Or.inl ⟨held, holds⟩, ?_, ?_, ?_, ?_, fun _ => withheld_of_error .., ?_⟩
  · exact fun text cause rejects => absurd rejects (not_rejectsFirst holds text cause)
  · exact fun _ _ _ => ⟨rfl, stderr_ofError (isPlain_report_ofRomSize _ _) _ _⟩
  · exact fun _ _ fits => absurd large (Nat.not_lt.2 fits)
  · exact fun _ _ fits => absurd large (Nat.not_lt.2 fits)
  · exact fun _ => (by decide : (1 : Nat) ≠ 3)

theorem ends_of_stopsAfter (holds : inv.Holds held) (fits : rom.length ≤ Memory.romCapacity)
    {k : Nat} {f : Fault}
    (stops : (inv.ready rom held).StopsAfter k inv.cycles.toNat (.fault f)) :
    inv.Ends sys disk path rom (.ofError (.fault f) inv.verbose (inv.opening path rom ++
      ((inv.ready rom held).run inv.cycles.toNat).events)) disk := by
  refine ⟨Or.inl ⟨held, holds⟩, ?_, ?_, ?_, ?_, fun _ => withheld_of_error .., ?_⟩
  · exact fun text cause rejects => absurd rejects (not_rejectsFirst holds text cause)
  · exact fun _ _ large => absurd large (Nat.not_lt.2 fits)
  · intro held' holds' _ k' f' stops'
    cases eq_of_holds holds holds'
    cases (Machine.answer_run_of_stopsAfter stops).symm.trans
      (Machine.answer_run_of_stopsAfter stops')
    obtain ⟨_, same, plain⟩ := Machine.fault_of_stopsAfter (inv.keySource_ready rom held) stops
    cases same
    exact ⟨rfl, stderr_ofError (isPlain_report_fault plain) _ _⟩
  · intro held' holds' _ unstopped
    cases eq_of_holds holds holds'
    exact absurd stops (unstopped k f)
  · exact fun _ => (by decide : (1 : Nat) ≠ 3)

theorem ends_of_ok (lawful : sys.Lawful) (holds : inv.Holds held)
    (fits : rom.length ≤ Memory.romCapacity) {o : Outcome Emulator Unit}
    (through : ((inv.ready rom held).run inv.cycles.toNat).answer = .ok ())
    (finished : o.answer = .ok ())
    (final : o.state.machine = ((inv.ready rom held).run inv.cycles.toNat).state) :
    inv.Ends sys disk path rom (inv.reported sys o disk).1 (inv.reported sys o disk).2 := by
  have exit : (inv.reported sys o disk).1.exit = _ := exit_reported_of_ok lawful finished
  refine ⟨Or.inl ⟨held, holds⟩, ?_, ?_, ?_, ?_, withheld_of_exit_ne_zero lawful, ?_⟩
  · exact fun text cause rejects => absurd rejects (not_rejectsFirst holds text cause)
  · exact fun _ _ large => absurd large (Nat.not_lt.2 fits)
  · intro held' holds' _ k f stops
    cases eq_of_holds holds holds'
    cases through.symm.trans (Machine.answer_run_of_stopsAfter stops)
  · intro held' holds' _ _
    cases eq_of_holds holds holds'
    rw [exit, final]
  · intro printed
    rw [exit, finishExit, printed]
    exact (by decide : (0 : Nat) ≠ 3)

theorem exists_ends (lawful : sys.Lawful) (perCycle : inv.fixedRate = false)
    (proper : inv.version = false) (accepted : inv.checked sys disk = .ok path) (clock : Clock) :
    ∃ name rom report after, inv.rom = some name ∧ sys.find disk name = .file true ∧
      sys.bytes disk path = .ok rom ∧ 0 ≤ inv.cycles ∧
      inv.ran sys ⟨disk, clock⟩ = (.ok report, ⟨after, clock⟩) ∧
      inv.Ends sys disk path rom report after := by
  obtain ⟨name, named, found, rfl, cycles, -⟩ := checked_eq_ok_iff.1 accepted
  obtain ⟨rom, bytes, read⟩ := readRom_of_found lawful found
  suffices ∃ report after, inv.ran sys ⟨disk, clock⟩ = (.ok report, ⟨after, clock⟩) ∧
      inv.Ends sys disk (.ofText name) rom report after by
    obtain ⟨report, after, ran, ends⟩ := this
    exact ⟨name, rom, report, after, named, found, bytes, cycles, ran, ends⟩
  rcases inv.holds_or_rejectsFirst with ⟨held, holds⟩ | ⟨text, cause, rejects⟩
  · by_cases fits : rom.length ≤ Memory.romCapacity
    · obtain ⟨o, answer, final, events, ran⟩ :=
        ran_of_fits proper perCycle accepted holds cycles read fits clock
      refine ⟨_, _, ran, ?_⟩
      cases through : ((inv.ready rom held).run inv.cycles.toNat).answer with
      | ok => exact ends_of_ok lawful holds fits through (answer.trans through) final
      | error e =>
        obtain ⟨k, stops⟩ := Machine.exists_stopsAfter through
        obtain ⟨f, rfl, -⟩ := Machine.fault_of_stopsAfter (inv.keySource_ready rom held) stops
        rw [reported_of_error (answer.trans through), events]
        exact ends_of_stopsAfter holds fits stops
    · have large := Nat.lt_of_not_le fits
      have ran := ran_of_heldKeys proper accepted (heldKeys_of_holds holds) clock
      rw [Emulator.loadRomFile, read, played_of_tooLarge large] at ran
      dsimp only at ran
      rw [reported_of_error rfl] at ran
      exact ⟨_, disk, ran, ends_of_tooLarge holds large⟩
  · have ran := ran_of_badKey proper accepted (heldKeys_of_rejectsFirst rejects) clock
    exact ⟨_, disk, ran, ends_of_rejectsFirst rejects⟩

theorem run_ends (lawful : sys.Lawful) (perCycle : inv.fixedRate = false)
    (proper : inv.version = false) (accepted : inv.checked sys disk = .ok path) (clock : Clock) :
    (∃ name rom report after, inv.rom = some name ∧ sys.find disk name = .file true ∧
      sys.bytes disk path = .ok rom ∧ 0 ≤ inv.cycles ∧
      inv.ran sys ⟨disk, clock⟩ = (.ok report, ⟨after, clock⟩) ∧
      inv.Ends sys disk path rom report after) ∧
    ∀ output picture, inv.output = some output →
      let path := Path.ofText output
      (sys.find disk path.text = .missing → sys.find disk path.parent.text = .missing →
        inv.finishExit sys disk picture = 2) ∧
      (sys.find disk path.text = .belowFile → inv.finishExit sys disk picture = 3) := by
  refine ⟨exists_ends lawful perCycle proper accepted clock, fun output picture asked => ⟨?_, ?_⟩⟩
  · exact fun missing folder => finishExit_of_missing lawful asked missing folder picture
  · exact fun below => finishExit_of_below lawful asked below picture

/-! ## A run that is stopped -/

def strayReturn : List UInt8 := [0x00, 0x00, 0x00, 0xEE]

def strayShelf : System (Option String) := .shelf strayReturn "é.txt"

theorem lawful_strayShelf : strayShelf.Lawful :=
  System.lawful_shelf strayReturn (by decide +kernel) (by decide +kernel) (by decide +kernel)

def stray : Invocation := { rom := some "rom.ch8", cycles := 2, keys := ["5"], hostKeys := ["w"] }

def strayFault : Fault := Fault.returnFromEmpty.locate (some 0x202) (some 0x00EE)

theorem checked_stray : stray.checked strayShelf none = .ok (.ofText "rom.ch8") :=
  System.checked_shelf rfl (by decide) rfl strayReturn _ _

theorem holds_stray : stray.Holds [5, 5] := rfl

theorem stops_stray :
    (stray.ready strayReturn [5, 5]).StopsAfter 1 stray.cycles.toNat (.fault strayFault) :=
  ⟨by decide, by decide +kernel, by decide +kernel⟩

theorem log_stray : log stray.verbose (stray.opening (.ofText "rom.ch8") strayReturn ++
    ((stray.ready strayReturn [5, 5]).run stray.cycles.toNat).events) =
      "Unimplemented opcode 0000 at $0200\n" := by
  decide +kernel

theorem run_ends_stray :
    strayShelf.Lawful ∧ stray.fixedRate = false ∧ stray.version = false ∧
      stray.checked strayShelf none = .ok (.ofText "rom.ch8") ∧
      ∃ report, stray.ran strayShelf ⟨none, .still 0⟩ = (.ok report, ⟨none, .still 0⟩) ∧
        report.exit = 1 ∧
        report.stderr = "Unimplemented opcode 0000 at $0200\n" ++
          "Execution error: $0202 [00EE]: return with empty call stack\n" ∧
        report.stdout = "" ∧ report.written = none := by
  refine ⟨lawful_strayShelf, rfl, rfl, checked_stray, ?_⟩
  obtain ⟨⟨name, rom, report, after, -, -, bytes, -, ran, ends⟩, -⟩ :=
    run_ends lawful_strayShelf rfl rfl checked_stray (.still 0)
  cases bytes.symm.trans (System.bytes_shelf strayReturn _ none)
  obtain ⟨exit, stderr⟩ := ends.stopped [5, 5] holds_stray (by decide) 1 strayFault stops_stray
  obtain ⟨stdout, ⟨unwritten, rfl⟩ | ⟨_, _, _, _, other, -⟩⟩ := ends.withheld (by rw [exit]; decide)
  · refine ⟨report, ran, exit, ?_, stdout, unwritten⟩
    rw [stderr]
    exact congrArg₂ (· ++ ·) log_stray (by decide +kernel)
  · cases exit.symm.trans other

def unnamed : Invocation := { rom := some "rom.ch8", cycles := 1, output := some "é.txt" }

theorem checked_unnamed : unnamed.checked strayShelf none = .ok (.ofText "rom.ch8") := by
  refine checked_eq_ok_iff.2 ⟨"rom.ch8", rfl, rfl, rfl, by decide, ?_⟩
  intro output asked
  cases asked
  decide +kernel

theorem holds_unnamed : unnamed.Holds [] := rfl

theorem through_unnamed :
    ((unnamed.ready strayReturn []).run unnamed.cycles.toNat).answer = .ok () := by
  decide +kernel

theorem reports_say_more_and_files_stay :
    (stray.fixedRate = false ∧ stray.version = false ∧
      stray.checked strayShelf none = .ok (.ofText "rom.ch8") ∧ stray.Holds [5, 5] ∧
      strayReturn.length ≤ 3584 ∧
      (stray.ready strayReturn [5, 5]).StopsAfter 1 stray.cycles.toNat (.fault strayFault) ∧
      ∃ report, stray.ran strayShelf ⟨none, .still 0⟩ = (.ok report, ⟨none, .still 0⟩) ∧
        report.exit = 1 ∧ report.stderr ≠ (Error.fault strayFault).report ++ "\n") ∧
    unnamed.fixedRate = false ∧ unnamed.version = false ∧
      unnamed.checked strayShelf none = .ok (.ofText "rom.ch8") ∧ unnamed.Holds [] ∧
      ∃ report picture, unnamed.ran strayShelf ⟨none, .still 0⟩ =
          (.ok report, ⟨some picture, .still 0⟩) ∧
        (strayShelf.write none (.ofText "é.txt") picture).1 = .ok () ∧ report.exit = 3 := by
  obtain ⟨o, answer, -, events, ran⟩ := ran_of_fits rfl rfl checked_stray holds_stray (by decide)
    (System.readRom_shelf _ _ _) (by decide) (.still 0)
  obtain ⟨o', answer', -, -, ran'⟩ := ran_of_fits rfl rfl checked_unnamed holds_unnamed
    (by decide) (System.readRom_shelf _ _ _) (by decide) (.still 0)
  rw [reported_of_error (answer.trans (Machine.answer_run_of_stopsAfter stops_stray))] at ran
  rw [reported_of_written (answer'.trans through_unnamed) rfl (if_pos rfl)] at ran'
  refine ⟨⟨rfl, rfl, checked_stray, holds_stray, by decide, stops_stray, _, ran, rfl, ?_⟩,
    rfl, rfl, checked_unnamed, holds_unnamed, _, _, ran', congrArg Prod.fst (if_pos rfl), ?_⟩
  · have plain : Plain.IsPlain (Error.fault strayFault).report := by decide +kernel
    rw [stderr_ofError plain, events, log_stray]
    decide +kernel
  · exact exit_concluded_of_error lawful_strayShelf (if_neg (by decide +kernel)) _ _

end Chip8.Headless.Invocation
