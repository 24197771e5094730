import Chip8.Proofs.Headless.Lines
import Chip8.Proofs.Headless.Systems
import Chip8.Proofs.Text.Plain

namespace Chip8.Headless

theorem stderr_ofError {e : Error} (plain : Plain.IsPlain e.report) (verbose : Bool)
    (events : Array Event) :
    (Report.ofError e verbose events).stderr = log verbose events ++ (e.report ++ "\n") := by
  rw [Report.ofError, Plain.ofText_of_isPlain plain, String.append_assoc]

theorem isPlain_report_fault {f : Fault} (h : Plain.IsPlain f.text) :
    Plain.IsPlain (Error.fault f).report := by
  show Plain.IsPlain ("Execution error: " ++ f.text)
  exact Plain.isPlain_append.2 ⟨by decide, h⟩

theorem isPlain_report_ofRomSize (size capacity : Nat) :
    Plain.IsPlain (Error.ofRomSize size capacity "").report := by
  show Plain.IsPlain ("Load error: " ++ ("ROM is too big to fit into memory: " ++ toString size ++
    " bytes (capacity " ++ toString capacity ++ " bytes)"))
  simp only [Plain.isPlain_append, Plain.isPlain_toString, and_true]
  decide

theorem exitCode_ne_zero (e : Error) : e.exitCode ≠ 0 := by
  unfold Error.exitCode
  split
  · decide
  · split <;> decide

namespace Invocation

variable {σ : Type} {inv : Invocation} {sys : System σ} {disk : σ} {o : Outcome Emulator Unit}
  {e : Error}

def concluded (inv : Invocation) (sys : System σ) (text : String)
    (written : Option (String × String)) (events : Array Event) : Report :=
  match sys.print text with
  | .error e => { Report.ofError e inv.verbose events with written }
  | .ok () => { stdout := text, stderr := log inv.verbose events, written }

def reported (inv : Invocation) (sys : System σ) (o : Outcome Emulator Unit) (disk : σ) :
    Report × σ :=
  match o.answer with
  | .error e => (.ofError e inv.verbose o.events, disk)
  | .ok () =>
    let picture := inv.picture o.state.machine ++ "\n"
    match inv.output with
    | none => (inv.concluded sys picture none o.events, disk)
    | some output =>
      let path := Path.ofText output
      match sys.write disk path picture with
      | (.error e, disk) => (.ofError e inv.verbose o.events, disk)
      | (.ok (), disk) =>
        (inv.concluded sys (announcement path) (some (path.text, picture)) o.events, disk)

theorem run_conclude (inv : Invocation) (sys : System σ) (text : String)
    (written : Option (String × String)) (events : Array Event) (world : World σ) :
    (inv.conclude sys.host text written events).run world =
      pure (inv.concluded sys text written events, world) := by
  unfold conclude concluded
  simp only [StateT.run_bind, run_print, pure_bind]
  cases sys.print text <;> rfl

theorem run_report (inv : Invocation) (sys : System σ) (o : Outcome Emulator Unit)
    (world : World σ) :
    (inv.report sys.host o).run world =
      let (report, disk) := inv.reported sys o world.disk
      pure (report, { world with disk }) := by
  unfold report reported
  cases o.answer with
  | error e => rfl
  | ok =>
    dsimp only
    cases inv.output with
    | none => exact run_conclude ..
    | some output =>
      simp only [StateT.run_bind, run_write, pure_bind]
      cases sys.write world.disk (.ofText output) (inv.picture o.state.machine ++ "\n") with
      | mk answer disk =>
        cases answer with
        | error e => rfl
        | ok => exact run_conclude ..

theorem reported_congr {o' : Outcome Emulator Unit} (answer : o'.answer = o.answer)
    (machine : o'.state.machine = o.state.machine) (events : o'.events = o.events) :
    inv.reported sys o' disk = inv.reported sys o disk := by
  unfold reported
  rw [answer, machine, events]

theorem reported_of_error (h : o.answer = .error e) :
    inv.reported sys o disk = (.ofError e inv.verbose o.events, disk) := by
  rw [reported, h]

theorem reported_of_written {output : String} {after : σ} (h : o.answer = .ok ())
    (asked : inv.output = some output)
    (saved : sys.write disk (.ofText output) (inv.picture o.state.machine ++ "\n") =
      (.ok (), after)) :
    inv.reported sys o disk = (inv.concluded sys (announcement (.ofText output))
      (some ((Path.ofText output).text, inv.picture o.state.machine ++ "\n")) o.events, after) := by
  rw [reported, h, asked]
  dsimp only
  rw [saved]

/-- The exit code of a run that goes through, with this to show. -/
def finishExit (inv : Invocation) (sys : System σ) (disk : σ) (picture : String) : Nat :=
  match inv.output with
  | none => 0
  | some output =>
    match (sys.write disk (.ofText output) picture).1,
      sys.print (announcement (.ofText output)) with
    | .error e, _ => e.exitCode
    | .ok (), .error _ => 3
    | .ok (), .ok () => 0

theorem finishExit_of_missing (lawful : sys.Lawful) {output : String}
    (asked : inv.output = some output)
    (missing : sys.find disk (Path.ofText output).text = .missing)
    (folder : sys.find disk (Path.ofText output).parent.text = .missing) (picture : String) :
    inv.finishExit sys disk picture = 2 := by
  rw [finishExit, asked]
  dsimp only
  rw [lawful.missing disk _ picture missing folder]
  rfl

theorem finishExit_of_below (lawful : sys.Lawful) {output : String}
    (asked : inv.output = some output)
    (below : sys.find disk (Path.ofText output).text = .belowFile) (picture : String) :
    inv.finishExit sys disk picture = 3 := by
  rw [finishExit, asked]
  dsimp only
  rw [lawful.below disk _ picture below]
  rfl

theorem isAscii_shown (inv : Invocation) (m : Machine) : IsAscii (inv.picture m ++ "\n") :=
  isAscii_append.2 ⟨inv.isAscii_picture m, by decide⟩

theorem exit_concluded_of_ascii (lawful : sys.Lawful) {text : String} (ascii : IsAscii text)
    (written : Option (String × String)) (events : Array Event) :
    (inv.concluded sys text written events).exit = 0 := by
  rw [concluded, lawful.prints text ascii]

theorem reported_of_printed (lawful : sys.Lawful) (h : o.answer = .ok ())
    (printed : inv.output = none) :
    inv.reported sys o disk =
      ({ stdout := inv.picture o.state.machine ++ "\n", stderr := log inv.verbose o.events },
        disk) := by
  rw [reported, h, printed]
  dsimp only
  rw [concluded, lawful.prints _ (inv.isAscii_shown _)]

theorem exit_concluded_of_error (lawful : sys.Lawful) {text : String}
    (refused : sys.print text = .error e) (written : Option (String × String))
    (events : Array Event) : (inv.concluded sys text written events).exit = 3 := by
  obtain ⟨message, rfl⟩ := lawful.refuses text e refused
  rw [concluded, refused]
  rfl

theorem exit_reported_of_ok (lawful : sys.Lawful) (h : o.answer = .ok ()) :
    (inv.reported sys o disk).1.exit =
      inv.finishExit sys disk (inv.picture o.state.machine ++ "\n") := by
  unfold reported finishExit
  rw [h]
  dsimp only
  cases inv.output with
  | none => exact exit_concluded_of_ascii lawful (inv.isAscii_shown _) _ _
  | some output =>
    dsimp only
    cases sys.write disk (.ofText output) (inv.picture o.state.machine ++ "\n") with
    | mk answer after =>
      cases answer with
      | error e => rfl
      | ok =>
        cases announced : sys.print (announcement (.ofText output)) with
        | error e => exact exit_concluded_of_error lawful announced _ _
        | ok =>
          dsimp only
          rw [concluded, announced]

/-- Nothing is printed and written, unless to a file that cannot be named in the output. -/
def Withheld (inv : Invocation) (sys : System σ) (disk : σ) (report : Report) (after : σ) : Prop :=
  report.stdout = "" ∧
    (report.written = none ∧ after = disk ∨
      ∃ output picture e, inv.output = some output ∧ report.exit = 3 ∧
        sys.print (announcement (.ofText output)) = .error e ∧
        report.written = some ((Path.ofText output).text, picture) ∧
        sys.write disk (.ofText output) picture = (.ok (), after))

theorem withheld_of_error (e : Error) (verbose : Bool) (events : Array Event) (disk : σ) :
    inv.Withheld sys disk (.ofError e verbose events) disk :=
  ⟨rfl, Or.inl ⟨rfl, rfl⟩⟩

theorem withheld_of_exit_ne_zero (lawful : sys.Lawful)
    (h : (inv.reported sys o disk).1.exit ≠ 0) :
    inv.Withheld sys disk (inv.reported sys o disk).1 (inv.reported sys o disk).2 := by
  unfold reported at h ⊢
  cases answer : o.answer with
  | error e => exact withheld_of_error e _ _ disk
  | ok =>
    rw [answer] at h
    dsimp only at h ⊢
    cases output : inv.output with
    | none =>
      rw [output] at h
      exact absurd (exit_concluded_of_ascii lawful (inv.isAscii_shown _) _ _) h
    | some text =>
      rw [output] at h
      dsimp only at h ⊢
      cases saved : sys.write disk (.ofText text) (inv.picture o.state.machine ++ "\n") with
      | mk answer after =>
        rw [saved] at h
        cases answer with
        | error e =>
          have same := lawful.kept disk _ _ e (inv.isAscii_shown _) (congrArg Prod.fst saved)
          rw [saved] at same
          subst same
          exact withheld_of_error e _ _ _
        | ok =>
          cases announced : sys.print (announcement (.ofText text)) with
          | ok =>
            dsimp only at h
            rw [concluded, announced] at h
            exact absurd rfl h
          | error e =>
            refine ⟨?_, Or.inr ⟨text, _, e, output, ?_, announced, ?_, saved⟩⟩
            · rw [concluded, announced]
              rfl
            · exact exit_concluded_of_error lawful announced _ _
            · rw [concluded, announced]

end Invocation
end Chip8.Headless
