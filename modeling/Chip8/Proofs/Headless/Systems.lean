import Chip8.Headless.Run
import Chip8.Proofs.Emulator.Run
import Chip8.Proofs.Text.Fields

namespace Chip8.Headless

variable {σ : Type}

/-- What systems promise of paths, files and an output that can print ASCII. -/
structure System.Lawful (sys : System σ) : Prop where
  normal : ∀ disk text readable, sys.find disk text = .file readable →
    sys.find disk (Path.ofText text).text = .file readable
  readable : ∀ disk (path : Path), sys.find disk path.text = .file true →
    ∃ rom, sys.bytes disk path = .ok rom
  missing : ∀ disk (path : Path) text, sys.find disk path.text = .missing →
    sys.find disk path.parent.text = .missing →
    (sys.write disk path text).1 = .error (.file (.missing path.text))
  below : ∀ disk (path : Path) text, sys.find disk path.text = .belowFile →
    (sys.write disk path text).1 = .error (.file (.notDirectory path.text))
  kept : ∀ disk path text e, IsAscii text → (sys.write disk path text).1 = .error e →
    (sys.write disk path text).2 = disk
  prints : ∀ text, IsAscii text → sys.print text = .ok ()
  refuses : ∀ text e, sys.print text = .error e → ∃ message, e = .host .other message

namespace Invocation

variable {inv : Invocation} {sys : System σ} {disk : σ} {path : Path}

def checked (inv : Invocation) (sys : System σ) (disk : σ) : Except UsageError Path :=
  (inv.check (sys.files disk)).run

theorem run_find (sys : System σ) (text : String) (world : World σ) :
    (sys.host.find text).run world = pure (sys.find world.disk text, world) := rfl

theorem run_write (sys : System σ) (path : Path) (text : String) (world : World σ) :
    (sys.host.write path text).run world =
      pure ((sys.write world.disk path text).1,
        { world with disk := (sys.write world.disk path text).2 }) := rfl

theorem run_print (sys : System σ) (text : String) (world : World σ) :
    (sys.host.print text).run world = pure (sys.print text, world) := rfl

theorem find_files (sys : System σ) (text : String) (disk : σ) :
    (sys.files disk).find text = pure (sys.find disk text) := rfl

theorem run_check (inv : Invocation) (sys : System σ) (world : World σ) :
    (inv.check sys.host.toFiles).run world = pure (inv.checked sys world.disk, world) := by
  unfold checked check
  cases inv.rom with
  | none => rfl
  | some name =>
    simp only [StateT.run_bind, run_find, find_files, pure_bind]
    cases romError? name (sys.find world.disk name) with
    | some e => rfl
    | none =>
      dsimp only
      split
      · rfl
      · cases inv.output with
        | none => rfl
        | some output =>
          simp only [StateT.run_bind, run_find, pure_bind]
          cases outputError? output (sys.find world.disk output) <;> rfl

/-- Where a picture can be asked to go: to a file that is readable, or to none as yet. -/
def OutputNamed (inv : Invocation) (sys : System σ) (disk : σ) : Prop :=
  ∀ output, inv.output = some output → outputError? output (sys.find disk output) = none

theorem romError?_eq_none_iff {name : String} {place : Place} :
    romError? name place = none ↔ place = .file true := by
  unfold romError?
  split <;> simp

theorem checked_eq_ok_iff : inv.checked sys disk = .ok path ↔
    ∃ name, inv.rom = some name ∧ sys.find disk name = .file true ∧ path = .ofText name ∧
      0 ≤ inv.cycles ∧ inv.OutputNamed sys disk := by
  unfold checked check OutputNamed
  cases inv.rom with
  | none => simp
  | some name =>
    simp only [find_files, pure_bind, Option.some.injEq, exists_eq_left']
    cases error : romError? name (sys.find disk name) with
    | some e =>
      have other : sys.find disk name ≠ .file true := by
        intro found
        cases error.symm.trans (romError?_eq_none_iff.2 found)
      simp [other]
    | none =>
      have found := romError?_eq_none_iff.1 error
      by_cases negative : inv.cycles < 0
      · simp [negative]
      · have cycles : 0 ≤ inv.cycles := Int.not_lt.1 negative
        cases inv.output with
        | none => simp [negative, cycles, found, eq_comm]
        | some output =>
          cases outcome : outputError? output (sys.find disk output) <;>
            simp [negative, cycles, found, outcome, eq_comm]

/-! ## Programs -/

theorem run_readRom (sys : System σ) (path : Path) (world : World σ) :
    (sys.host.readRom path).run world =
      pure (((sys.files world.disk).readRom path).run, world) := by
  unfold Files.readRom
  simp only [StateT.run_bind, run_find, find_files, pure_bind]
  cases sys.find world.disk path.text <;> rfl

theorem readRom_of_file {readable : Bool} (found : sys.find disk path.text = .file readable) :
    ((sys.files disk).readRom path).run = sys.bytes disk path := by
  rw [Files.readRom, find_files, found]
  rfl

theorem readRom_of_found (lawful : sys.Lawful) {name : String}
    (found : sys.find disk name = .file true) :
    ∃ rom, sys.bytes disk (.ofText name) = .ok rom ∧
      ((sys.files disk).readRom (.ofText name)).run = .ok rom := by
  have leads := lawful.normal disk name true found
  obtain ⟨rom, bytes⟩ := lawful.readable disk (.ofText name) leads
  exact ⟨rom, bytes, (readRom_of_file leads).trans bytes⟩

theorem reads_now (sys : System σ) : Emulator.Reads sys.host.now World.clock :=
  fun _ => ⟨rfl, rfl⟩

theorem disk_now (sys : System σ) (world : World σ) :
    (sys.host.now.run world).run.2.disk = world.disk := rfl

end Invocation

namespace System

def shelfPlace (picture : String) (saved : Option String) (text : String) : Place :=
  if text = "rom.ch8" ∨ text = picture ∧ saved.isSome then .file true
  else if text = "." then .directory
  else if "rom.ch8/".isPrefixOf text then .belowFile
  else .missing

def shelf (rom : List UInt8) (picture : String) : System (Option String) where
  find saved text := shelfPlace picture saved text
  bytes saved path :=
    if path.text = "rom.ch8" then .ok rom else .ok (saved.getD "").toUTF8.toList
  write saved path text :=
    if path = .ofText picture then (.ok (), some text)
    else
      match shelfPlace picture saved path.text, shelfPlace picture saved path.parent.text with
      | .missing, .missing => (.error (.file (.missing path.text)), saved)
      | .belowFile, _ => (.error (.file (.notDirectory path.text)), saved)
      | _, _ => (.error (.host .permissionDenied "[Errno 13] Permission denied"), saved)
  print text :=
    if IsAscii text then .ok ()
    else .error (.host .other "'ascii' codec can't encode character: ordinal not in range(128)")

theorem lawful_shelf (rom : List UInt8) {picture : String}
    (normal : (Path.ofText picture).text = picture)
    (inside : (Path.ofText picture).parent.text = ".")
    (new : shelfPlace picture none picture = .missing) : (shelf rom picture).Lawful where
  normal saved text readable found := by
    have found : shelfPlace picture saved text = .file readable := found
    show shelfPlace picture saved (Path.ofText text).text = .file readable
    unfold shelfPlace at found
    split at found
    · rename_i leads
      have same : (Path.ofText text).text = text := by
        rcases leads with rfl | ⟨rfl, -⟩
        · decide +kernel
        · exact normal
      rw [same, shelfPlace, if_pos leads, ← found]
    · split at found
      · cases found
      · split at found <;> cases found
  readable saved path _ := by
    show ∃ bytes, (if path.text = "rom.ch8" then _ else _) = Except.ok bytes
    split <;> exact ⟨_, rfl⟩
  missing saved path text lost astray := by
    have lost : shelfPlace picture saved path.text = .missing := lost
    have astray : shelfPlace picture saved path.parent.text = .missing := astray
    have other : path ≠ .ofText picture := by
      rintro rfl
      rw [inside, shelfPlace, if_pos rfl] at astray
      split at astray <;> cases astray
    show (if path = .ofText picture then _ else _ : Except Error Unit × _).1 = _
    rw [if_neg other, lost, astray]
  below saved path text under := by
    have under : shelfPlace picture saved path.text = .belowFile := under
    have other : path ≠ .ofText picture := by
      rintro rfl
      rw [normal] at under
      unfold shelfPlace at under new
      split at under
      · cases under
      · rename_i unsaved
        rw [if_neg fun leads => unsaved (leads.imp_right fun h => ⟨h.1, nomatch h.2⟩), under] at new
        cases new
    show (if path = .ofText picture then _ else _ : Except Error Unit × _).1 = _
    rw [if_neg other, under]
  kept saved path text e _ failed := by
    have failed : (if path = .ofText picture then _ else _ : Except Error Unit × _).1 = _ := failed
    show (if path = .ofText picture then _ else _ : Except Error Unit × _).2 = _
    split at failed
    · cases failed
    · rename_i other
      rw [if_neg other]
      split <;> rfl
  prints text ascii := if_pos ascii
  refuses text e refused := by
    have refused : (if IsAscii text then _ else _ : Except Error Unit) = _ := refused
    split at refused <;> cases refused
    exact ⟨_, rfl⟩

theorem bytes_shelf (rom : List UInt8) (picture : String) (saved : Option String) :
    (shelf rom picture).bytes saved (.ofText "rom.ch8") = .ok rom := by
  show (if (Path.ofText "rom.ch8").text = "rom.ch8" then _ else _) = _
  rw [if_pos (by decide +kernel)]

theorem readRom_shelf (rom : List UInt8) (picture : String) (saved : Option String) :
    (((shelf rom picture).files saved).readRom (.ofText "rom.ch8")).run = .ok rom := by
  have found : (shelf rom picture).find saved (Path.ofText "rom.ch8").text = .file true :=
    if_pos (Or.inl (by decide +kernel))
  rw [Invocation.readRom_of_file found, bytes_shelf]

theorem checked_shelf {inv : Invocation} (named : inv.rom = some "rom.ch8")
    (cycles : 0 ≤ inv.cycles) (printed : inv.output = none) (rom : List UInt8) (picture : String)
    (saved : Option String) :
    inv.checked (shelf rom picture) saved = .ok (.ofText "rom.ch8") := by
  have found : shelfPlace picture saved "rom.ch8" = .file true := if_pos (Or.inl rfl)
  refine Invocation.checked_eq_ok_iff.2 ⟨"rom.ch8", named, found, rfl, cycles, ?_⟩
  intro output asked
  cases printed.symm.trans asked

end System
end Chip8.Headless
