import Chip8.Headless.Host
import Chip8.KeyMap
import Chip8.KeyNumeral
import Chip8.Summary
import Chip8.Text.Plain

namespace Chip8.Headless

structure Invocation where
  rom : Option String := none
  cycles : Int := 1000
  seed : Int := RandomSource.usualSeed
  keys : List String := []
  hostKeys : List String := []
  fixedRate : Bool := false
  output : Option String := none
  summary : Bool := true
  verbose : Bool := false
  version : Bool := false

inductive UsageError where
  | noRom
  | romMissing (path : String)
  | romIsDirectory (path : String)
  | romUnreadable (path : String)
  | negativeCycles (count : Int)
  | outputIsDirectory (path : String)
  | outputUnreadable (path : String)
  | badOutput (path : String)
  | badOption (text : String)
deriving DecidableEq, Repr

namespace UsageError

def message : UsageError → String
  | noRom => "no ROM file given"
  | romMissing path => s!"ROM file {path} does not exist"
  | romIsDirectory path => s!"ROM file {path} is a directory"
  | romUnreadable path => s!"ROM file {path} is not readable"
  | negativeCycles count => s!"number of cycles {count} is negative"
  | outputIsDirectory path => s!"output file {path} is a directory"
  | outputUnreadable path => s!"output file {path} is not readable"
  | badOutput path => s!"there can be no output file {path}"
  | badOption text => s!"cannot make sense of {text}"

def exitCode : Nat := 2

end UsageError

structure Report where
  exit : Nat := 0
  stdout : String := ""
  stderr : String := ""
  written : Option (String × String) := none
  traced : Bool := false
deriving DecidableEq, Repr

def logLine (verbose : Bool) (entry : Level × String) : String :=
  if verbose then s!"{entry.1.name}: {entry.2}\n" else entry.2 ++ "\n"

def log (verbose : Bool) (events : Array Event) : String :=
  events.foldl (fun text event =>
    match event.entryFrom? (if verbose then .debug else .warning) with
    | some entry => text ++ logLine verbose entry
    | none => text) ""

/-- An error's line is plain, the log is as it is. -/
def Report.ofError (error : Error) (verbose : Bool) (events : Array Event) : Report :=
  { exit := error.exitCode
    stderr := log verbose events ++ Plain.ofText error.report ++ "\n"
    traced := verbose && error.exitCode == 3 }

def versionLine : String := "chip8run, version 1.0.0\n"

def announcement (path : Path) : String := Plain.ofText s!"Wrote screen to {path.text}\n"

def romError? (rom : String) : Place → Option UsageError
  | .file true => none
  | .file false => some (.romUnreadable rom)
  | .directory => some (.romIsDirectory rom)
  | .missing | .belowFile | .refused _ => some (.romMissing rom)

def outputError? (output : String) (place : Place) : Option UsageError :=
  if Path.hasNull output then some (.badOutput output)
  else
    match place with
    | .directory => some (.outputIsDirectory output)
    | .file false => some (.outputUnreadable output)
    | .file true | .missing | .belowFile | .refused _ => none

namespace Invocation

def heldKeys (inv : Invocation) : Except Error (List Key) := do
  let byNumeral ← inv.keys.mapM Key.ofNumeral
  let byName ← inv.hostKeys.mapM Key.ofHostName
  return byNumeral ++ byName

def config (inv : Invocation) : Config :=
  { seed := inv.seed, timerMode := if inv.fixedRate then .fixedRate else .perCycle }

def hold (inv : Invocation) (rom : Path) (held : List Key) (emulator : Emulator) :
    Outcome Emulator Unit :=
  .done { emulator with machine := held.foldl Machine.press emulator.machine } ()
    #[.running rom.name inv.cycles.toNat]

def picture (inv : Invocation) (m : Machine) : String :=
  if inv.summary then m.screenText ++ "\n\n" ++ m.summary else m.screenText

section Hosted

variable {m : Type → Type} [Monad m] (host : Host m)

def check (inv : Invocation) (files : Files m) : m (Except UsageError Path) := do
  match inv.rom with
  | none => return .error .noRom
  | some rom =>
    match romError? rom (← files.find rom) with
    | some e => return .error e
    | none =>
      if inv.cycles < 0 then return .error (.negativeCycles inv.cycles)
      else
        match inv.output with
        | none => return .ok (.ofText rom)
        | some output =>
          match outputError? output (← files.find output) with
          | some e => return .error e
          | none => return .ok (.ofText rom)

def conclude (inv : Invocation) (text : String) (written : Option (String × String))
    (events : Array Event) : m Report := do
  match ← host.print text with
  | .error e => return { Report.ofError e inv.verbose events with written }
  | .ok () => return { stdout := text, stderr := log inv.verbose events, written }

def report (inv : Invocation) (o : Outcome Emulator Unit) : m Report := do
  match o.answer with
  | .error e => return .ofError e inv.verbose o.events
  | .ok () =>
    let picture := inv.picture o.state.machine ++ "\n"
    match inv.output with
    | none => inv.conclude host picture none o.events
    | some output =>
      let path := Path.ofText output
      match ← host.write path picture with
      | .error e => return .ofError e inv.verbose o.events
      | .ok () => inv.conclude host (announcement path) (some (path.text, picture)) o.events

def play (inv : Invocation) (path : Path) (held : List Key) (loaded : Outcome Emulator Unit) :
    m (Outcome Emulator Unit) :=
  let ready := loaded.andThen fun _ e => inv.hold path held e
  match ready.answer with
  | .error _ => pure ready
  | .ok () => return (← ready.state.runWith host.now inv.cycles).after ready.events

def runRom (inv : Invocation) (path : Path) : m Report := do
  match inv.heldKeys with
  | .error e => return .ofError e inv.verbose #[]
  | .ok held =>
    -- The clock is the host's: the emulator's own is never read.
    match Emulator.create inv.config none none (.still 0) with
    | .error e => return .ofError e inv.verbose #[]
    | .ok emulator =>
      let rom ← host.readRom path
      inv.report host (← inv.play host path held (emulator.loadRomRead path rom))

def run (inv : Invocation) : m (Except UsageError Report) := do
  if inv.version then return .ok (← inv.conclude host versionLine none #[])
  else
    match ← inv.check host.toFiles with
    | .error e => return .error e
    | .ok path => return .ok (← inv.runRom host path)

end Hosted

end Invocation
end Chip8.Headless
