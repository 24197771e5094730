import Chip8.Headless.Run

namespace Chip8.Headless

inductive Request where
  | help
  | invocation (inv : Invocation)

namespace Arguments

def help : String :=
  "Usage: chip8run [OPTIONS] ROM_FILE\n\n" ++
  "  Run a CHIP-8 ROM headlessly and print the screen.\n\n" ++
  "  -n, --cycles N        number of instructions to execute (default 1000)\n" ++
  "  -s, --seed N          seed for the random number generator (default 7)\n" ++
  "  -k, --key KEY         keypad key 0-F to hold down, may be repeated\n" ++
  "      --host-key KEY    host key to hold down, may be repeated\n" ++
  "      --fixed-rate      pace timers at 60 Hz instead of once per instruction\n" ++
  "  -o, --output FILE     write the screen to a file\n" ++
  "      --state/--no-state  show registers and timers after the screen\n" ++
  "  -v, --verbose         trace every instruction\n" ++
  "      --version         show the version\n" ++
  "      --help            show this text\n"

def flag? (word : String) : Option (Invocation → Invocation) :=
  match word with
  | "--fixed-rate" => some fun inv => { inv with fixedRate := true }
  | "--state" => some fun inv => { inv with summary := true }
  | "--no-state" => some fun inv => { inv with summary := false }
  | "-v" | "--verbose" => some fun inv => { inv with verbose := true }
  | "--version" => some fun inv => { inv with version := true }
  | _ => none

def number (value : String) : Except UsageError Int :=
  match (if value.startsWith "+" then (value.drop 1).toInt? else value.toInt?) with
  | some n => .ok n
  | none => .error (.badOption value)

def setting? (word : String) : Option (String → Invocation → Except UsageError Invocation) :=
  match word with
  | "-n" | "--cycles" => some fun value inv => do return { inv with cycles := ← number value }
  | "-s" | "--seed" => some fun value inv => do return { inv with seed := ← number value }
  | "-k" | "--key" => some fun value inv => .ok { inv with keys := inv.keys ++ [value] }
  | "--host-key" => some fun value inv => .ok { inv with hostKeys := inv.hostKeys ++ [value] }
  | "-o" | "--output" => some fun value inv => .ok { inv with output := some value }
  | _ => none

def split? (word : String) : Option (String × String) :=
  match word.splitOn "=" with
  | option :: first :: rest =>
    if option.startsWith "--" then some (option, "=".intercalate (first :: rest)) else none
  | _ => none

def positional (word : String) (inv : Invocation) : Except UsageError Invocation :=
  if inv.rom.isSome || (word.startsWith "-" && word != "-") then .error (.badOption word)
  else .ok { inv with rom := some word }

def read : List String → Invocation → Except UsageError Invocation
  | [], inv => .ok inv
  | word :: rest, inv =>
    match flag? word, setting? word, rest with
    | some change, _, rest => read rest (change inv)
    | none, some set, value :: rest => do read rest (← set value inv)
    | none, some _, [] => .error (.badOption word)
    | none, none, rest =>
      match split? word with
      | none => do read rest (← positional word inv)
      | some (option, value) =>
        match setting? option with
        | some set => do read rest (← set value inv)
        | none => .error (.badOption word)

def request (words : List String) : Except UsageError Request :=
  if words.contains "--help" then .ok .help else (read words {}).map .invocation

end Arguments
end Chip8.Headless
