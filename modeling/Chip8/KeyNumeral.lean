import Chip8.Error
import Chip8.Keypad
import Chip8.Text.Numeric

/-!
# Keys by number

A keypad key is typed as a hexadecimal numeral in either case. The form is generous: white space
around it, a sign, a leading `0x` before the white space and another one after the sign, leading
zeros, decimal digits of any script, and single underscores between digits.

    numeral  =  ["0x"] blank* [sign] ["0x" ["_"]] digit (["_"] digit)* blank*
-/

namespace Chip8.KeyNumeral

def dropMark? : List Char → Option (List Char)
  | '0' :: 'x' :: rest => some rest
  | _ => none

def digitValue? (c : Char) : Option Nat :=
  if '0' ≤ c ∧ c ≤ '9' then some (c.toNat - 48)
  else if 'a' ≤ c ∧ c ≤ 'f' then some (c.toNat - 87)
  else none

def readRest (value : Nat) : List Char → Option Nat
  | [] => some value
  | '_' :: c :: rest => do readRest (16 * value + (← digitValue? c)) rest
  | c :: rest => do readRest (16 * value + (← digitValue? c)) rest

def readDigits? : List Char → Option Nat
  | [] => none
  | c :: rest => do readRest (← digitValue? c) rest

def readMagnitude? (text : List Char) : Option Nat :=
  match dropMark? text with
  | some ('_' :: rest) => readDigits? rest
  | some rest => readDigits? rest
  | none => readDigits? text

def readSigned? : List Char → Option Int
  | '+' :: rest => (readMagnitude? rest).map Int.ofNat
  | '-' :: rest => (readMagnitude? rest).map fun value => -(value : Int)
  | text => (readMagnitude? text).map Int.ofNat

/-- The number that a text denotes. Capitals beyond ASCII are in no numeral, in either case. -/
def value? (text : String) : Option Int := do
  let lower := text.toList.map Char.toLower
  let ascii ← Numeric.asciiForm? ((dropMark? lower).getD lower)
  readSigned? (Numeric.trim ascii)

end KeyNumeral

def Key.ofNumeral (text : String) : Except Error Key :=
  match KeyNumeral.value? text with
  | none => .error (.badKey (.notNumeral text))
  | some value =>
    if 0 ≤ value ∧ value ≤ 0xF then .ok (Key.ofInt value)
    else .error (.badKey (.notOnKeypad text))

end Chip8
