import Chip8.Error
import Chip8.Keypad
import Chip8.Text.Upper

/-!
# Host keys

A key map gives keypad keys to the named keys of a host keyboard. The usual map lays the keypad on
the left block of a QWERTY keyboard:

    1 2 3 4        1 2 3 C
    Q W E R   ->   4 5 6 D
    A S D F        7 8 9 E
    Z X C V        A 0 B F
-/

namespace Chip8

abbrev KeyMap := List (String × Int)

namespace KeyMap

def usual : KeyMap := [
    ("1", 0x1), ("2", 0x2), ("3", 0x3), ("4", 0xC),
    ("Q", 0x4), ("W", 0x5), ("E", 0x6), ("R", 0xD),
    ("A", 0x7), ("S", 0x8), ("D", 0x9), ("F", 0xE),
    ("Z", 0xA), ("X", 0x0), ("C", 0xB), ("V", 0xF)
  ]

/-- The code of a host key, named in any case. An empty map stands for the usual one. -/
def find? (map : KeyMap) (name : String) : Option Int :=
  (if map.isEmpty then usual else map).lookup (Upper.upper name)

end KeyMap

def Key.ofHostName (name : String) : Except Error Key :=
  match KeyMap.usual.find? name with
  | some code => .ok (Key.ofInt code)
  | none => .error (.badKey (.unmapped name))

end Chip8
