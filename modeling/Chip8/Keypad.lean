import Chip8.Error

namespace Chip8

abbrev Key := Fin 16

def Key.ofInt (code : Int) : Key := ⟨(code % 16).toNat, by omega⟩

structure Keypad where
  down : Vector Bool 16
deriving DecidableEq

namespace Keypad

def released : Keypad := ⟨Vector.replicate 16 false⟩

def isDown (pad : Keypad) (key : Key) : Bool := pad.down.get key

def setAll (pad : Keypad) (states : List Bool) : Except Error Unit × Keypad :=
  if h : states.length = 16 then (.ok (), ⟨⟨states.toArray, by simpa using h⟩⟩)
  else (.error (.invalid (.keyCount states.length)), pad)

def put (pad : Keypad) (key : Key) (state : Bool) : Keypad := ⟨pad.down.set key state key.isLt⟩

def press (pad : Keypad) (key : Key) : Keypad := pad.put key true

def release (pad : Keypad) (key : Key) : Keypad := pad.put key false

def anyDown (pad : Keypad) : Bool := pad.down.any id

def first? (pad : Keypad) : Option Key := (List.finRange 16).find? pad.isDown

end Keypad

structure KeySource where
  vectors : Nat → List Bool
  asked : Nat

namespace KeySource

def ofList (vectors : List (List Bool)) : KeySource :=
  ⟨fun k => vectors.getD k (List.replicate 16 false), 0⟩

def next (source : KeySource) : List Bool × KeySource :=
  (source.vectors source.asked, { source with asked := source.asked + 1 })

end KeySource
end Chip8
