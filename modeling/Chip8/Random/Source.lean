import Chip8.Error
import Chip8.Random.Twister

namespace Chip8

inductive RandomSource where
  | seeded (seed : Int) (generator : Twister)
  | stream (bytes : Nat → UInt8) (taken : Nat)

namespace RandomSource

def ofSeed (seed : Int) : RandomSource := .seeded seed (Twister.ofSeed seed)

def usualSeed : Int := 7

def script (values : List Int) : Except Error RandomSource :=
  if values.isEmpty then .error (.invalid .emptyScript)
  else
    let bytes := (values.map UInt8.ofInt).toArray
    .ok (.stream (fun k => bytes.getD (k % bytes.size) 0) 0)

def next : RandomSource → UInt8 × RandomSource
  | seeded seed generator =>
    let (byte, generator) := generator.nextByte
    (byte, .seeded seed generator)
  | stream bytes taken => (bytes taken, .stream bytes (taken + 1))

def rewind : RandomSource → RandomSource
  | seeded seed _ => ofSeed seed
  | stream bytes taken => .stream bytes taken

def take (count : Nat) (source : RandomSource) : Array UInt8 × RandomSource :=
  count.repeat (fun (bytes, source) =>
    let (byte, source) := source.next
    (bytes.push byte, source)) (#[], source)

end RandomSource
end Chip8
