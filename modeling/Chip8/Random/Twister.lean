/-! The 32-bit generator of period 2^19937 - 1, with a state of 624 words. -/

namespace Chip8

/-- The state words and the number of them already used since the last twist. -/
structure Twister where
  words : Vector UInt32 624
  used : Nat

namespace Twister

private def wordAt (words : Vector UInt32 624) (k : Nat) : UInt32 := words[k]?.getD 0

private def fillStep (words : Vector UInt32 624) (k : Nat) : Vector UInt32 624 :=
  let previous := wordAt words (k - 1)
  words.setIfInBounds k ((previous ^^^ (previous >>> 30)) * 1812433253 + UInt32.ofNat k)

def fill (seed : UInt32) : Vector UInt32 624 :=
  (List.range' 1 623).foldl fillStep ((Vector.replicate 624 0).setIfInBounds 0 seed)

def wordsOf (value : Nat) : List UInt32 :=
  if value < UInt32.size then [UInt32.ofNat value]
  else UInt32.ofNat (value % UInt32.size) :: wordsOf (value / UInt32.size)
termination_by value
decreasing_by
  simp only [UInt32.size] at *
  omega

private def mixed (words : Vector UInt32 624) (k : Nat) (factor : UInt32) : UInt32 :=
  let previous := wordAt words (k - 1)
  wordAt words k ^^^ ((previous ^^^ (previous >>> 30)) * factor)

private def advance (words : Vector UInt32 624) (k : Nat) (word : UInt32) :
    Vector UInt32 624 × Nat :=
  let words := words.setIfInBounds k word
  if k + 1 < 624 then (words, k + 1) else (words.setIfInBounds 0 (wordAt words 623), 1)

/-- The state for the words of a key: two rounds of mixing over the state filled from 19650218. -/
def ofKey (key : Array UInt32) : Twister :=
  let first := (List.range (max 624 key.size)).foldl (fun (words, k) step =>
      let j := step % key.size
      advance words k (mixed words k 1664525 + key.getD j 0 + UInt32.ofNat j))
    (fill 19650218, 1)
  let second := (List.range 623).foldl (fun (words, k) _ =>
      advance words k (mixed words k 1566083941 - UInt32.ofNat k))
    first
  ⟨second.1.setIfInBounds 0 0x80000000, 624⟩

def ofSeed (seed : Int) : Twister := ofKey (wordsOf seed.natAbs).toArray

private def twistStep (words : Vector UInt32 624) (k : Nat) : Vector UInt32 624 :=
  let y := (wordAt words k &&& 0x80000000) ||| (wordAt words ((k + 1) % 624) &&& 0x7FFFFFFF)
  let word := wordAt words ((k + 397) % 624) ^^^ (y >>> 1)
  words.setIfInBounds k (if y &&& 1 = 0 then word else word ^^^ 0x9908B0DF)

def twist (words : Vector UInt32 624) : Vector UInt32 624 :=
  (List.range 624).foldl twistStep words

def temper (word : UInt32) : UInt32 :=
  let y := word ^^^ (word >>> 11)
  let y := y ^^^ ((y <<< 7) &&& 0x9D2C5680)
  let y := y ^^^ ((y <<< 15) &&& 0xEFC60000)
  y ^^^ (y >>> 18)

def next (g : Twister) : UInt32 × Twister :=
  let g := if g.used < 624 then g else ⟨twist g.words, 0⟩
  (temper (wordAt g.words g.used), { g with used := g.used + 1 })

def nextByte (g : Twister) : UInt8 × Twister :=
  let (word, g) := g.next
  (UInt8.ofNat (word >>> 24).toNat, g)

end Twister
end Chip8
