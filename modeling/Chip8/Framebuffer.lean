import Chip8.Error
import Chip8.SignedIndex

/-! A grid of pixels, stored row by row, and a mark that it changed since the host last looked.
Sprites are drawn by toggling pixels on the torus. -/

namespace Chip8

structure Framebuffer (width height : Nat) where
  pixels : Vector Bool (width * height)
  dirty : Bool
  width_pos : 0 < width
  height_pos : 0 < height
deriving DecidableEq

abbrev Screen := Framebuffer 64 32

namespace Framebuffer

variable {width height : Nat}

def blank (width_pos : 0 < width) (height_pos : 0 < height) : Framebuffer width height :=
  ⟨Vector.replicate _ false, false, width_pos, height_pos⟩

instance : Inhabited Screen := ⟨blank (by decide) (by decide)⟩

def create (room : Nat → Bool) (width height : Int) :
    Except Error ((w : Nat) × (h : Nat) × Framebuffer w h) :=
  if size : 0 < width ∧ 0 < height then
    (checkSize room (width * height)).map fun _ =>
      ⟨width.toNat, height.toNat, blank (by omega) (by omega)⟩
  else .error (.invalid (.frameSize width height))

def clear (fb : Framebuffer width height) : Framebuffer width height :=
  { fb with pixels := Vector.replicate _ false, dirty := true }

def acknowledge (fb : Framebuffer width height) : Framebuffer width height :=
  { fb with dirty := false }

theorem position_lt {x y : Int} (width_pos : 0 < width) (height_pos : 0 < height) :
    (y % height).toNat * width + (x % width).toNat < width * height := by
  have hx := Int.emod_nonneg x (Int.natCast_ne_zero.2 (Nat.ne_of_gt width_pos))
  have hx' := Int.emod_lt_of_pos x (Int.natCast_pos.2 width_pos)
  have hy := Int.emod_nonneg y (Int.natCast_ne_zero.2 (Nat.ne_of_gt height_pos))
  have hy' := Int.emod_lt_of_pos y (Int.natCast_pos.2 height_pos)
  have row : (y % height).toNat + 1 ≤ height := by omega
  have column : (x % width).toNat < width := by omega
  calc (y % height).toNat * width + (x % width).toNat
      < (y % height).toNat * width + width := by omega
    _ = ((y % height).toNat + 1) * width := by rw [Nat.add_mul, Nat.one_mul]
    _ ≤ height * width := Nat.mul_le_mul_right _ row
    _ = width * height := Nat.mul_comm _ _

/-- Where the pixel at a point of the plane is stored, both coordinates wrapped. -/
def position (fb : Framebuffer width height) (x y : Int) : Fin (width * height) :=
  ⟨(y % height).toNat * width + (x % width).toNat, position_lt fb.width_pos fb.height_pos⟩

/-- The columns of the set bits of a sprite row, the most significant bit in column 0. -/
def litColumns (row : UInt8) : List Nat :=
  (List.range 8).filter fun column => row.toNat.testBit (7 - column)

def spriteBits (rows : List UInt8) : List (Nat × Nat) :=
  rows.zipIdx.flatMap fun (row, dy) => (litColumns row).map fun dx => (dx, dy)

def toggle (pixels : Vector Bool (width * height)) (k : Fin (width * height)) :
    Bool × Vector Bool (width * height) :=
  let lit := pixels.get k
  (lit, pixels.set k (!lit) k.isLt)

/-- Toggles pixels in turn. The answer is `hit`, or whether one was lit when its turn came. -/
def toggleAll (hit : Bool) (pixels : Vector Bool (width * height)) :
    List (Fin (width * height)) → Bool × Vector Bool (width * height)
  | [] => (hit, pixels)
  | first :: rest =>
    let (lit, pixels) := toggle pixels first
    toggleAll (hit || lit) pixels rest

/-- The answer is whether a lit pixel went out on the way. -/
def draw (fb : Framebuffer width height) (x y : Int) (rows : List UInt8) :
    Bool × Framebuffer width height :=
  let positions := (spriteBits rows).map fun (dx, dy) => fb.position (x + dx) (y + dy)
  let (hit, pixels) := toggleAll false fb.pixels positions
  (hit, { fb with pixels, dirty := true })

/-- The pixel stored at `y * width + x`, counted as a signed index. -/
def pixel (fb : Framebuffer width height) (x y : Int) : Except Error Bool :=
  match signedIndex? (width * height) (y * width + x) with
  | some k => .ok (fb.pixels.get k)
  | none => .error (.ofIndex (y * width + x) .readIndex)

def rows (fb : Framebuffer width height) : List (List Bool) :=
  (List.range height).map fun row => (fb.pixels.toList.drop (row * width)).take width

def bytes (fb : Framebuffer width height) : List UInt8 :=
  fb.pixels.toList.map fun lit => if lit then 255 else 0

def textRows (fb : Framebuffer width height) (on off : String) : List String :=
  fb.rows.map fun row => String.join (row.map fun lit => if lit then on else off)

def text (fb : Framebuffer width height) (on off : String) : String :=
  String.intercalate "\n" (fb.textRows on off)

def litCount (fb : Framebuffer width height) : Nat := fb.pixels.toList.count true

end Framebuffer
end Chip8
