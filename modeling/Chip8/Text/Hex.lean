namespace Chip8.Hex

def upperDigits (value : Nat) : List Char :=
  (Nat.toDigits 16 value).map Char.toUpper

/-- Upper-case digits filled up with zeros to `width` places, which the sign of a negative number
takes part in. -/
def padded (width : Nat) (value : Int) : String :=
  if value < 0 then
    String.ofList ('-' :: (upperDigits value.natAbs).leftpad (width - 1) '0')
  else
    String.ofList ((upperDigits value.natAbs).leftpad width '0')

def word (value : Int) : String := padded 4 value

def byte (value : UInt8) : String := padded 2 value.toNat

def pair (value : UInt8) : List Char :=
  (Nat.toDigits 16 value.toNat).leftpad 2 '0'

def ofBytes (bytes : List UInt8) : String :=
  String.ofList (bytes.flatMap pair)

end Chip8.Hex
