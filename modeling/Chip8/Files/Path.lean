namespace Chip8

structure Path where
  root : String
  parts : List String
deriving DecidableEq, Repr

namespace Path

def names (text : String) : List String := (text.toList.splitOn '/').map String.ofList

def hasNull (text : String) : Bool := text.toList.contains '\x00'

def ofText (text : String) : Path where
  root :=
    if text.startsWith "//" && !text.startsWith "///" then "//"
    else if text.startsWith "/" then "/"
    else ""
  parts := (names text).filter fun name => name != "" && name != "."

def text (path : Path) : String :=
  if path.root = "" && path.parts.isEmpty then "." else path.root ++ "/".intercalate path.parts

def name (path : Path) : String := path.parts.getLast?.getD ""

def parent (path : Path) : Path := { path with parts := path.parts.dropLast }

end Path
end Chip8
