import SmbExchange.Text.CodeRange

/-!
# Blanks

The characters that separate words: the space, tabs, line ends, and the wider and narrower spaces of
the world's scripts.
-/

namespace SmbExchange.Blank

def ranges : List CodeRange := [
  (0x9, 0xD), (0x20, 0x20), (0x85, 0x85), (0xA0, 0xA0), (0x1680, 0x1680), (0x2000, 0x200A),
  (0x2028, 0x2029), (0x202F, 0x202F), (0x205F, 0x205F), (0x3000, 0x3000)]

def isBlank (char : Char) : Bool :=
  inRanges ranges char.toNat

def trimStart (chars : List Char) : List Char :=
  chars.dropWhile isBlank

def trimEnd (chars : List Char) : List Char :=
  (trimStart chars.reverse).reverse

def trim (chars : List Char) : List Char :=
  trimEnd (trimStart chars)

end SmbExchange.Blank
