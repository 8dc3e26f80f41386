/-!
# White space

The characters that leave a gap in a text, as Unicode's property `White_Space` lists them.
-/
namespace VolumeDrain.Text

/-- Whether a character is white space. -/
def isWhiteSpace (c : Char) : Bool :=
  let n := c.toNat
  (9 ≤ n && n ≤ 13) || n == 32 || n == 0x85 || n == 0xA0 || n == 0x1680 ||
    (0x2000 ≤ n && n ≤ 0x200A) || n == 0x2028 || n == 0x2029 || n == 0x202F || n == 0x205F ||
    n == 0x3000

/-- Whether a text holds nothing but white space. -/
def isBlank (s : String) : Bool := s.toList.all isWhiteSpace

/-- The text from its first character on that is no white space. -/
def skipBlanks (cs : List Char) : List Char := cs.dropWhile isWhiteSpace

end VolumeDrain.Text
