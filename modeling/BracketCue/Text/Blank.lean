import BracketCue.Text.Ranges

/-!
# White space

The characters with the Unicode property `White_Space`: twenty-five of them, the six ASCII ones
included.
-/
namespace BracketCue.Text

def blankRanges : Ranges :=
  [(0x09, 0x0d), (0x20, 0x20), (0x85, 0x85), (0xa0, 0xa0), (0x1680, 0x1680), (0x2000, 0x200a),
   (0x2028, 0x2029), (0x202f, 0x202f), (0x205f, 0x205f), (0x3000, 0x3000)]

def isBlank (c : Char) : Bool :=
  blankRanges.holds c.toNat

end BracketCue.Text
