import ChainQuery.Text.Ranges
import ChainQuery.Text.WordTable

/-!
# Word characters

The characters that words are made of: letters and digits of every script, and the underscore.
-/

namespace ChainQuery.Text

/-- Whether a character is a letter or digit of some script or the underscore. -/
def isWordChar (c : Char) : Bool :=
  if c.toNat < 0x80 then c.isAlphanum || c == '_' else inRanges wordRanges c.toNat

end ChainQuery.Text
