import TapeCompiler.Text.Basic

/-!
# White space

The characters with the Unicode property white space, and texts without them at either end.
-/

namespace TapeCompiler

/-- Whether a character has the Unicode property white space. -/
def isWhiteSpace (c : Char) : Bool :=
  (0x09 ≤ c.toNat && c.toNat ≤ 0x0D) || (0x2000 ≤ c.toNat && c.toNat ≤ 0x200A)
    || [0x20, 0x85, 0xA0, 0x1680, 0x2028, 0x2029, 0x202F, 0x205F, 0x3000].contains c.toNat

/-- A text without the white space at its ends. -/
def Text.trim (t : Text) : Text :=
  ((t.dropWhile isWhiteSpace).reverse.dropWhile isWhiteSpace).reverse

end TapeCompiler
