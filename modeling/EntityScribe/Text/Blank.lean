import EntityScribe.Text.Ranges

/-!
# Blank characters

The white space of Unicode together with the four separators U+001C to U+001F, and what is left
of a text when blanks are taken off its ends.
-/

namespace EntityScribe.Text

/-- The 29 blank characters. -/
def blankRanges : List (Nat × Nat) :=
  [(0x9, 0xD), (0x1C, 0x20), (0x85, 0x85), (0xA0, 0xA0), (0x1680, 0x1680), (0x2000, 0x200A),
    (0x2028, 0x2029), (0x202F, 0x202F), (0x205F, 0x205F), (0x3000, 0x3000)]

def isBlank (c : Char) : Bool :=
  inRanges blankRanges c.toNat

/-- The blanks a text begins with. -/
def leadingBlanks (s : String) : String :=
  String.ofList (s.toList.takeWhile isBlank)

/-- The characters without the blanks at either end. -/
def stripChars (cs : List Char) : List Char :=
  ((cs.dropWhile isBlank).reverse.dropWhile isBlank).reverse

/-- The text without the blanks at either end. -/
def strip (s : String) : String :=
  String.ofList (stripChars s.toList)

/-- A text is blank if it holds no other characters; the empty text is blank. -/
def allBlank (s : String) : Bool :=
  s.toList.all isBlank

end EntityScribe.Text
