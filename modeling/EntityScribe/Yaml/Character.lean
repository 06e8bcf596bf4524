import EntityScribe.Text.Ranges

/-!
# Characters of YAML text

Which characters a text may hold, and which of them end a line or separate tokens. Carriage returns
have become line feeds before a text gets here.
-/

namespace EntityScribe.Yaml

/-- The characters that a text may hold. -/
def allowedRanges : List (Nat × Nat) :=
  [(0x9, 0xA), (0x20, 0x7E), (0x85, 0x85), (0xA0, 0xD7FF), (0xE000, 0xFFFD), (0x10000, 0x10FFFF)]

def isAllowed (c : Char) : Bool :=
  Text.inRanges allowedRanges c.toNat

/-- Line feed, next line, line separator and paragraph separator. -/
def isBreak (c : Char) : Bool :=
  c == '\n' || c == '\x85' || c == '\u2028' || c == '\u2029'

/-- What a line end stands for in a scalar: a line feed, unless it is one of the two separators. -/
def breakValue (c : Char) : Char :=
  if c == '\x85' then '\n' else c

/-- The mark for the end of a text, which is no allowed character. -/
def endMark : Char := '\x00'

/-- A blank, a line end, or the end of the text. -/
def isSpaceOrEnd (c : Char) : Bool :=
  c == ' ' || isBreak c || c == endMark

/-- A blank, a tab, a line end, or the end of the text. -/
def isGap (c : Char) : Bool :=
  c == '\t' || isSpaceOrEnd c

/-- A blank or a tab. -/
def isBlankOrTab (c : Char) : Bool :=
  c == ' ' || c == '\t'

def isLineRest (c : Char) : Bool :=
  !isBreak c && c != endMark

/-- A letter of ASCII, a digit, a hyphen or an underscore. -/
def isNameCharacter (c : Char) : Bool :=
  c.isAlphanum || c == '-' || c == '_'

def isOneOf (characters : String) (c : Char) : Bool :=
  characters.toList.contains c

def hexValue? (c : Char) : Option Nat :=
  if c.isDigit then some (c.toNat - '0'.toNat)
  else if 'a' ≤ c ∧ c ≤ 'f' then some (c.toNat - 'a'.toNat + 10)
  else if 'A' ≤ c ∧ c ≤ 'F' then some (c.toNat - 'A'.toNat + 10)
  else none

/-- The number that digits stand for in a base, if all of them are digits. -/
def digitsValue? (value? : Char → Option Nat) (base : Nat) (cs : List Char) : Option Nat :=
  cs.foldl (fun total c => total.bind fun n => (value? c).map (n * base + ·)) (some 0)

end EntityScribe.Yaml
