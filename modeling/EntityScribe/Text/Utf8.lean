/-!
# UTF-8

Bytes are decoded in pieces. A piece may end inside a character, whose bytes then wait for the next
one.
-/

namespace EntityScribe.Text.Utf8

/-- What bytes from the start of a character on come to. -/
inductive Sequence where
  | complete (c : Char)
  | unfinished
  | invalid

def isContinuation (byte : UInt8) : Bool :=
  0x80 ≤ byte && byte ≤ 0xBF

/-- Whether a second byte can follow a first one. Long forms of short characters and numbers beyond
the last character are left out. -/
def isSecond (first second : UInt8) : Bool :=
  if first = 0xE0 then 0xA0 ≤ second && second ≤ 0xBF
  else if first = 0xF0 then 0x90 ≤ second && second ≤ 0xBF
  else if first = 0xF4 then 0x80 ≤ second && second ≤ 0x8F
  else isContinuation second

/-- Whether two bytes begin a surrogate, which is no character. They are refused with the byte after
them. -/
def isSurrogate (first second : UInt8) : Bool :=
  first = 0xED && 0xA0 ≤ second

/-- The character of a first byte, without the bits that mark it, and continuations. -/
def character (first : Nat) (more : List UInt8) : Char :=
  Char.ofNat (more.foldl (fun code byte => code * 64 + (byte.toNat - 0x80)) first)

/-- The first bytes of a character, at least one. -/
def sequenceOf : List UInt8 → Sequence
  | [a] =>
      if a < 0x80 then .complete (Char.ofNat a.toNat)
      else if 0xC2 ≤ a ∧ a ≤ 0xF4 then .unfinished
      else .invalid
  | [a, b] =>
      if !isSecond a b then .invalid
      else if a < 0xE0 then .complete (character (a.toNat - 0xC0) [b])
      else .unfinished
  | [a, b, c] =>
      if !isContinuation c || isSurrogate a b then .invalid
      else if a < 0xF0 then .complete (character (a.toNat - 0xE0) [b, c])
      else .unfinished
  | [a, b, c, d] =>
      if isContinuation d then .complete (character (a.toNat - 0xF0) [b, c, d]) else .invalid
  | _ => .invalid

/-- The characters of a piece that follows some waiting bytes, and the bytes that wait after it.
Bytes that are no text have none. -/
def decode : List UInt8 → List UInt8 → Option (List Char × List UInt8)
  | waiting, [] => some ([], waiting)
  | waiting, byte :: rest =>
      match sequenceOf (waiting ++ [byte]) with
      | .complete c => (decode [] rest).map fun (cs, waiting) => (c :: cs, waiting)
      | .unfinished => decode (waiting ++ [byte]) rest
      | .invalid => none

end EntityScribe.Text.Utf8
