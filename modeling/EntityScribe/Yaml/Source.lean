import EntityScribe.Text.Lines
import EntityScribe.Text.Utf8
import EntityScribe.Yaml.Character
import EntityScribe.Yaml.Problem

/-!
# Sources of YAML text

A text is not looked at as a whole before it is read. It comes in reads of 4096 characters, of which
the first two make one portion and every later one is a portion of its own, and a portion is taken
when its first character is needed. Bytes that are no text stop the read that needs them, and a
character that is not allowed stops its portion. So what is wrong later in a text does not matter if
the reading ends before.
-/

namespace EntityScribe.Yaml

/-- The characters that can be read, and the wall behind them if the text does not end there. -/
structure Source where
  characters : List Char
  wall : Option Problem

namespace Source

/-- The number of characters in a read. -/
def readSize : Nat := 4096

/-- The least number of bytes that are decoded at once. -/
def pieceSize : Nat := 8192

/-- What has been made of the bytes of a text so far. -/
structure Supply where
  bytes : List UInt8
  /-- The bytes of a character that is not complete. -/
  waiting : List UInt8
  /-- Whether a carriage return waits for the character after it. -/
  afterReturn : Bool
  /-- The characters that have not been read. -/
  ready : List Char
  /-- The number of bytes in the last piece. -/
  lastBytes : Nat
  /-- The number of characters that the last piece gave. -/
  lastCharacters : Nat

namespace Supply

/-- The number of bytes in the next piece: as many as should be enough for the rest of a read, by
the measure of the last piece. -/
def nextSize (s : Supply) : Nat :=
  max pieceSize ((readSize - s.ready.length) * s.lastBytes / s.lastCharacters)

/-- Decodes one more piece. All line ends become line feeds. -/
def decodePiece (s : Supply) : Option Supply := do
  let piece := s.bytes.take s.nextSize
  let (decoded, waiting) ← Text.Utf8.decode s.waiting piece
  let whole := if s.afterReturn && !decoded.isEmpty then '\r' :: decoded else decoded
  let endsInReturn := whole.getLast? == some '\r'
  let given := Text.unifyLineEnds (if endsInReturn then whole.dropLast else whole)
  return {
    bytes := s.bytes.drop s.nextSize
    waiting := waiting
    afterReturn := endsInReturn || (s.afterReturn && decoded.isEmpty)
    ready := s.ready ++ given
    lastBytes := piece.length
    lastCharacters := given.length }

/-- The last read, or nothing if a character is not complete. -/
def lastRead? (s : Supply) : Option (List Char) :=
  if s.waiting = [] then some (s.ready ++ if s.afterReturn then ['\n'] else []) else none

/-- The reads up to the end of the text or up to bytes that are no text, with whether they come to
the end. Every step takes a read or some bytes; the limit bounds their number. -/
def reads : Nat → Supply → List (List Char) × Bool
  | 0, _ => ([], true)
  | limit + 1, s =>
      if s.ready.length ≥ readSize then
        let (more, isWhole) := reads limit { s with ready := s.ready.drop readSize }
        (s.ready.take readSize :: more, isWhole)
      else if s.bytes.isEmpty then
        match s.lastRead? with
        | some last => ([last], true)
        | none => ([], false)
      else
        match s.decodePiece with
        | some next => reads limit next
        | none => ([], false)

end Supply

/-- The portions of a text from its reads. A first read alone is a portion only at the end. -/
def portions : List (List Char) → Bool → List (List Char)
  | [], _ => []
  | [only], isWhole => if isWhole then [only] else []
  | first :: second :: rest, _ => (first ++ second) :: rest

/-- The source that gives some portions, with the wall behind them. -/
def ofPortions (wall : Option Problem) : List (List Char) → Source
  | [] => ⟨[], wall⟩
  | portion :: rest =>
      if portion.all isAllowed then
        let later := ofPortions wall rest
        { later with characters := portion ++ later.characters }
      else ⟨[], some .malformed⟩

/-- The source for the bytes of a text. -/
def ofBytes (bytes : ByteArray) : Source :=
  let (reads, isWhole) := Supply.reads (bytes.size + 2) ⟨bytes.toList, [], false, [], 0, 0⟩
  ofPortions (if isWhole then none else some .undecodable) (portions reads isWhole)

end Source

end EntityScribe.Yaml
