import EntityScribe.Yaml.Cursor

/-!
# Block scalars

Indented lines after a bar, which keeps their line ends, or after an angle bracket, which joins
lines by blanks. A header says what becomes of the line ends at the end, and may give the
indentation.
-/

namespace EntityScribe.Yaml.BlockText

/-- What becomes of the line ends after the last line. -/
inductive Chomping where
  | strip
  | clip
  | keep
  deriving DecidableEq, Repr

structure Header where
  chomping : Chomping
  /-- The additional indentation, from 1 to 9. -/
  increment : Option Nat

def chomping? (c : Char) : Option Chomping :=
  if c = '+' then some .keep else if c = '-' then some .strip else none

def increment? (c : Char) : Option Nat :=
  if c.isDigit then some (c.toNat - '0'.toNat) else none

/-- The additional indentation that stands here, if any; it cannot be zero. -/
def increment (c : Cursor) : Except Problem (Option Nat × Cursor) :=
  match increment? c.peek with
  | some 0 => c.fail .malformed
  | some n => .ok (some n, c.step)
  | none => .ok (none, c)

/-- The two parts of a header, in either order. -/
def headerParts (c : Cursor) : Except Problem (Header × Cursor) := do
  match chomping? c.peek with
  | some chomping =>
      let (n, c) ← increment c.step
      return (⟨chomping, n⟩, c)
  | none =>
      let (n, c) ← increment c
      match n, chomping? c.peek with
      | some _, some chomping => return (⟨chomping, n⟩, c.step)
      | _, _ => return (⟨.clip, n⟩, c)

def header (c : Cursor) : Except Problem (Header × Cursor) := do
  let (h, c) ← headerParts c
  if !isSpaceOrEnd c.peek then c.fail .malformed
  else return (h, ← c.endLine)

/-- Line ends and blanks, with the greatest column on the way. -/
def leadingLines (found : List Char × Nat) (c : Cursor) : Option ((List Char × Nat) × Cursor) :=
  if c.peek = ' ' then some ((found.1, max found.2 c.step.column), c.step)
  else
    match c.lineEnd? with
    | some (value, c') => some ((found.1 ++ [value], found.2), c')
    | none => none

/-- Line ends and the blanks of the indentation. -/
def emptyLines (indent : Nat) (found : List Char) (c : Cursor) : Option (List Char × Cursor) :=
  if c.column < indent ∧ c.peek = ' ' then some (found, c.step)
  else
    match c.lineEnd? with
    | some (value, c') => some (found ++ [value], c')
    | none => none

/-- A block scalar as far as it has been read. -/
structure Partial where
  /-- The parts of the text, the last one first. -/
  parts : List (List Char)
  /-- The line ends after the last line but its own. -/
  ends : List Char
  /-- The end of the last line. -/
  last : List Char
  done : Bool

/-- What stands between two lines. -/
def join (folded more : Bool) (last ends : List Char) : List Char :=
  if folded && more && last == ['\n'] then (if ends = [] then [' '] else []) else last

/-- One more line of a block scalar. -/
def line (folded : Bool) (indent : Nat) (p : Partial) (c : Cursor) : Option (Partial × Cursor) :=
  if p.done || c.column != indent || c.atEnd then none
  else
    let startsWithText := !isBlankOrTab c.peek
    let (text, c) := c.span isLineRest
    let (last, c) :=
      match c.lineEnd? with
      | some (value, c') => ([value], c')
      | none => ([], c)
    let (ends, c) := c.iterate (emptyLines indent) []
    let parts := text :: p.ends :: p.parts
    if c.column = indent ∧ !c.atEnd then
      let between := join folded (startsWithText && !isBlankOrTab c.peek) last ends
      some (⟨between :: parts, ends, last, false⟩, c)
    else some (⟨parts, ends, last, true⟩, c)

/-- The block scalar that starts here, inside a block with the given indentation. -/
def read (outer : Int) (c : Cursor) : Except Problem (String × Cursor) := do
  let folded := c.peek = '>'
  let (h, c) ← header c.step
  let least := (max (outer + 1) 1).toNat
  let (indent, ends, c) :=
    match h.increment with
    | some n =>
        let indent := least + n - 1
        let (ends, c) := c.iterate (emptyLines indent) []
        (indent, ends, c)
    | none =>
        let ((ends, deepest), c) := c.iterate leadingLines ([], 0)
        (max least deepest, ends, c)
  let (p, c) := c.iterate (line folded indent) ⟨[], ends, [], false⟩
  let tail :=
    match h.chomping with
    | .strip => []
    | .clip => p.last
    | .keep => p.last ++ p.ends
  return (String.ofList (p.parts.reverse.flatten ++ tail), c)

end EntityScribe.Yaml.BlockText
