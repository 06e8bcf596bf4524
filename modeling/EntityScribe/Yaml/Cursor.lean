import EntityScribe.Yaml.Source

/-!
# Places in a text

A cursor is what is left of a text together with the line and the column it has reached. It also
knows whether more characters have been looked at than there are: if the text has a wall behind it,
that is where the reading stops. A character is looked at before the cursor comes to it, with the
step to it. Loops over a text repeat a step for as long as it moves the cursor forward.
-/

namespace EntityScribe.Yaml

structure Cursor where
  rest : List Char
  /-- The number of characters left. -/
  left : Nat
  line : Nat
  column : Nat
  wall : Option Problem
  /-- Whether the text has been looked at beyond its last character. -/
  beyond : Bool
  left_eq : left = rest.length

namespace Cursor

/-- The next character. -/
def peek (c : Cursor) : Char :=
  c.rest.headD endMark

/-- The character after the next `n`. -/
def peekAt (c : Cursor) (n : Nat) : Char :=
  c.rest.getD n endMark

def atEnd (c : Cursor) : Bool :=
  c.rest.isEmpty

/-- The cursor after a look at the next `n` characters. -/
def look (n : Nat) (c : Cursor) : Cursor :=
  { c with beyond := c.beyond || c.left < n }

/-- The wall, if it has been looked at. -/
def wall? (c : Cursor) : Option Problem :=
  if c.beyond then c.wall else none

/-- The end of the reading for a problem, unless a wall has ended it before. -/
def fail {α : Type} (problem : Problem) (c : Cursor) : Except Problem α :=
  .error (c.wall?.getD problem)

/-- The start of a text, whose first character has been looked at. -/
def ofSource (s : Source) : Cursor :=
  look 1 ⟨s.characters, s.characters.length, 0, 0, s.wall, false, rfl⟩

/-- The byte order mark, which takes no column. -/
def byteOrderMark : Char := '\ufeff'

/-- Past the next character, with a look at the one after it. -/
def step (c : Cursor) : Cursor :=
  match h : c.rest with
  | [] => c
  | ch :: rest =>
      ⟨rest, c.left - 1, if isBreak ch then c.line + 1 else c.line,
        if isBreak ch then 0 else if ch = byteOrderMark then c.column else c.column + 1,
        c.wall, c.beyond || c.left ≤ 1, by simp [c.left_eq, h]⟩

/-- Past the next `n` characters. -/
def skip : Nat → Cursor → Cursor
  | 0, c => c
  | n + 1, c => skip n c.step

/-- The characters from here on that satisfy a test, and the cursor past them. -/
def span (p : Char → Bool) (c : Cursor) : List Char × Cursor :=
  let run := c.rest.takeWhile p
  (run, c.skip run.length)

def skipWhile (p : Char → Bool) (c : Cursor) : Cursor :=
  (c.span p).2

/-- A line end with what it stands for. -/
def lineEnd? (c : Cursor) : Option (Char × Cursor) :=
  if isBreak c.peek then some (breakValue c.peek, c.step) else none

/-- Whether three equal characters stand here. -/
def isTriple (mark : Char) (c : Cursor) : Bool :=
  c.rest.take 3 == [mark, mark, mark]

/-- Whether three equal characters that separate documents stand here. -/
def isMark (mark : Char) (c : Cursor) : Bool :=
  c.isTriple mark && isGap (c.peekAt 3)

/-- Whether a separator of documents stands here, given that a line starts here. -/
def isSeparator (c : Cursor) : Bool :=
  c.isMark '-' || c.isMark '.'

/-- A look at the characters that tell whether a separator of documents stands here. -/
def lookForSeparator (c : Cursor) : Cursor :=
  c.look (if c.isTriple '-' || c.isTriple '.' then 4 else 3)

/-- Repeats a step until it stops or does not move forward. -/
def iterate {α : Type} (move : α → Cursor → Option (α × Cursor)) (a : α) (c : Cursor) :
    α × Cursor :=
  match move a c with
  | none => (a, c)
  | some (a', c') => if c'.left < c.left then iterate move a' c' else (a', c')
termination_by c.left

/-- A comment up to the end of its line. -/
def skipComment (c : Cursor) : Cursor :=
  if c.peek = '#' then c.skipWhile isLineRest else c

/-- The rest of a line that may hold nothing but a comment, with its end. -/
def endLine (c : Cursor) : Except Problem Cursor :=
  let c := (c.skipWhile (· == ' ')).skipComment
  match c.lineEnd? with
  | some (_, c) => .ok c
  | none => if c.atEnd then .ok c else c.fail .malformed

end Cursor

end EntityScribe.Yaml
