import EntityScribe.Yaml.Cursor

/-!
# Quoted scalars

Text between single or double quotes. Line ends inside become blanks as in plain text. Between
double quotes a backslash starts an escape sequence; a single quote between single quotes is written
twice.
-/

namespace EntityScribe.Yaml.QuotedText

/-- What the escape sequences of one character stand for. -/
def simpleEscapes : List (Char × Char) :=
  [('0', '\x00'), ('a', '\x07'), ('b', '\x08'), ('t', '\t'), ('\t', '\t'), ('n', '\n'),
    ('v', '\x0b'), ('f', '\x0c'), ('r', '\r'), ('e', '\x1b'), (' ', ' '), ('"', '"'),
    ('\\', '\\'), ('/', '/'), ('N', '\x85'), ('_', '\xa0'), ('L', '\u2028'), ('P', '\u2029')]

/-- The number of digits after the letters that start a character by its number. -/
def numberedEscapes : List (Char × Nat) :=
  [('x', 2), ('u', 4), ('U', 8)]

/-- The character with a number. -/
def character (code : Nat) : Except Problem Char :=
  if code ≥ 0x80000000 then .error (.value .hugeCharacter)
  else if code ≥ 0x110000 then .error (.value .noCharacter)
  else .ok (Char.ofNat code)

/-- Scalar text as far as it has been read. A problem ends the reading. -/
structure Partial where
  /-- The parts of the text, the last one first. -/
  parts : List (List Char)
  problem : Option Problem
  done : Bool

namespace Partial

def add (p : Partial) (cs : List Char) : Partial :=
  { p with parts := cs :: p.parts }

def fail (p : Partial) (problem : Problem) : Partial :=
  { p with problem := some problem, done := true }

end Partial

/-- Blanks and line ends at the start of a line; a separator of documents is out of place. -/
def emptyLines (found : List Char × Bool) (c : Cursor) : Option ((List Char × Bool) × Cursor) :=
  if found.2 then none
  else
    match (c.skipWhile isBlankOrTab).lineEnd? with
    | some (value, c') => some ((found.1 ++ [value], c'.isSeparator), c'.lookForSeparator)
    | none => none

/-- The line ends from the start of a line on, or nothing if a separator of documents follows
them. -/
def lineEnds (c : Cursor) : Option (List Char) × Cursor :=
  let ((ends, separated), c) := c.lookForSeparator.iterate emptyLines ([], c.isSeparator)
  if separated then (none, c) else (some ends, c.skipWhile isBlankOrTab)

/-- Blanks, tabs and line ends inside a quoted scalar. -/
def space (p : Partial) (c : Cursor) : Partial × Cursor :=
  let (blanks, c) := c.span isBlankOrTab
  match c.lineEnd? with
  | none => (p.add blanks, c)
  | some (first, c) =>
      match lineEnds c with
      | (none, c) => (p.fail .malformed, c)
      | (some others, c) =>
          let start := if first != '\n' then [first] else if others = [] then [' '] else []
          (p.add (start ++ others), c)

/-- The number that a given count of digits stands for, and a look at them up to the first character
that is no digit. -/
def digits (width : Nat) (c : Cursor) : Option Nat × Cursor :=
  let run := (c.rest.take width).takeWhile fun ch => (hexValue? ch).isSome
  if run.length = width then (digitsValue? hexValue? 16 run, c.look width)
  else (none, c.look (run.length + 1))

/-- An escape sequence, from the character after the backslash on. -/
def escape (p : Partial) (c : Cursor) : Partial × Cursor :=
  match simpleEscapes.lookup c.peek with
  | some value => (p.add [value], c.step)
  | none =>
      match numberedEscapes.lookup c.peek with
      | some width =>
          match digits width c.step with
          | (some code, c) =>
              match character code with
              | .ok value => (p.add [value], c.skip width)
              | .error problem => (p.fail problem, c)
          | (none, c) => (p.fail .malformed, c)
      | none =>
          match c.lineEnd? with
          | some (_, c) =>
              match lineEnds c with
              | (some ends, c) => (p.add ends, c)
              | (none, c) => (p.fail .malformed, c)
          | none => (p.fail .malformed, c)

/-- One more piece of a quoted scalar. -/
def piece (quote : Char) (p : Partial) (c : Cursor) : Option (Partial × Cursor) :=
  if p.done then none
  else if c.atEnd then none
  else if c.peek = quote then
    if quote = '\'' ∧ c.peekAt 1 = '\'' then some (p.add ['\''], c.skip 2)
    else some ({ p with done := true }, c.step)
  else if quote = '"' ∧ c.peek = '\\' then
    let (p, c) := escape p c.step
    some (p, c)
  else if isBlankOrTab c.peek || isBreak c.peek then some (space p c)
  else
    let (run, c) := c.span fun ch => !(isGap ch || ch == '"' || ch == '\'' || ch == '\\')
    if run = [] then some (p.add [c.peek], c.step) else some (p.add run, c)

/-- The quoted scalar that starts here. -/
def read (c : Cursor) : Except Problem (String × Cursor) :=
  let (p, c') := c.step.iterate (piece c.peek) ⟨[], none, false⟩
  match p.problem with
  | some problem => c'.fail problem
  | none => if p.done then .ok (String.ofList p.parts.reverse.flatten, c') else c'.fail .malformed

end EntityScribe.Yaml.QuotedText
