import EntityScribe.Yaml.Cursor

/-!
# Plain scalars

Text without quotes. It may go on over several lines; a line end inside becomes a blank, and of more
line ends all but the first stay.
-/

namespace EntityScribe.Yaml.Plain

/-- Whether a plain scalar may start with a character whatever comes after it. -/
def isSafeStart (c : Char) : Bool :=
  !(isGap c || isOneOf "-?:,[]\x7b\x7d#&*!|>'\"%@\x60" c)

/-- Whether a plain scalar may start here. -/
def starts (inFlow : Bool) (c : Cursor) : Bool :=
  let first := c.peek
  isSafeStart first ||
    (!isGap (c.peekAt 1) && (first == '-' || (!inFlow && (first == '?' || first == ':'))))

/-- Whether a plain scalar stops before its next character. -/
def stops (inFlow : Bool) (first second : Char) : Bool :=
  isGap first ||
    (first == ':' && (isGap second || (inFlow && isOneOf ",[]\x7b\x7d" second))) ||
    (inFlow && isOneOf ",?[]\x7b\x7d" first)

/-- The number of characters up to where a plain scalar stops. -/
def runLength (inFlow : Bool) : List Char → Nat
  | [] => 0
  | first :: rest =>
      if stops inFlow first (rest.headD endMark) then 0 else runLength inFlow rest + 1

/-- Line ends with blanks between them, up to a line with something else on it. The second part
tells whether that is a separator of documents. -/
def emptyLines (found : List Char × Bool) (c : Cursor) : Option ((List Char × Bool) × Cursor) :=
  if found.2 then none
  else if c.peek = ' ' then some (found, c.step)
  else
    match c.lineEnd? with
    | some (value, c') => some ((found.1 ++ [value], c'.isSeparator), c'.lookForSeparator)
    | none => none

/-- The space between two parts of a plain scalar. -/
structure Space where
  /-- What it stands for; nothing if the scalar cannot go on. -/
  text : List Char
  cursor : Cursor
  /-- Whether there is a line end in it. -/
  hasBreak : Bool

def space (c : Cursor) : Space :=
  let (blanks, c) := c.span (· == ' ')
  match c.lineEnd? with
  | none => ⟨blanks, c, false⟩
  | some (first, c) =>
      let c := c.lookForSeparator
      if c.isSeparator then ⟨[], c, true⟩
      else
        let ((others, separated), c) := c.iterate emptyLines ([], false)
        if separated then ⟨[], c, true⟩
        else
          let start := if first != '\n' then [first] else if others = [] then [' '] else []
          ⟨start ++ others, c, true⟩

/-- A plain scalar as far as it has been read. -/
structure Partial where
  /-- The parts of its text, the last one first. -/
  parts : List (List Char)
  /-- The space after the text. -/
  space : List Char
  /-- Whether the last space had a line end. -/
  atLineStart : Bool
  done : Bool

/-- A look at the characters that tell where a run of `n` characters stops: a colon does not stop it
without a look at what comes after. -/
def lookForStop (n : Nat) (c : Cursor) : Cursor :=
  c.look (if c.peekAt n == ':' then n + 2 else n + 1)

/-- One more part of a plain scalar and the space after it. -/
def part (inFlow : Bool) (indent : Nat) (p : Partial) (c : Cursor) : Option (Partial × Cursor) :=
  if p.done || c.peek == '#' then none
  else
    let n := runLength inFlow c.rest
    let c := lookForStop n c
    if n = 0 then some ({ p with done := true }, c)
    else
      let parts := c.rest.take n :: p.space :: p.parts
      let after := space (c.skip n)
      let done := after.text.isEmpty || after.cursor.peek == '#' ||
        (!inFlow && after.cursor.column < indent)
      some (⟨parts, after.text, after.hasBreak, done⟩, after.cursor)

/-- The plain scalar that starts here, with the cursor past the space after it, and whether that
space had a line end. -/
def read (inFlow : Bool) (indent : Nat) (c : Cursor) : String × Cursor × Bool :=
  let (p, c) := c.iterate (part inFlow indent) ⟨[], [], false, false⟩
  (String.ofList p.parts.reverse.flatten, c, p.atLineStart)

end EntityScribe.Yaml.Plain
