import EntityScribe.Yaml.Token.BlockText
import EntityScribe.Yaml.Token.Plain
import EntityScribe.Yaml.Token.Property
import EntityScribe.Yaml.Token.QuotedText

/-!
# From text to tokens

A key of a mapping is known only by the colon after it. So the place of every token that may turn
out to be a key is kept, one for each level of brackets, until a colon comes or the line ends; the
tokens for the start of a mapping and of its key are then put in before it. Only the tokens before
all such places are settled. They are all that is to be had when a problem ends the reading.
-/

namespace EntityScribe.Yaml

/-- A place where a key may have started. -/
structure KeyPlace where
  /-- The level of brackets. -/
  level : Nat
  /-- The number of tokens before it. -/
  position : Nat
  /-- Whether anything else than a key is out of place there. -/
  isRequired : Bool
  left : Nat
  line : Nat
  column : Nat

structure Lexer where
  cursor : Cursor
  /-- The tokens so far, the last one first. -/
  tokens : List Token
  count : Nat
  /-- The level of brackets. -/
  level : Nat
  /-- The column of the current block, -1 outside all blocks. -/
  indent : Int
  /-- The columns of the blocks around it. -/
  outer : List Int
  /-- Whether a key may start here. -/
  keyAllowed : Bool
  places : List KeyPlace

/-- A key and the colon after it are at most this many characters apart. -/
def longestKey : Nat := 1024

namespace Lexer

def start (source : Source) : Lexer :=
  ⟨Cursor.ofSource source, [], 0, 0, -1, [], true, []⟩

def inFlow (x : Lexer) : Bool :=
  x.level != 0

def push (x : Lexer) (t : Token) : Lexer :=
  { x with tokens := t :: x.tokens, count := x.count + 1 }

def moveTo (x : Lexer) (c : Cursor) : Lexer :=
  { x with cursor := c }

/-- The end of the reading for a problem. -/
def fail {α : Type} (x : Lexer) (problem : Problem) : Except Problem α :=
  x.cursor.fail problem

/-- Stops at the wall behind the text if it has been looked at. -/
def checkWall (x : Lexer) : Except Problem Lexer :=
  match x.cursor.wall? with
  | some problem => .error problem
  | none => .ok x

/-- Puts tokens in at an earlier position. -/
def insert (x : Lexer) (position : Nat) (ts : List Token) : Lexer :=
  let later := x.count - position
  { x with
    tokens := x.tokens.take later ++ ts.reverse ++ x.tokens.drop later
    count := x.count + ts.length }

/-! ## Keys -/

def isStale (x : Lexer) (p : KeyPlace) : Bool :=
  p.line != x.cursor.line || p.left - x.cursor.left > longestKey

/-- Forgets the places whose line has ended; where a key was required, that is an error. -/
def dropStale (x : Lexer) : Except Problem Lexer :=
  if x.places.any fun p => x.isStale p && p.isRequired then x.fail .malformed
  else .ok { x with places := x.places.filter fun p => !x.isStale p }

/-- The number of tokens that no key can change any more. -/
def settled (x : Lexer) : Nat :=
  x.places.foldl (fun n p => min n p.position) x.count

/-- Forgets the place of the current level. -/
def dropPlace (x : Lexer) : Except Problem Lexer :=
  if x.places.any fun p => p.level == x.level && p.isRequired then x.fail .malformed
  else .ok { x with places := x.places.filter fun p => p.level != x.level }

/-- Keeps the current place if a key may start here. -/
def keepPlace (x : Lexer) : Except Problem Lexer :=
  if x.keyAllowed then do
    let x ← x.dropPlace
    let place : KeyPlace :=
      { level := x.level
        position := x.count
        isRequired := !x.inFlow && x.indent == x.cursor.column
        left := x.cursor.left
        line := x.cursor.line
        column := x.cursor.column }
    return { x with places := place :: x.places }
  else .ok x

/-! ## Indentation -/

/-- Whether a column is further in than the current block. -/
def isDeeper (x : Lexer) (column : Nat) : Bool :=
  x.indent < column

/-- A new block at a column. -/
def enter (x : Lexer) (column : Nat) : Lexer :=
  { x with outer := x.indent :: x.outer, indent := column }

/-- The blocks that end before a column, and the one that does not. -/
def closing (column : Int) : Int → List Int → List Token → Int × List Int × List Token
  | indent, [], ends => (indent, [], ends)
  | indent, next :: outer, ends =>
      if indent > column then closing column next outer (.blockEnd :: ends)
      else (indent, next :: outer, ends)

/-- Ends the blocks that are further in than a column; inside brackets indentation means nothing. -/
def unwind (x : Lexer) (column : Int) : Lexer :=
  if x.inFlow then x
  else
    let (indent, outer, ends) := closing column x.indent x.outer []
    { x with
      indent := indent
      outer := outer
      tokens := ends ++ x.tokens
      count := x.count + ends.length }

/-! ## Tokens -/

/-- Passes blanks, comments and line ends. -/
def passGap (inFlow : Bool) (keyAllowed : Bool) (c : Cursor) : Option (Bool × Cursor) :=
  let c := (c.skipWhile (· == ' ')).skipComment
  match c.lineEnd? with
  | some (_, c) => some (keyAllowed || !inFlow, c)
  | none => none

/-- Goes to the next token. -/
def toNext (x : Lexer) (isFirst : Bool) : Lexer :=
  let c := if isFirst && x.cursor.peek == Cursor.byteOrderMark then x.cursor.step else x.cursor
  let (keyAllowed, c) := c.iterate (passGap x.inFlow) x.keyAllowed
  { x with cursor := (c.skipWhile (· == ' ')).skipComment, keyAllowed := keyAllowed }

/-- A line that concerns documents ends all blocks. -/
def documentLine (x : Lexer) : Except Problem Lexer := do
  let x ← (x.unwind (-1)).dropPlace
  return { x with keyAllowed := false }

def separator (x : Lexer) (t : Token) : Except Problem Lexer := do
  let x ← x.documentLine
  return (x.push t).moveTo (x.cursor.skip 3)

def openBracket (x : Lexer) (t : Token) : Except Problem Lexer := do
  let x ← x.keepPlace
  return ({ x with level := x.level + 1, keyAllowed := true }.push t).moveTo x.cursor.step

def closeBracket (x : Lexer) (t : Token) : Except Problem Lexer := do
  let x ← x.dropPlace
  if x.level = 0 then x.cursor.step.fail .malformed
  else return ({ x with level := x.level - 1, keyAllowed := false }.push t).moveTo x.cursor.step

def flowEntry (x : Lexer) : Except Problem Lexer := do
  let x ← x.dropPlace
  return ({ x with keyAllowed := true }.push .flowEntry).moveTo x.cursor.step

/-- Starts a block here, unless one at this column is open. -/
def openBlock (x : Lexer) (t : Token) : Except Problem Lexer :=
  if x.inFlow then .ok x
  else if !x.keyAllowed then x.fail .malformed
  else if x.isDeeper x.cursor.column then .ok ((x.enter x.cursor.column).push t)
  else .ok x

def blockEntry (x : Lexer) : Except Problem Lexer := do
  let x ← x.openBlock .blockListStart
  let x ← x.dropPlace
  return ({ x with keyAllowed := true }.push .blockEntry).moveTo x.cursor.step

def explicitKey (x : Lexer) : Except Problem Lexer := do
  let x ← x.openBlock .blockMapStart
  let x ← x.dropPlace
  return ({ x with keyAllowed := !x.inFlow }.push .key).moveTo x.cursor.step

/-- Makes a key of the token at a place. -/
def markKey (x : Lexer) (p : KeyPlace) : Lexer :=
  let x := { x with places := x.places.filter fun q => q.level != x.level, keyAllowed := false }
  if !x.inFlow && x.isDeeper p.column then
    (x.enter p.column).insert p.position [.blockMapStart, .key]
  else x.insert p.position [.key]

def value (x : Lexer) : Except Problem Lexer := do
  match x.places.find? (·.level == x.level) with
  | some place => return ((x.markKey place).push .value).moveTo x.cursor.step
  | none =>
      let x ← x.openBlock .blockMapStart
      let x ← x.dropPlace
      return ({ x with keyAllowed := !x.inFlow }.push .value).moveTo x.cursor.step

/-- A token that may be the start of a key but after which no key may start. -/
def nodePart (x : Lexer) (read : Cursor → Except Problem (Token × Cursor)) :
    Except Problem Lexer := do
  let x ← x.keepPlace
  let (t, c) ← read x.cursor
  return ({ x with keyAllowed := false }.push t).moveTo c

def reference (c : Cursor) : Except Problem (Token × Cursor) := do
  let (name, c) ← Property.anchorName c.step
  return (.reference name, c)

def anchor (c : Cursor) : Except Problem (Token × Cursor) := do
  let (name, c) ← Property.anchorName c.step
  return (.anchor name, c)

def quoted (c : Cursor) : Except Problem (Token × Cursor) := do
  let (text, c) ← QuotedText.read c
  return (.scalar text false, c)

def blockText (x : Lexer) : Except Problem Lexer := do
  let x ← { x with keyAllowed := true }.dropPlace
  let (text, c) ← BlockText.read x.indent x.cursor
  return (x.push (.scalar text false)).moveTo c

def plain (x : Lexer) : Except Problem Lexer := do
  let x ← x.keepPlace
  let (text, c, atLineStart) := Plain.read x.inFlow (x.indent + 1).toNat x.cursor
  return ({ x with keyAllowed := atLineStart }.push (.scalar text true)).moveTo c

/-- Whether a one-character mark stands here by itself. -/
def isMark (x : Lexer) : Bool :=
  isGap (x.cursor.peekAt 1)

/-- A look at as many characters as it takes to tell what kind of token starts here. -/
def lookAround (x : Lexer) : Lexer :=
  let c := x.cursor
  let first := c.peek
  let c := if c.column = 0 && (first == '-' || first == '.') then c.lookForSeparator else c
  let needsNext := first == '-' || (!x.inFlow && (first == '?' || first == ':'))
  x.moveTo (if needsNext then c.look 2 else c)

/-- A plain scalar, the only kind of token that is left when the first character is the mark of no
other. -/
def plainOnly (x : Lexer) : Except Problem Lexer :=
  let x := if Plain.isSafeStart x.cursor.peek then x else x.moveTo (x.cursor.look 2)
  if Plain.starts x.inFlow x.cursor then x.plain else x.fail .malformed

/-- Reads the token that starts here. -/
def token (x : Lexer) : Except Problem Lexer :=
  let x := x.lookAround
  let c := x.cursor
  let first := c.peek
  if first = '%' ∧ c.column = 0 then do
    let x ← x.documentLine
    let (t, c) ← Property.directive x.cursor
    return (x.push t).moveTo c
  else if c.column = 0 ∧ c.isMark '-' then x.separator .documentStart
  else if c.column = 0 ∧ c.isMark '.' then x.separator .documentEnd
  else if first = '[' then x.openBracket .flowListStart
  else if first = '\x7b' then x.openBracket .flowMapStart
  else if first = ']' then x.closeBracket .flowListEnd
  else if first = '\x7d' then x.closeBracket .flowMapEnd
  else if first = ',' then x.flowEntry
  else if first = '-' ∧ x.isMark then x.blockEntry
  else if first = '?' ∧ (x.inFlow || x.isMark) then x.explicitKey
  else if first = ':' ∧ (x.inFlow || x.isMark) then x.value
  else if first = '*' then x.nodePart reference
  else if first = '&' then x.nodePart anchor
  else if first = '!' then x.nodePart Property.tag
  else if (first = '|' ∨ first = '>') ∧ !x.inFlow then x.blockText
  else if first = '\'' ∨ first = '"' then x.nodePart quoted
  else x.plainOnly

/-- Goes to the next token, or to the end of the text, and ends the blocks before it. -/
def advance (x : Lexer) (isFirst : Bool) : Except Problem Lexer := do
  let x ← (x.toNext isFirst).checkWall
  let x ← x.dropStale
  return x.unwind x.cursor.column

/-- One more token; nothing at the end of the text, where no required key may be left open. -/
def more (x : Lexer) (isFirst : Bool) : Except Problem (Lexer × Bool) := do
  let x ← x.advance isFirst
  if x.cursor.atEnd then return (← (x.unwind (-1)).dropPlace, false)
  else return (← (← x.token).checkWall, true)

/-- Tokens with the problem that stopped their reading, if there was one. -/
structure Output where
  tokens : List Token
  problem : Option Problem

/-- What is to be had if a problem stops the reading. -/
def upTo (x : Lexer) (settled : Nat) (problem : Problem) : Output :=
  ⟨x.tokens.reverse.take settled, some problem⟩

/-- The rest of the tokens, of which some are settled. Every token takes at least one character. -/
def finish (x : Lexer) (isFirst : Bool) (settled : Nat) : Output :=
  match x.dropStale with
  | .error problem => x.upTo settled problem
  | .ok ready =>
      match ready.more isFirst with
      | .error problem => ready.upTo ready.settled problem
      | .ok (done, false) => ⟨done.tokens.reverse, none⟩
      | .ok (next, true) =>
          if next.cursor.left < x.cursor.left then finish next false ready.settled
          else ready.upTo ready.settled .malformed
termination_by x.cursor.left

/-- All tokens of a text. -/
def run (x : Lexer) : Output :=
  match x.checkWall with
  | .error problem => x.upTo 0 problem
  | .ok x => x.finish true 0

end Lexer

/-- The tokens of a text. -/
def Token.ofSource (source : Source) : Lexer.Output :=
  (Lexer.start source).run

end EntityScribe.Yaml
