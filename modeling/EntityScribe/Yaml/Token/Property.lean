import EntityScribe.Text.Digit
import EntityScribe.Yaml.Cursor
import EntityScribe.Yaml.Token

/-!
# Anchors, tags and directives

What stands in front of a node: names for it and its tag; and what stands in front of a document:
directives about the version and about the handles of tags.
-/

namespace EntityScribe.Yaml.Property

/-! ## Anchors and aliases -/

/-- The name of an anchor or an alias, after its mark. -/
def anchorName (c : Cursor) : Except Problem (String × Cursor) :=
  let (name, c) := c.span isNameCharacter
  if name = [] then c.fail .malformed
  else if isGap c.peek || isOneOf "?:,]\x7d%@\x60" c.peek then .ok (String.ofList name, c)
  else c.fail .malformed

/-! ## Tags -/

def isTagCharacter (c : Char) : Bool :=
  c.isAlphanum || isOneOf "-;/?:@&=+$,_.!~*'()[]%" c

/-- Tag text as far as it has been read, and whether it holds something that is no text. -/
structure Partial where
  text : List Char
  isBroken : Bool

/-- The two digits of a byte, or a look at what is no digit. -/
def escapedByte (c : Cursor) : Option UInt8 × Cursor :=
  match hexValue? c.peek, hexValue? (c.peekAt 1) with
  | none, _ => (none, c.look 1)
  | some _, none => (none, c.look 2)
  | some first, some second => (some (UInt8.ofNat (first * 16 + second)), c.skip 2)

/-- The bytes of a run of percent signs with digits. A percent sign without digits is an error. -/
def escapedBytes (found : List UInt8 × Bool) (c : Cursor) : Option ((List UInt8 × Bool) × Cursor) :=
  if found.2 || c.peek ≠ '%' then none
  else
    match escapedByte c.step with
    | (some byte, c) => some ((found.1 ++ [byte], false), c)
    | (none, c) => some ((found.1, true), c)

def tagPiece (p : Partial) (c : Cursor) : Option (Partial × Cursor) :=
  if p.isBroken || !isTagCharacter c.peek then none
  else if c.peek = '%' then
    let ((bytes, isBroken), c) := c.iterate escapedBytes ([], false)
    if isBroken then some ({ p with isBroken := true }, c)
    else
      match String.fromUTF8? ⟨bytes.toArray⟩ with
      | some s => some (⟨p.text ++ s.toList, false⟩, c)
      | none => some ({ p with isBroken := true }, c)
  else
    let (run, c) := c.span fun ch => isTagCharacter ch && ch != '%'
    some (⟨p.text ++ run, false⟩, c)

/-- The text of a tag, or of what tags with a handle start with. -/
def tagText (c : Cursor) : Except Problem (String × Cursor) :=
  let (p, c') := c.iterate tagPiece ⟨[], false⟩
  if p.isBroken || c'.left == c.left then c'.fail .malformed else .ok (String.ofList p.text, c')

/-- A handle: an exclamation mark, or a name between two of them. -/
def handle (c : Cursor) : Except Problem (String × Cursor) :=
  if c.peek ≠ '!' then c.fail .malformed
  else if c.peekAt 1 = ' ' then .ok ("!", c.step)
  else
    let (name, c) := c.step.span isNameCharacter
    if c.peek = '!' then .ok (String.ofList ('!' :: name ++ ['!']), c.step) else c.fail .malformed

/-- The characters after an exclamation mark up to the next one or to the next space. -/
def untilMark (c : Cursor) : List Char :=
  c.step.rest.takeWhile fun ch => !isSpaceOrEnd ch && ch != '!'

/-- A tag with a handle, which is more than its mark if there is a second one. -/
def tagWithHandle (c : Cursor) : Except Problem (Token × Cursor) := do
  let size := (untilMark c).length + 1
  let hasSecondMark := c.peekAt size == '!'
  let c := c.look (size + 1)
  let (handle, c) ← if hasSecondMark then handle c else .ok ("!", c.step)
  let (text, c) ← tagText c
  return (.tag (some handle) text, c)

def tagParts (c : Cursor) : Except Problem (Token × Cursor) := do
  if c.peekAt 1 = '<' then
    let (text, c) ← tagText (c.skip 2)
    if c.peek = '>' then return (.tag none text, c.step) else c.fail .malformed
  else if isGap (c.peekAt 1) then return (.tag none "!", c.step)
  else tagWithHandle c

/-- The tag that starts here; a space must follow. -/
def tag (c : Cursor) : Except Problem (Token × Cursor) := do
  let (token, c) ← tagParts c
  if isSpaceOrEnd c.peek then return (token, c) else c.fail .malformed

/-! ## Directives -/

/-- A number of a version. -/
def versionNumber (c : Cursor) : Except Problem (Nat × Cursor) :=
  let (digits, c) := c.span Char.isDigit
  if digits = [] then c.fail .malformed
  else if digits.length > Text.digitLimit then c.fail (.value (.tooManyDigits digits.length))
  else .ok ((digitsValue? hexValue? 10 digits).getD 0, c)

def version (c : Cursor) : Except Problem (Token × Cursor) := do
  let (major, c) ← versionNumber (c.skipWhile (· == ' '))
  if c.peek ≠ '.' then c.fail .malformed
  else
    let (_, c) ← versionNumber c.step
    if isSpaceOrEnd c.peek then return (.versionDirective major, c) else c.fail .malformed

def tagHandle (c : Cursor) : Except Problem (Token × Cursor) := do
  let (handle, c) ← handle (c.skipWhile (· == ' '))
  if c.peek ≠ ' ' then c.fail .malformed
  else
    let (start, c) ← tagText (c.skipWhile (· == ' '))
    if isSpaceOrEnd c.peek then return (.tagDirective handle start, c) else c.fail .malformed

/-- What a directive with a name is about. Unknown ones are passed over. -/
def directiveBody (name : String) (c : Cursor) : Except Problem (Token × Cursor) :=
  if name = "YAML" then version c
  else if name = "TAG" then tagHandle c
  else .ok (.otherDirective, c.skipWhile isLineRest)

/-- The directive that starts here, up to the end of its line. -/
def directive (c : Cursor) : Except Problem (Token × Cursor) := do
  let (name, c) := c.step.span isNameCharacter
  if name = [] ∨ !isSpaceOrEnd c.peek then c.fail .malformed
  else
    let (token, c) ← directiveBody (String.ofList name) c
    return (token, ← c.endLine)

end EntityScribe.Yaml.Property
