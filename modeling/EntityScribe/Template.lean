import EntityScribe.Failure
import EntityScribe.Log
import EntityScribe.Text.Lines
import EntityScribe.Text.Replace
import EntityScribe.Text.Word

/-!
# Line templates

A template is a list of lines with placeholders, each a key between double braces. A line is dropped
with a warning if one of its keys has no value. A line that is one placeholder between blanks gives
a line for each line of its value; in all other lines the placeholders are replaced key after key.
-/

namespace EntityScribe

structure Template where
  lines : List String
  deriving DecidableEq, Repr

namespace Template

/-! ## Placeholders -/

/-- A key with its closing braces at the front of some characters. -/
def keyAt (cs : List Char) : Option (List Char) :=
  let key := cs.takeWhile Text.isWord
  if key ≠ [] ∧ ['}', '}'].isPrefixOf (cs.dropWhile Text.isWord) then some key else none

/-- The keys of the placeholders in a line, from left to right; the first argument counts the
characters of the placeholder that is being passed. -/
def keysIn : Nat → List Char → List (List Char)
  | _, [] => []
  | skip + 1, _ :: rest => keysIn skip rest
  | 0, c :: rest =>
      match c, rest with
      | '{', '{' :: more =>
          match keyAt more with
          | some key => key :: keysIn (key.length + 3) rest
          | none => keysIn 0 rest
      | _, _ => keysIn 0 rest

/-- The keys of a line, with repetitions. -/
def keys (line : String) : List String :=
  (keysIn 0 line.toList).map String.ofList

/-- The placeholder for a key. -/
def placeholder (key : String) : String :=
  "\x7b\x7b" ++ key ++ "\x7d\x7d"

/-! ## Lines -/

/-- What becomes of one line of a template. -/
inductive LineText where
  /-- The keys that have no value. -/
  | missing (keys : List String)
  | lines (lines : List String)
  /-- A value for several lines holds something that is no text. -/
  | unusable
  deriving DecidableEq, Repr

/-- The line for one item of a value, none for an empty one. -/
def itemLine (indent : String) (item : Document) : Except Misuse (Option String) :=
  if item.isVoid then .ok none
  else
    match item.text? with
    | some s => .ok (some (indent ++ s))
    | none => .error .unsuitable

/-- The items of a value: those of a list, or the lines of its text. -/
def itemsOf (value : Document) : List Document :=
  match value.items? with
  | some items => items
  | none => (Text.splitLines value.asText).map Document.text

/-- The lines for a placeholder that stands alone. -/
def standalone (indent : String) (value : Document) : LineText :=
  match (itemsOf value).mapM (itemLine indent) with
  | .ok lines => .lines (lines.filterMap id)
  | .error _ => .unusable

/-- A line with its placeholders replaced, one occurrence of a key after the other. -/
def inline (values : Entries Document) (line : String) (keys : List String) : String :=
  keys.foldl
    (fun text key =>
      Text.replaceAll text (placeholder key) ((values.get? key).getD Document.null).asText)
    line

/-- What becomes of a line under some values. -/
def lineText (values : Entries Document) (line : String) : LineText :=
  let keys := keys line
  match keys.filter (fun key => (values.get? key).isNone) with
  | [] =>
      match keys with
      | [key] =>
          if Text.strip line = placeholder key then
            standalone (Text.leadingBlanks line) ((values.get? key).getD Document.null)
          else .lines [inline values line keys]
      | _ => .lines [inline values line keys]
  | missing => .missing missing

/-! ## Templates -/

/-- How the rendering of a template ends, with the warnings up to there. -/
structure Rendering where
  outcome : Except Failure (List String)
  log : List LogRecord

/-- The warning about a dropped line. -/
def warning (name : String) (missing : List String) : LogRecord :=
  ⟨.warning, .template,
    "Template " ++ name ++ " references unknown vars: " ++ quotedList missing⟩

def renderLines (name : String) (values : Entries Document) : List String → Rendering
  | [] => ⟨.ok [], []⟩
  | line :: rest =>
      match lineText values line with
      | .missing missing =>
          let others := renderLines name values rest
          { others with log := warning name missing :: others.log }
      | .lines lines =>
          let others := renderLines name values rest
          { others with outcome := others.outcome.map (lines ++ ·) }
      | .unusable => ⟨.error (.misuse .unsuitable), []⟩

/-- The lines of a template under some values. The name shows in the warnings. -/
def render (t : Template) (name : String) (values : Entries Document) : Rendering :=
  renderLines name values t.lines

end Template

end EntityScribe
