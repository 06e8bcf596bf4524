import EntityScribe.Decimal.Layout
import EntityScribe.Document
import EntityScribe.Text.Digit
import EntityScribe.Text.Quoted

/-!
# The text of a document

A text stands for itself at the top and is quoted inside a list or a mapping; all other values are
written in one way everywhere. Inside itself, a list or a mapping is only hinted at. Values that
stand too deep inside one another cannot be written, and neither can very long integers.
-/

namespace EntityScribe

/-- Numbers have a plain decimal point for exponents from -4 to 15, and otherwise a signed exponent
of at least two digits. -/
def numberLayout : Decimal.Layout where
  plainFrom := -4
  plainBelow := 16
  exponentMark := 'e'
  exponentWidth := 2
  infinity := "inf"
  notANumber := "nan"

/-- Why something cannot be written. -/
inductive Unwritable where
  /-- An integer in it has too many digits. -/
  | longInteger
  /-- Values stand too deep inside one another in it. -/
  | tooDeep
  deriving DecidableEq, Repr

def Unwritable.message : Unwritable → String
  | longInteger =>
      "Exceeds the limit (" ++ toString Text.digitLimit ++
        " digits) for integer string conversion; " ++
        "use sys.set_int_max_str_digits() to increase the limit"
  | tooDeep => "maximum recursion depth exceeded while getting the repr of an object"

namespace Scalar

/-- How a scalar is written inside a list or a mapping. -/
def quoted : Scalar → String
  | null => "None"
  | bool b => if b then "True" else "False"
  | int n => toString n
  | float x => numberLayout.render x
  | notANumber _ => numberLayout.notANumber
  | text s => Text.quoted s
  | date d => d.quoted
  | moment m => m.quoted
  | bytes bs => Text.quotedBytes bs
  | path p => "PosixPath(" ++ Text.quoted p ++ ")"

/-- How a scalar is written by itself. -/
def asText : Scalar → String
  | text s => s
  | date d => d.text
  | moment m => m.text
  | path p => p
  | other => other.quoted

/-- Whether a scalar can be written: an integer with too many digits cannot. -/
def isWritable : Scalar → Bool
  | int n => n.natAbs < Nat.pow 10 Text.digitLimit
  | _ => true

/-- What keeps a scalar from being written. -/
def obstacle? (s : Scalar) : Option Unwritable :=
  if s.isWritable then none else some .longInteger

end Scalar

/-- Parts between brackets, with commas. -/
def bracketed (left right : String) (parts : List String) : String :=
  left ++ ", ".intercalate parts ++ right

/-- How documents are written inside one another. -/
def writing : Walk String where
  scalar := Scalar.quoted
  list := bracketed "[" "]"
  map entries :=
    bracketed "\x7b" "\x7d" (entries.map fun (key, value) => key.quoted ++ ": " ++ value)
  enclosing
    | .list _ => "[...]"
    | .map _ => "\x7b...\x7d"
  nothing := ""

/-- How many values that are written may stand inside one another. Each takes a call, and of the
1000 calls that may stand inside one another some are taken already. -/
def writingRoom : Nat := 985

/-- A value is only written if there is room left for it, and what it holds in the room after it. -/
def withRoom (held : Nat → Option Unwritable) : Nat → Option Unwritable
  | 0 => some .tooDeep
  | room + 1 => held room

/-- What first keeps documents from being written in some room. -/
def obstruction : Walk (Nat → Option Unwritable) where
  scalar s := withRoom fun _ => s.obstacle?
  list items := withRoom fun room => items.findSome? (· room)
  map entries := withRoom fun room =>
    entries.findSome? fun (key, value) => (withRoom (fun _ => key.obstacle?) room).or (value room)
  enclosing _ := withRoom fun _ => none
  nothing := fun _ => none

namespace Document

/-- How a document is written inside another. -/
def quoted (d : Document) : String :=
  d.walk writing

/-- What first keeps a document from being written in some room. -/
def obstacleWithin? (room : Nat) (d : Document) : Option Unwritable :=
  d.walk obstruction room

/-- What first keeps a document from being written. -/
def obstacle? (d : Document) : Option Unwritable :=
  d.obstacleWithin? writingRoom

/-- How a document is written by itself. -/
def asText : Document → String
  | .scalar s => s.asText
  | other => other.quoted

@[simp]
theorem asText_text (s : String) : (text s).asText = s := rfl

end Document

/-- A list of texts, quoted. -/
def quotedList (texts : List String) : String :=
  bracketed "[" "]" (texts.map Text.quoted)

end EntityScribe
