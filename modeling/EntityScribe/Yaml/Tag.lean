import EntityScribe.Yaml.Number
import EntityScribe.Yaml.Timestamp

/-!
# Tags

The tag of a node says what kind of value it is. A plain scalar without a tag gets its tag from its
text, and is a text if it looks like nothing else.
-/

namespace EntityScribe.Yaml

inductive Tag where
  | null
  | bool
  | int
  | float
  | timestamp
  | text
  | list
  | map
  /-- The key of mappings that are taken into another. -/
  | merge
  /-- The key of the value that stands for a whole mapping. -/
  | default
  | unknown
  deriving DecidableEq, Repr

namespace Tag

/-- Whether the tag says that a value is a scalar. -/
def isScalar : Tag → Bool
  | null => true
  | bool => true
  | int => true
  | float => true
  | timestamp => true
  | text => true
  | _ => false

/-- What the names of the usual tags start with. -/
def usualStart : String := "tag:yaml.org,2002:"

/-- The names of tags, without their start. -/
def names : List (String × Tag) :=
  [("null", null), ("bool", bool), ("int", int), ("float", float), ("timestamp", timestamp),
    ("str", text), ("seq", list), ("map", map), ("merge", merge), ("value", default)]

def ofName (name : String) : Tag :=
  (names.map fun (ending, tag) => (usualStart ++ ending, tag)).lookup name |>.getD unknown

def truthWords : List (String × Bool) :=
  [("yes", true), ("no", false), ("true", true), ("false", false), ("on", true), ("off", false)]

/-- A word in lower case, in upper case, or with only its first letter in upper case. -/
def spellings (word : String) : List String :=
  [word, String.ofList (word.toList.map Char.toUpper), Text.upperFirst word]

def isTruthWord (s : String) : Bool :=
  truthWords.any fun (word, _) => (spellings word).contains s

def isNull (s : String) : Bool :=
  s == "" || s == "~" || (spellings "null").contains s

/-- The tag that the text of a plain scalar has by itself. -/
def ofExactText (s : String) : Tag :=
  let cs := s.toList
  if isTruthWord s then bool
  else if Number.isFloat cs then float
  else if Number.isInteger cs then int
  else if s == "<<" then merge
  else if isNull s then null
  else if Timestamp.isPlain cs then timestamp
  else if s == "=" then default
  else text

/-- The tag of a plain scalar. One line feed at the end makes no difference. -/
def ofText (s : String) : Tag :=
  match ofExactText s with
  | .text =>
      match s.toList.reverse with
      | '\n' :: rest => if rest = [] then .text else ofExactText (String.ofList rest.reverse)
      | _ => .text
  | tag => tag

end Tag

end EntityScribe.Yaml
