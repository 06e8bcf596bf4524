import EntityScribe.Document
import EntityScribe.Failure
import EntityScribe.Newline

/-!
# Text rules

Rules that turn one text into another, for names and for line ends. They are meant for texts; what
they do to values of other kinds is part of the rule.
-/

namespace EntityScribe

inductive TextRule where
  | upperFirst
  | lowerFirst
  /-- What a pool adds in front of names. -/
  | qualifier
  /-- A component's name without the word that ends it. -/
  | shortName
  | unixLineEnds
  | platformLineEnds
  deriving DecidableEq, Repr

namespace TextRule

def name : TextRule → String
  | upperFirst => "uppercase_first"
  | lowerFirst => "lowercase_first"
  | qualifier => "pool_prefix"
  | shortName => "remove_component_suffix"
  | unixLineEnds => "to_unix_line_endings"
  | platformLineEnds => "to_platform_line_endings"

/-- The rules for names. -/
def forNames : List TextRule := [upperFirst, lowerFirst, qualifier, shortName]

def all : List TextRule := forNames ++ [unixLineEnds, platformLineEnds]

def ofName? (name : String) : Option TextRule :=
  all.find? (·.name = name)

@[simp]
theorem ofName?_name (rule : TextRule) : ofName? rule.name = some rule := by
  cases rule <;> decide

/-- A rule on a text, for a platform with the given line end. -/
def onText (lineEnd : String) : TextRule → String → String
  | upperFirst, s => Text.upperFirst s
  | lowerFirst, s => Text.lowerFirst s
  | qualifier, s => Naming.qualifier s
  | shortName, s => Naming.shortName s
  | unixLineEnds, s => Newline.toUnix lineEnd s
  | platformLineEnds, s => Newline.toPlatform lineEnd s

/-- The first of some bytes changed, as a character of ASCII. -/
def onFirstByte (change : Char → Char) : List UInt8 → List UInt8
  | [] => []
  | byte :: rest => UInt8.ofNat (change (Char.ofNat byte.toNat)).toNat :: rest

/-- Bytes have a first letter too, but no other rule is for them. -/
def onBytes (rule : TextRule) (bytes : List UInt8) : Except Misuse Document :=
  match rule with
  | upperFirst => .ok (.scalar (.bytes (onFirstByte Char.toUpper bytes)))
  | lowerFirst => .ok (.scalar (.bytes (onFirstByte Char.toLower bytes)))
  | qualifier => .ok (.scalar (.bytes bytes))
  | _ => .error .unsuitable

/-- A rule on any value. Only texts and bytes begin with a letter, but every list has a beginning;
only the default pool is left out, whatever the other value; and other values have no endings. -/
def apply (lineEnd : String) (rule : TextRule) (value : Document) : Except Misuse Document :=
  match value with
  | .scalar (.text s) => .ok (.text (rule.onText lineEnd s))
  | .scalar (.bytes bytes) => rule.onBytes bytes
  | other =>
      let isList := other.items?.isSome
      match rule, other with
      | qualifier, d => .ok d
      | upperFirst, _ => .error (if isList then .unsupported else .unsuitable)
      | lowerFirst, _ => .error (if isList then .unsupported else .unsuitable)
      | shortName, _ => .error .unsupported
      | _, .scalar (.path _) => .error .unsuitable
      | _, _ => .error .unsupported

end TextRule

end EntityScribe
