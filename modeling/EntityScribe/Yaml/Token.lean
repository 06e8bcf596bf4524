/-!
# Tokens of YAML text

Indentation has become explicit in tokens: lists and mappings in blocks have a start and an end.
-/

namespace EntityScribe.Yaml

inductive Token where
  /-- A directive with the number of its major version, if it is about the version. -/
  | versionDirective (major : Nat)
  | tagDirective (handle start : String)
  | otherDirective
  | documentStart
  | documentEnd
  | blockListStart
  | blockMapStart
  | blockEnd
  | flowListStart
  | flowListEnd
  | flowMapStart
  | flowMapEnd
  | blockEntry
  | flowEntry
  | key
  | value
  /-- A repetition of the node with an anchor. -/
  | reference (name : String)
  | anchor (name : String)
  /-- A tag with the handle that its beginning is given by, if it has one. -/
  | tag (handle : Option String) (ending : String)
  | scalar (text : String) (isPlain : Bool)
  deriving DecidableEq, Repr

end EntityScribe.Yaml
