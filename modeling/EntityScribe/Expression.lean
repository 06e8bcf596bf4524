import EntityScribe.Document.Text
import EntityScribe.TextRule

/-!
# Expressions

An expression takes one value through a chain of rules for names and gives the text of the result.
-/

namespace EntityScribe

/-- The rules of a chain, the first to be applied first. -/
structure Expression where
  rules : List TextRule

namespace Expression

/-- The name that an expression has for its value. -/
def valueName : String := "value"

/-- An expression from the names of its rules. -/
def ofNames (names : List String) : Except Failure Expression :=
  match names.find? (fun name => !TextRule.forNames.any (·.name = name)) with
  | some name => .error (.unknown name)
  | none => .ok ⟨names.filterMap TextRule.ofName?⟩

/-- The value at the end of the chain. -/
def evaluate (e : Expression) (value : Document) : Except Misuse Document :=
  e.rules.foldlM (fun d rule => rule.apply "\n" d) value

/-- The text of the result. Without a value there is none. -/
def render (e : Expression) (value : Option Document) : Except Failure String :=
  match value with
  | none => .error (.undefined valueName)
  | some d =>
      match e.evaluate d with
      | .ok result => .ok result.asText
      | .error misuse => .error (.misuse misuse)

end Expression

end EntityScribe
