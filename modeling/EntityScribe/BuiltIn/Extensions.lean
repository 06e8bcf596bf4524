import EntityScribe.Code
import EntityScribe.Plugin
import EntityScribe.Text.Lines

/-!
# Component extensions

Accessors for every component, as extensions of entities: a flag for a component without fields, and
otherwise a property with methods that add, replace and remove the component. A component that
stands for a single entity also extends pools. All of them refer to the component by its constant in
a lookup class.
-/

namespace EntityScribe.BuiltIn.Extensions

def className : String := "ComponentExtensionsGenerator"

def artifactName (c : Component) : String :=
  c.name ++ "GeneratedExtension"

/-- The constant of a component in its lookup class. -/
def reference (c : Component) : String :=
  c.lookupTag ++ "." ++ c.shortName

/-- The short name as names of variables begin. -/
def variableName (c : Component) : String :=
  Text.lowerFirst c.shortName

/-- The parameter that gives a field its value. -/
def parameterName (f : Field) : String :=
  "new" ++ Text.upperFirst f.name

def parameter (f : Field) : String :=
  f.type ++ " " ++ parameterName f

/-- The parameters for all fields. -/
def parameters (c : Component) : String :=
  ", ".intercalate (c.fields.map parameter)

def assignment (f : Field) : String :=
  "component." ++ f.name ++ " = " ++ parameterName f ++ ";"

/-- A new component with all its fields assigned. -/
def construction (c : Component) : List String :=
  ("var component = new " ++ c.name ++ "();") :: c.fields.map assignment

/-- The only instance of a component without fields. -/
def instanceName (c : Component) : String :=
  variableName c ++ "Component"

def flagName (c : Component) : String :=
  "is" ++ c.shortName

def flagMembers (constant : String) (c : Component) : List String :=
  ["static readonly " ++ c.name ++ " " ++ instanceName c ++ " = new " ++ c.name ++ "();", ""] ++
    Code.block ("public bool " ++ flagName c)
      (Code.inlineBlock "get" ("return HasComponent(" ++ constant ++ ");") ::
        Code.block "set"
          (Code.block ("if (value != " ++ flagName c ++ ")")
            (Code.choice "value"
              ["AddComponent(" ++ constant ++ ", " ++ instanceName c ++ ");"]
              ["RemoveComponent(" ++ constant ++ ");"])))

/-- A property with nothing but a getter. -/
def property (type name value : String) : String :=
  Code.inlineBlock ("public " ++ type ++ " " ++ name)
    (Code.inlineBlock "get" ("return " ++ value ++ ";"))

def valueProperty (constant : String) (c : Component) : String :=
  property c.name (variableName c) ("(" ++ c.name ++ ")GetComponent(" ++ constant ++ ")")

def presenceProperty (constant : String) (c : Component) : String :=
  property "bool" ("has" ++ c.shortName) ("HasComponent(" ++ constant ++ ")")

def addMethod (constant : String) (c : Component) : List String :=
  Code.block ("public Entity Add" ++ c.shortName ++ "(" ++ parameters c ++ ")")
    (construction c ++ ["return AddComponent(" ++ constant ++ ", component);"])

def replaceMethod (constant : String) (c : Component) : List String :=
  Code.block ("public Entity Replace" ++ c.shortName ++ "(" ++ parameters c ++ ")")
    (construction c ++
      ["ReplaceComponent(" ++ constant ++ ", component);", "return this;"])

def removeMethod (constant : String) (c : Component) : List String :=
  Code.block ("public Entity Remove" ++ c.shortName ++ "()")
    ["return RemoveComponent(" ++ constant ++ ");"]

def valueMembers (constant : String) (c : Component) : List String :=
  [valueProperty constant c, "", presenceProperty constant c, ""] ++ addMethod constant c ++ [""] ++
    replaceMethod constant c ++ [""] ++ removeMethod constant c

/-- What a component adds to entities. -/
def entityMembers (constant : String) (c : Component) : List String :=
  if c.fields = [] then flagMembers constant c else valueMembers constant c

/-- What a component that stands for a single entity adds to pools. -/
def poolMembers (constant : String) (c : Component) : List String :=
  [property "Entity" (variableName c ++ "Entity")
    ("GetGroup(" ++ constant ++ ").GetSingleEntity()")]

/-- The code for a component that is known by a constant. -/
def lines (constant : String) (c : Component) : List String :=
  Code.block "namespace Entitas"
    (Code.block "public partial class Entity" (entityMembers constant c) ++
      (if c.single then "" :: Code.block "public partial class Pool" (poolMembers constant c)
      else []))

def artifact (c : Component) : Artifact :=
  ⟨artifactName c, className, Text.unlines (lines (reference c) c)⟩

def generate (components : List Component) : Answer :=
  ⟨.ok (components.map artifact),
    [⟨.debug, .componentGenerators,
      "Generated extensions for " ++ toString components.length ++ " components"⟩]⟩

end EntityScribe.BuiltIn.Extensions
