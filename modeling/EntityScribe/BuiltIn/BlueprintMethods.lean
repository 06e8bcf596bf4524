import EntityScribe.Code
import EntityScribe.Plugin
import EntityScribe.Template

/-!
# Blueprint methods

One class with a method for every blueprint. Without blueprints there is no such class.
-/

namespace EntityScribe.BuiltIn.BlueprintMethods

def className : String := "BlueprintsGenerator"

def artifactName : String := "BlueprintsGeneratedExtension"

def template : Template :=
  ⟨["namespace Entitas.Unity.Serialization.Blueprints \x7b",
    "    public static class BlueprintsExtension \x7b",
    "        \x7b\x7bMethods\x7d\x7d",
    "    \x7d",
    "\x7d"]⟩

/-- The name of a blueprint's method: its words run together, the first letter in upper case. -/
def methodName (blueprint : String) : String :=
  Text.upperFirst (String.ofList (blueprint.toList.filter (· != ' ')))

def method (blueprint : String) : String :=
  Code.inlineBlock
    ("public static Blueprint " ++ methodName blueprint ++ "(this Blueprints blueprints)")
    ("return blueprints.GetBlueprint(\"" ++ blueprint ++ "\");")

def render (blueprints : List String) : Template.Rendering :=
  template.render "blueprints"
    [(.text "Methods", .list (blueprints.map fun blueprint => .text (method blueprint)))]

def generate (blueprints : List String) : Answer :=
  if blueprints = [] then ⟨.ok [], []⟩
  else
    let rendering := render blueprints
    ⟨rendering.outcome.map fun lines => [Artifact.ofLines artifactName className lines],
      rendering.log⟩

end EntityScribe.BuiltIn.BlueprintMethods
