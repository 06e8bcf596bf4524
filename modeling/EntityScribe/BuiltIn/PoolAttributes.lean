import EntityScribe.Plugin
import EntityScribe.Template

/-!
# Pool attributes

An attribute class for every pool but the default one; components are tagged with it.
-/

namespace EntityScribe.BuiltIn.PoolAttributes

def className : String := "PoolAttributeGenerator"

def template : Template :=
  ⟨["public class \x7b\x7bPool\x7d\x7dAttribute : Entitas.CodeGenerator.PoolAttribute \x7b",
    "    public \x7b\x7bPool\x7d\x7dAttribute() : base(\"\x7b\x7bPool\x7d\x7d\") \x7b",
    "    \x7d",
    "\x7d"]⟩

/-- The lines of a pool's attribute class. -/
def render (pool : String) : Template.Rendering :=
  template.render "attribute" [(.text "Pool", .text pool)]

def artifactName (pool : String) : String :=
  pool ++ "Attribute"

def generate : List String → Answer
  | [] => ⟨.ok [], []⟩
  | pool :: rest =>
      if pool = Naming.defaultPool then generate rest
      else
        let rendering := render pool
        match rendering.outcome with
        | .error failure => ⟨.error failure, rendering.log⟩
        | .ok lines =>
            let others := generate rest
            ⟨others.outcome.map (Artifact.ofLines (artifactName pool) className lines :: ·),
              rendering.log ++ others.log⟩

theorem generate_default (rest : List String) :
    generate (Naming.defaultPool :: rest) = generate rest :=
  if_pos rfl

theorem generate_of_ne {pool : String} (other : pool ≠ Naming.defaultPool) (rest : List String) :
    generate (pool :: rest) =
      match (render pool).outcome with
      | .error failure => ⟨.error failure, (render pool).log⟩
      | .ok lines =>
          ⟨(generate rest).outcome.map (Artifact.ofLines (artifactName pool) className lines :: ·),
            (render pool).log ++ (generate rest).log⟩ :=
  if_neg other

end EntityScribe.BuiltIn.PoolAttributes
