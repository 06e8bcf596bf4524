import EntityScribe.Text.LetterCase

/-!
# Names in generated code

Every pool has a lookup class for the components in it, and a component is known there by its short
name. The default pool adds nothing to the names derived from it; every other pool adds itself.
-/

namespace EntityScribe.Naming

def defaultPool : String := "Pool"

def componentSuffix : String := "Component"

/-- The lookup class of the default pool, and the end of the name of every other. -/
def lookupSuffix : String := "ComponentIds"

/-- What a pool adds in front of the names derived from it. -/
def qualifier (pool : String) : String :=
  if pool = defaultPool then "" else pool

@[simp]
theorem qualifier_defaultPool : qualifier defaultPool = "" := by simp [qualifier]

theorem qualifier_of_ne {pool : String} (h : pool ≠ defaultPool) : qualifier pool = pool := by
  simp [qualifier, h]

/-- The lookup class of a pool. -/
def lookupTag (pool : String) : String :=
  qualifier pool ++ lookupSuffix

/-- A component's name without the word that ends it, unless nothing else would be left. -/
def shortName (component : String) : String :=
  let ending := componentSuffix.toList
  let cs := component.toList
  if ending.isSuffixOf cs && cs != ending then String.ofList (cs.take (cs.length - ending.length))
  else component

end EntityScribe.Naming
