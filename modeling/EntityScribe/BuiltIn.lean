import EntityScribe.BuiltIn.BlueprintMethods
import EntityScribe.BuiltIn.Extensions
import EntityScribe.BuiltIn.LookupClasses
import EntityScribe.BuiltIn.PoolAccessors
import EntityScribe.BuiltIn.PoolAttributes

/-!
# Built-in generators

The generators that settings can name. The one for lookup classes takes part in two phases: it
remembers the pools of the first for the second.
-/

namespace EntityScribe

inductive BuiltIn where
  | poolAttributes
  | pools
  | componentIndices
  | componentExtensions
  | blueprints
  deriving DecidableEq, Repr

/-- The pools that plugins remember, each in a slot of its own. -/
abbrev PoolMemory := Nat → List String

/-- Nothing is remembered yet. -/
def PoolMemory.none : PoolMemory := fun _ => []

def PoolMemory.store (memory : PoolMemory) (slot : Nat) (pools : List String) : PoolMemory :=
  fun n => if n = slot then pools else memory n

/-- A handler that neither reads nor changes the memory. -/
def Handler.plain {α σ : Type} (f : α → Answer) : Handler α σ :=
  fun slice memory => ⟨f slice, memory⟩

namespace BuiltIn

/-- All of them, in the order in which they run by default. -/
def all : List BuiltIn := [poolAttributes, pools, componentIndices, componentExtensions, blueprints]

def name : BuiltIn → String
  | poolAttributes => "pool_attributes"
  | pools => "pools"
  | componentIndices => "component_indices"
  | componentExtensions => "component_extensions"
  | blueprints => "blueprints"

def names : List String := all.map name

def ofName? (name : String) : Option BuiltIn :=
  all.find? (·.name = name)

@[simp]
theorem ofName?_name (b : BuiltIn) : ofName? b.name = some b := by
  cases b <;> decide

def className : BuiltIn → String
  | poolAttributes => PoolAttributes.className
  | pools => PoolAccessors.className
  | componentIndices => LookupClasses.className
  | componentExtensions => Extensions.className
  | blueprints => BlueprintMethods.className

def onPools (slot : Nat) : BuiltIn → Option (Handler (List String) PoolMemory)
  | poolAttributes => some (.plain PoolAttributes.generate)
  | pools => some (.plain PoolAccessors.generate)
  | componentIndices => some fun pools memory => ⟨⟨.ok [], []⟩, memory.store slot pools⟩
  | componentExtensions => none
  | blueprints => none

def onComponents (slot : Nat) : BuiltIn → Option (Handler (List Component) PoolMemory)
  | poolAttributes => none
  | pools => none
  | componentIndices =>
      some fun components memory => ⟨LookupClasses.generate (memory slot) components, memory⟩
  | componentExtensions => some (.plain Extensions.generate)
  | blueprints => none

def onBlueprints : BuiltIn → Option (Handler (List String) PoolMemory)
  | blueprints => some (.plain BlueprintMethods.generate)
  | _ => none

/-- An instance of a generator, with the slot of its memory. -/
def plugin (b : BuiltIn) (slot : Nat) : Plugin PoolMemory where
  className := b.className
  name := some b.className
  onPools := b.onPools slot
  onComponents := b.onComponents slot
  onBlueprints := b.onBlueprints

/-- New instances of generators, each with a slot of its own. -/
def plugins (generators : List BuiltIn) : List (Plugin PoolMemory) :=
  generators.zipIdx.map fun (b, slot) => b.plugin slot

end BuiltIn

end EntityScribe
