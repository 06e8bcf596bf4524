import EntityScribe.Artifact
import EntityScribe.Log
import EntityScribe.Model

/-!
# Plugins

A plugin turns slices of the model into artifacts. It is called once for every slice that it has a
handler for. Between calls a plugin may remember things: a handler reads the memory that all plugins
of a run share and leaves a new one behind.
-/

namespace EntityScribe

/-- The phases of a run, one for each slice of the model. -/
inductive Phase where
  | pools
  | components
  | blueprints
  deriving DecidableEq, Repr

namespace Phase

/-- The phases in the order in which they run. -/
def all : List Phase := [pools, components, blueprints]

def name : Phase → String
  | pools => "pools"
  | components => "components"
  | blueprints => "blueprints"

def ofName? (name : String) : Option Phase :=
  all.find? (·.name = name)

end Phase

/-- What a generator makes of a slice: its artifacts or the failure that stopped it, and what it
has logged on the way. -/
structure Answer where
  outcome : Except Failure (List Artifact)
  log : List LogRecord

/-- An answer together with the memory that the handler leaves behind. -/
structure Reply (σ : Type) where
  answer : Answer
  memory : σ

/-- A handler for slices of type `α`. -/
abbrev Handler (α σ : Type) := α → σ → Reply σ

structure Plugin (σ : Type) where
  className : String
  /-- The name in the headers of generated files. -/
  name : Option String
  onPools : Option (Handler (List String) σ)
  onComponents : Option (Handler (List Component) σ)
  onBlueprints : Option (Handler (List String) σ)

/-- A handler that has been given its slice. -/
structure Task (σ : Type) where
  /-- The place of the plugin in the list of plugins. -/
  position : Nat
  className : String
  phase : Phase
  /-- The names of what the slice holds. -/
  names : List String
  perform : σ → Reply σ

namespace Plugin

variable {σ : Type}

/-- The plugin's handler for a phase, given its slice of the model. -/
def handler? (p : Plugin σ) (phase : Phase) (m : Model) : Option (σ → Reply σ) :=
  match phase with
  | .pools => p.onPools.map (· m.pools)
  | .components => p.onComponents.map (· m.components)
  | .blueprints => p.onBlueprints.map (· m.blueprints)

/-- Whether the plugin takes part in a phase. -/
def handles (p : Plugin σ) (phase : Phase) : Bool :=
  match phase with
  | .pools => p.onPools.isSome
  | .components => p.onComponents.isSome
  | .blueprints => p.onBlueprints.isSome

end Plugin

/-- The names of what the slice of a phase holds. -/
def Model.sliceNames (m : Model) : Phase → List String
  | .pools => m.pools
  | .components => m.components.map (·.name)
  | .blueprints => m.blueprints

theorem Plugin.isSome_handler? {σ : Type} (p : Plugin σ) (phase : Phase) (m : Model) :
    (p.handler? phase m).isSome = p.handles phase := by
  cases phase <;> simp [handler?, handles]

end EntityScribe
