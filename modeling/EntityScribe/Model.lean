import EntityScribe.Naming

/-!
# Models

The data model that code is generated from: pools of entities, components with their fields, and
blueprints. A component lives in one or more pools.
-/

namespace EntityScribe

structure Field where
  name : String
  type : String
  deriving DecidableEq, Repr

structure Component where
  name : String
  fields : List Field := []
  pools : List String := [Naming.defaultPool]
  /-- Whether at most one entity of a pool has the component. -/
  single : Bool := false
  deriving DecidableEq, Repr

structure Model where
  pools : List String
  components : List Component
  blueprints : List String
  deriving DecidableEq, Repr

namespace Component

/-- The lookup classes that know the component, one for each of its pools. -/
def lookupTags (c : Component) : List String :=
  c.pools.map Naming.lookupTag

/-- The lookup class that the component's accessors refer to. -/
def lookupTag (c : Component) : String :=
  c.lookupTags.headD Naming.lookupSuffix

def shortName (c : Component) : String :=
  Naming.shortName c.name

end Component

namespace Model

/-- The first component with a name. -/
def component? (m : Model) (name : String) : Option Component :=
  m.components.find? (·.name = name)

end Model

end EntityScribe
