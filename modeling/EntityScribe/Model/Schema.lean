import EntityScribe.Document.Text
import EntityScribe.Model
import EntityScribe.Text.Blank
import EntityScribe.Validation

/-!
# Models from documents

A document describes a model by its pools, its blueprints and its components. What is left out has a
default; the first thing that does not fit is the fault. Components are read in their order, each
one wholly before the next.
-/

namespace EntityScribe

/-- Why a document describes no model. -/
inductive ModelFault where
  | notMapping
  /-- The value under a key is no list of names. -/
  | badNames (key : String)
  | componentsNotMapping
  | definitionNotMapping (component : String)
  | poolsNotList (component : String)
  | unknownPools (component : String) (pools : List Document)
  | fieldsNotMapping (component : String)
  | invalidComponent (component : String) (cause : Invalid)
  /-- Something cannot be written, as the type of a field or in a message. -/
  | unwritable (cause : Unwritable)

namespace ModelFault

def message : ModelFault → String
  | notMapping => "schema must be a mapping"
  | badNames key => "'" ++ key ++ "' must be a list of non-empty names"
  | componentsNotMapping => "'_components' must be a mapping of component name to definition"
  | definitionNotMapping component => "component '" ++ component ++ "' must be a mapping"
  | poolsNotList component => "component '" ++ component ++ "' pools must be a list"
  | unknownPools component pools =>
      "component '" ++ component ++ "' references unknown pools: " ++ (Document.list pools).quoted
  | fieldsNotMapping component =>
      "component '" ++ component ++ "' fields must be a mapping of field name to type"
  | invalidComponent component cause => "invalid component '" ++ component ++ "': " ++ cause.message
  | unwritable cause => cause.message

/-- The record that could not be built, if that is the fault. -/
def invalid? : ModelFault → Option Invalid
  | invalidComponent _ cause => some cause
  | _ => none

end ModelFault

namespace Schema

def poolsKey : String := "_pools"

def blueprintsKey : String := "_blueprints"

def componentsKey : String := "_components"

/-- The text of a name: one that is not blank. -/
def properName? (d : Document) : Option String :=
  match d.text? with
  | some s => if Text.allBlank s then none else some s
  | none => none

/-- The names in a list of them. -/
def properNames? (d : Document) : Option (List String) :=
  match d.items? with
  | some items => items.mapM properName?
  | none => none

/-- The names listed under a key, or the default if nothing or null is there. -/
def namesUnder (entries : Entries Document) (key : String) (default : List String) :
    Except ModelFault (List String) :=
  match entries.get? key with
  | none => .ok default
  | some d =>
      if d.isNull then .ok default
      else
        match properNames? d with
        | some names => .ok names
        | none => .error (.badNames key)

/-- Whether a document is the name of one of the pools. -/
def isPoolIn (pools : List String) (d : Document) : Bool :=
  match d.text? with
  | some s => pools.contains s
  | none => false

/-- The text of a name in a message. -/
def shown (name : Scalar) : Except ModelFault String :=
  match name.obstacle? with
  | none => .ok name.asText
  | some cause => .error (.unwritable cause)

/-- The fault of a component, with the name that it shows. -/
def componentFault {α : Type} (name : Scalar) (fault : String → ModelFault) :
    Except ModelFault α := do
  throw (fault (← shown name))

/-- A component that cannot be built, because of the name of its record or of one of its fields. -/
def nameless {α : Type} (name : Scalar) (record : RecordKind) : Except ModelFault α :=
  componentFault name fun shown =>
    .invalidComponent shown ⟨record, [⟨[.part "name"], .notText⟩]⟩

/-- A field from an entry of a mapping of fields. Every value that can be written serves as the type
by its text. -/
def fieldOf (component : Scalar) (entry : Scalar × Document) : Except ModelFault Field :=
  match entry.2.obstacle? with
  | some cause => .error (.unwritable cause)
  | none =>
      match entry.1.recordText? with
      | some name => .ok ⟨name, entry.2.asText⟩
      | none => nameless component .field

def recordOf (name : Scalar) (fields : Entries Document) (pools : List String) (single : Bool) :
    Except ModelFault Component := do
  let fields ← fields.mapM (fieldOf name)
  match name.recordText? with
  | some s => return ⟨s, fields, pools, single⟩
  | none => nameless name .component

/-- The complaint about pools that are not known. -/
def unknownPools {α : Type} (name : Scalar) (pools : List Document) : Except ModelFault α := do
  let shown ← shown name
  match (Document.list pools).obstacle? with
  | none => throw (.unknownPools shown pools)
  | some cause => throw (.unwritable cause)

/-- The pools of a component; without any it lives in the default pool. All of them must be
known. -/
def poolsOf (known : List String) (name : Scalar) (definition : Entries Document) :
    Except ModelFault (List String) :=
  match (Document.orElse (definition.get? "pools") (.list [.text Naming.defaultPool])).items? with
  | some items =>
      match items.filter (fun item => !isPoolIn known item) with
      | [] => .ok (items.filterMap Document.text?)
      | unknown => unknownPools name unknown
  | none => componentFault name .poolsNotList

/-- The fields of a component, still as entries. -/
def fieldsOf (name : Scalar) (definition : Entries Document) :
    Except ModelFault (Entries Document) :=
  match (Document.orElse (definition.get? "fields") (.map [])).entries? with
  | some entries => .ok entries
  | none => componentFault name .fieldsNotMapping

def singleOf (definition : Entries Document) : Bool :=
  match definition.get? "single_entity" with
  | some d => !d.isVoid
  | none => false

/-- A component from its name and definition; a void definition has no entries. -/
def componentOf (known : List String) (name : Scalar) (definition : Document) :
    Except ModelFault Component :=
  match (Document.orElse (some definition) (.map [])).entries? with
  | some entries => do
      let pools ← poolsOf known name entries
      let fields ← fieldsOf name entries
      recordOf name fields pools (singleOf entries)
  | none => componentFault name .definitionNotMapping

def componentsOf (known : List String) (entries : Entries Document) :
    Except ModelFault (List Component) :=
  match (Document.orElse (entries.get? componentsKey) (.map [])).entries? with
  | some definitions =>
      definitions.mapM fun (name, definition) => componentOf known name definition
  | none => .error .componentsNotMapping

def modelOf (entries : Entries Document) : Except ModelFault Model := do
  let pools ← namesUnder entries poolsKey [Naming.defaultPool]
  let blueprints ← namesUnder entries blueprintsKey []
  let components ← componentsOf pools entries
  return ⟨pools, components, blueprints⟩

end Schema

/-- The model that a document describes; null describes one with nothing but the default pool. -/
def Model.ofDocument (d : Document) : Except ModelFault Model :=
  if d.isNull then Schema.modelOf []
  else
    match d.entries? with
    | some entries => Schema.modelOf entries
    | none => .error .notMapping

end EntityScribe
