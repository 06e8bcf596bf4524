import EntityScribe.Proofs.Grammar

/-!
# Which documents are refused

The documents that do not fit the grammar are reported as faults of the model. There are three kinds
of exceptions. A void value that is not null counts as left out where the grammar asks for a list or
a mapping, bytes count as the name that they encode, and what cannot be written, a very long integer
or values too deep inside one another, ends the reading without a report.
-/

namespace EntityScribe

namespace Schema

open Document (isNull isVoid)

/-! ## Void values -/

/-- What is void is null, or it is of the kind that belongs there. -/
def VoidFits (Fits : Document → Prop) (value : Option Document) : Prop :=
  ∀ d, value = some d → d.isVoid = true → d = .null ∨ Fits d

/-- With null and with every void value for what is left out, the same is accepted where all void
values are of the right kind. -/
theorem optional_isNull_iff {Fits : Document → Prop} {value : Option Document} :
    Optional isNull Fits value ↔ Optional isVoid Fits value ∧ VoidFits Fits value := by
  constructor
  · intro optional
    cases optional with
    | missing => exact ⟨.missing, fun d none => by cases none⟩
    | leftOut null =>
        refine ⟨.leftOut (Document.isVoid_of_isNull null), fun d here _ => ?_⟩
        cases here
        exact .inl (Document.isNull_iff.mp null)
    | given fits =>
        refine ⟨.given fits, fun d here _ => ?_⟩
        cases here
        exact .inr fits
  · rintro ⟨optional, voidFits⟩
    cases optional with
    | missing => exact .missing
    | leftOut void =>
        rcases voidFits _ rfl void with null | fits
        · exact .leftOut (Document.isNull_iff.mpr null)
        · exact .given fits
    | given fits => exact .given fits

/-! ## Names -/

/-- Every key that counts as a name is a text. -/
def NamesPlain (entries : Entries Document) : Prop :=
  ∀ entry ∈ entries, Reading.lenient.named entry.1 → Reading.strict.named entry.1

theorem Reading.named_lenient {key : Scalar} (named : strict.named key) : lenient.named key := by
  obtain ⟨name, rfl⟩ := named
  exact ⟨name, Scalar.recordText?_text name⟩

/-- What the strict reading asks of a mapping with names, and the lenient one does not: no void
value of another kind, and no name that is not a text. -/
theorem optional_strict_iff {value : Option Document} :
    Optional isNull (HasNames Reading.strict.named) value ↔
      Optional isVoid (HasNames Reading.lenient.named) value ∧
        VoidFits (HasNames Reading.strict.named) value ∧
        NamesPlain ((value.bind Document.entries?).getD []) := by
  rw [optional_isNull_iff, optional_hasNames_iff, optional_hasNames_iff]
  constructor
  · rintro ⟨⟨isMapping, texts⟩, voidFits⟩
    exact ⟨⟨isMapping, fun entry member => Reading.named_lenient (texts entry member)⟩, voidFits,
      fun entry member _ => texts entry member⟩
  · rintro ⟨⟨isMapping, names⟩, voidFits, plain⟩
    exact ⟨⟨isMapping, fun entry member => plain entry member (names entry member)⟩, voidFits⟩

/-! ## Plain documents -/

/-- Every void value in a definition is null or of the kind that belongs there, and the names of
fields are texts. -/
structure DefinitionPlain (definition : Document) : Prop where
  shape : VoidFits IsMapping (some definition)
  fields : VoidFits (HasNames Reading.strict.named) (definition.value? "fields")
  names : NamesPlain (definition.entriesUnder "fields")
  pools : VoidFits IsList (definition.value? "pools")

/-- Every void value among the components is null or of the kind that belongs there, and their names
and those of their fields are texts. -/
structure Plain (d : Document) : Prop where
  components : VoidFits (HasNames Reading.strict.named) (d.value? componentsKey)
  names : NamesPlain (d.entriesUnder componentsKey)
  definitions : ∀ entry ∈ d.entriesUnder componentsKey, DefinitionPlain entry.2

theorem definitionFits_strict_iff {known : List String} {definition : Document} :
    DefinitionFits .strict known definition ↔
      DefinitionFits .lenient known definition ∧ DefinitionPlain definition := by
  constructor
  · intro fits
    obtain ⟨shape, shapePlain⟩ := optional_isNull_iff.mp fits.shape
    obtain ⟨fields, fieldsPlain, names⟩ := optional_strict_iff.mp fits.fields
    obtain ⟨pools, poolsPlain⟩ := optional_isNull_iff.mp fits.pools
    exact ⟨⟨shape, fields, pools, fits.known⟩, ⟨shapePlain, fieldsPlain, names, poolsPlain⟩⟩
  · rintro ⟨fits, plain⟩
    exact ⟨optional_isNull_iff.mpr ⟨fits.shape, plain.shape⟩,
      optional_strict_iff.mpr ⟨fits.fields, plain.fields, plain.names⟩,
      optional_isNull_iff.mpr ⟨fits.pools, plain.pools⟩, fits.known⟩

theorem fits_strict_iff {d : Document} : Fits .strict d ↔ Fits .lenient d ∧ Plain d := by
  constructor
  · intro fits
    obtain ⟨components, componentsPlain, names⟩ := optional_strict_iff.mp fits.components
    exact ⟨⟨fits.shape, fits.pools, fits.blueprints, components,
        fun entry member => (definitionFits_strict_iff.mp (fits.definitions entry member)).1⟩,
      ⟨componentsPlain, names,
        fun entry member => (definitionFits_strict_iff.mp (fits.definitions entry member)).2⟩⟩
  · rintro ⟨fits, plain⟩
    exact ⟨fits.shape, fits.pools, fits.blueprints,
      optional_strict_iff.mpr ⟨fits.components, plain.components, plain.names⟩,
      fun entry member => definitionFits_strict_iff.mpr
        ⟨fits.definitions entry member, plain.definitions entry member⟩⟩

/-! ## What can be written -/

/-- Everything in a component that is written into a message or becomes a type can be written. -/
structure EntryLegible (entry : Scalar × Document) : Prop where
  name : entry.1.obstacle? = none
  pools : (Document.list (poolsIn entry.2)).obstacle? = none
  types : ∀ field ∈ entry.2.entriesUnder "fields", field.2.obstacle? = none

def Legible (d : Document) : Prop :=
  ∀ entry ∈ d.entriesUnder componentsKey, EntryLegible entry

section Legible

variable {name : Scalar} {known : List String} {definition : Entries Document} {cause : Unwritable}

theorem componentFault_of_legible {α : Type} {fault : String → ModelFault}
    (legible : name.obstacle? = none) :
    (componentFault name fault : Except ModelFault α) = .error (fault name.asText) := by
  rw [componentFault, shown, legible]
  rfl

theorem unknownPools_of_legible {α : Type} {pools : List Document} (legible : name.obstacle? = none)
    (listLegible : (Document.list pools).obstacle? = none) :
    (unknownPools name pools : Except ModelFault α) = .error (.unknownPools name.asText pools) := by
  simp only [unknownPools, shown, legible, listLegible]
  rfl

theorem fieldOf_ne_unwritable {entry : Scalar × Document} (legible : name.obstacle? = none)
    (typeLegible : entry.2.obstacle? = none) : fieldOf name entry ≠ .error (.unwritable cause) := by
  unfold fieldOf nameless
  simp only [typeLegible, componentFault_of_legible legible]
  split <;> exact nofun

theorem recordOf_ne_unwritable {fields : Entries Document} {pools : List String} {single : Bool}
    (legible : name.obstacle? = none)
    (typesLegible : ∀ field ∈ fields, field.2.obstacle? = none) :
    recordOf name fields pools single ≠ .error (.unwritable cause) := by
  intro failed
  rcases Except.bind_eq_error_iff.mp failed with early | ⟨_, _, late⟩
  · obtain ⟨field, member, failed⟩ := Except.exists_of_mapM_eq_error early
    exact fieldOf_ne_unwritable legible (typesLegible field member) failed
  · unfold nameless at late
    rw [componentFault_of_legible legible] at late
    split at late <;> cases late

theorem poolsOf_ne_unwritable (legible : name.obstacle? = none)
    (poolsLegible : (Document.list (effectivePools (definition.get? "pools"))).obstacle? = none) :
    poolsOf known name definition ≠ .error (.unwritable cause) := by
  unfold poolsOf
  rw [componentFault_of_legible legible]
  split
  · next items listed =>
      obtain ⟨_, rfl⟩ := orElse_items?_eq_some_iff.mp listed
      split
      · exact nofun
      · -- The complaint quotes the unknown pools, which are among the effective ones.
        rw [unknownPools_of_legible legible
          (Document.obstacle?_list_of_subset (List.filter_sublist.subset) poolsLegible)]
        exact nofun
  · exact nofun

theorem componentOf_ne_unwritable {d : Document} (legible : EntryLegible (name, d)) :
    componentOf known name d ≠ .error (.unwritable cause) := by
  unfold componentOf
  rw [componentFault_of_legible legible.name]
  split
  · next entries mapping =>
      obtain ⟨_, rfl⟩ := orElse_entries?_eq_some_iff.mp mapping
      rw [Option.bind_some]
      intro failed
      rcases Except.bind_eq_error_iff.mp failed with inPools | ⟨pools, _, failed⟩
      · refine poolsOf_ne_unwritable legible.name ?_ inPools
        rw [Document.get?_getD_entries?]
        exact legible.pools
      rcases Except.bind_eq_error_iff.mp failed with inFields | ⟨fields, fieldsHere, failed⟩
      · unfold fieldsOf at inFields
        rw [componentFault_of_legible legible.name] at inFields
        split at inFields <;> cases inFields
      · obtain ⟨_, rfl⟩ := fieldsOf_eq_ok_iff.mp fieldsHere
        refine recordOf_ne_unwritable legible.name ?_ failed
        rw [Document.get?_getD_entries?]
        exact legible.types
  · exact nofun

end Legible

theorem modelOf_ne_unwritable {d : Document} {cause : Unwritable} (legible : Legible d) :
    modelOf (d.entries?.getD []) ≠ .error (.unwritable cause) := by
  have namesFail {entries : Entries Document} {key : String} {default : List String} :
      namesUnder entries key default ≠ .error (.unwritable cause) := by
    unfold namesUnder
    repeat' split
    all_goals exact nofun
  intro failed
  rcases Except.bind_eq_error_iff.mp failed with inPools | ⟨pools, _, failed⟩
  · exact namesFail inPools
  rcases Except.bind_eq_error_iff.mp failed with inBlueprints | ⟨blueprints, _, failed⟩
  · exact namesFail inBlueprints
  rcases Except.bind_eq_error_iff.mp failed with inComponents | ⟨_, _, failed⟩
  · unfold componentsOf at inComponents
    rw [Document.get?_getD_entries?] at inComponents
    split at inComponents
    · next definitions mapping =>
        obtain ⟨_, rfl⟩ := orElse_entries?_eq_some_iff.mp mapping
        obtain ⟨entry, member, failed⟩ := Except.exists_of_mapM_eq_error inComponents
        exact componentOf_ne_unwritable (legible entry member) failed
    · cases inComponents
  · cases failed

end Schema

namespace Model

open Schema

variable {d : Document}

theorem ofDocument_ne_unwritable {cause : Unwritable} (legible : Legible d) :
    ofDocument d ≠ .error (.unwritable cause) := by
  have read : modelOf (d.entries?.getD []) ≠ .error (.unwritable cause) :=
    modelOf_ne_unwritable legible
  unfold ofDocument
  split
  · next isNull =>
      obtain rfl := Document.isNull_iff.mp isNull
      exact read
  · split
    · next entries mapping =>
        rw [mapping] at read
        exact read
    · exact nofun

/-- A fault is reported as one of the model, unless something cannot be written. -/
theorem reported_of_fault {fault : ModelFault} (source : Option String)
    (failed : ofDocument d = .error fault) (other : ∀ cause, fault ≠ .unwritable cause) :
    (ofDocument d).mapError (Failure.ofModelFault source) =
      .error (Failure.model source (.fault fault)) := by
  rw [failed]
  cases fault with
  | unwritable cause => exact absurd rfl (other cause)
  | _ => rfl

/-- The strict grammar decides which documents are accepted, as long as no void value but null
stands where a list or a mapping belongs and no name is written in bytes, and all others are
reported as faults of the model, as long as everything can be written. In general the lenient
grammar decides. -/
theorem ofDocument_grammar (d : Document) (source : Option String) :
    (Plain d → Legible d → ((∃ m, ofDocument d = .ok m) ↔ Fits .strict d)) ∧
      (Legible d → (¬∃ m, ofDocument d = .ok m) → ∃ fault,
        (ofDocument d).mapError (Failure.ofModelFault source) =
          .error (Failure.model source (.fault fault))) ∧
      ((∃ m, ofDocument d = .ok m) ↔ Fits .lenient d ∧ TypesLegible d) ∧
      (Fits .strict d ↔ Fits .lenient d ∧ Plain d) := by
  have accepted : (∃ m, ofDocument d = .ok m) ↔ Fits .lenient d ∧ TypesLegible d :=
    ⟨fun ⟨_, result⟩ => (ofDocument_eq_ok_iff.mp result).1,
      fun fits => ⟨modelIn d, ofDocument_eq_ok_iff.mpr ⟨fits, rfl⟩⟩⟩
  refine ⟨fun plain legible => ?_, fun legible refused => ?_, accepted, fits_strict_iff⟩
  · have types : TypesLegible d := fun entry member => (legible entry member).types
    rw [accepted, fits_strict_iff, and_iff_left types, and_iff_left plain]
  · cases result : ofDocument d with
    | ok m => exact absurd ⟨m, result⟩ refused
    | error fault =>
        refine ⟨fault, result ▸ reported_of_fault source result ?_⟩
        rintro _ rfl
        exact ofDocument_ne_unwritable legible result

/-- The number 0 serves as the definition of a component. -/
theorem ofDocument_zero_definition :
    let d := Document.map [(.text "_components", .map [(.text "A", .scalar (.int 0))])]
    ofDocument d = .ok ⟨["Pool"], [⟨"A", [], ["Pool"], false⟩], []⟩ ∧
      ¬Fits .strict d := by
  refine ⟨rfl, fun fits => ?_⟩
  have shape := (fits.definitions (.text "A", .scalar (.int 0)) List.mem_cons_self).shape
  cases shape with
  | leftOut isNull => cases isNull
  | given isMapping =>
      obtain ⟨entries, mapping⟩ := isMapping
      cases mapping

end Model

end EntityScribe
