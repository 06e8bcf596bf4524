import EntityScribe.Failure
import EntityScribe.Proofs.Documents

/-!
# Which documents describe models

The grammar of a document, given apart from the order in which a document is read, and the model
that is read off one that fits. A document is accepted exactly if it fits the grammar and all types
of its fields can be written. In an accepted document every component lives in some pools, and all
of them are pools of the model.

The grammar lets null stand for what is left out, and its names are texts. The reader lets every
void value stand for what is left out at most places, and takes bytes for the name that they encode.
So the grammar has the values that count as left out and the keys that count as names for a
parameter.
-/

namespace EntityScribe

namespace Document

variable {d : Document} {key : String}

theorem get?_getD_entries? : (d.entries?.getD []).get? key = d.value? key := by
  unfold value?
  cases d.entries? with
  | none => rfl
  | some entries => rfl

theorem isVoid_of_isNull (isNull : d.isNull = true) : d.isVoid = true := by
  rw [isNull_iff.mp isNull]
  rfl

/-- A void value has no entries. -/
theorem getD_entries?_of_isVoid (isVoid : d.isVoid = true) : d.entries?.getD [] = [] := by
  cases mapping : d.entries? with
  | none => rfl
  | some entries => exact (isVoid_iff_of_entries? mapping).mp isVoid

/-- A list can be written in some room exactly if its items can in the room that it leaves. -/
theorem obstacleWithin?_list_eq_none_iff {room : Nat} {items : List Document} :
    (list items).obstacleWithin? (room + 1) = none ↔
      ∀ item ∈ items, item.obstacleWithin? room = none := by
  rw [obstacleWithin?, walk, walkItems_eq_map]
  change (items.map (walk obstruction)).findSome? (· room) = none ↔ _
  rw [List.findSome?_map, List.findSome?_eq_none_iff]
  rfl

/-- What is taken out of a list does not keep it from being written. -/
theorem obstacle?_list_of_subset {items fewer : List Document} (subset : fewer ⊆ items)
    (free : (list items).obstacle? = none) : (list fewer).obstacle? = none :=
  obstacleWithin?_list_eq_none_iff.mpr fun _ member =>
    obstacleWithin?_list_eq_none_iff.mp free _ (subset member)

end Document

namespace Schema

open Document (isNull isVoid)

/-! ## The grammar -/

/-- How strictly a document is read: the values that count as left out, and the keys that count as
names. -/
structure Reading where
  absent : Document → Bool
  named : Scalar → Prop

namespace Reading

/-- Null is left out, and texts are names. -/
def strict : Reading where
  absent := isNull
  named key := ∃ name, key = .text name

/-- Whatever is void is left out, and what a record takes for a text is a name. -/
def lenient : Reading where
  absent := isVoid
  named key := ∃ name, key.recordText? = some name

end Reading

/-- A value that may be missing, or count as left out. If it is given it has to fit. -/
inductive Optional (absent : Document → Bool) (Fits : Document → Prop) :
    Option Document → Prop where
  | missing : Optional absent Fits none
  | leftOut {d : Document} (isAbsent : absent d = true) : Optional absent Fits (some d)
  | given {d : Document} (fits : Fits d) : Optional absent Fits (some d)

def IsList (d : Document) : Prop :=
  ∃ items, d.items? = some items

def IsMapping (d : Document) : Prop :=
  ∃ entries, d.entries? = some entries

/-- A text with a character that is not blank. -/
def IsName (d : Document) : Prop :=
  ∃ s, d = .text s ∧ ∃ c ∈ s.toList, Text.isBlank c = false

def IsNameList (d : Document) : Prop :=
  ∃ items, d.items? = some items ∧ ∀ item ∈ items, IsName item

/-- A mapping whose keys are names. -/
def HasNames (named : Scalar → Prop) (d : Document) : Prop :=
  ∃ entries, d.entries? = some entries ∧ ∀ entry ∈ entries, named entry.1

/-- The names in a list, or the default if there is no list. -/
def namesIn (value : Option Document) (default : List String) : List String :=
  match value.bind Document.items? with
  | some items => items.map Document.asText
  | none => default

/-- The names of all pools. -/
def poolNames (d : Document) : List String :=
  namesIn (d.value? poolsKey) [Naming.defaultPool]

/-- The pools that a definition lists. If it lists none, it is the default pool. -/
def effectivePools (value : Option Document) : List Document :=
  match value.bind Document.items? with
  | some (first :: more) => first :: more
  | _ => [.text Naming.defaultPool]

def poolsIn (definition : Document) : List Document :=
  effectivePools (definition.value? "pools")

/-- A definition of a component, where some pools are known. A definition that is left out has
neither fields nor pools. -/
structure DefinitionFits (reading : Reading) (known : List String) (definition : Document) :
    Prop where
  shape : Optional reading.absent IsMapping (some definition)
  fields : Optional reading.absent (HasNames reading.named) (definition.value? "fields")
  pools : Optional reading.absent IsList (definition.value? "pools")
  known : ∀ pool ∈ poolsIn definition, ∃ name ∈ known, pool = .text name

/-- The documents of the grammar. -/
structure Fits (reading : Reading) (d : Document) : Prop where
  shape : d = .null ∨ IsMapping d
  pools : Optional isNull IsNameList (d.value? poolsKey)
  blueprints : Optional isNull IsNameList (d.value? blueprintsKey)
  components : Optional reading.absent (HasNames reading.named) (d.value? componentsKey)
  definitions : ∀ entry ∈ d.entriesUnder componentsKey,
    DefinitionFits reading (poolNames d) entry.2

/-- The types of all fields can be written. -/
def TypesLegible (d : Document) : Prop :=
  ∀ entry ∈ d.entriesUnder componentsKey, ∀ field ∈ entry.2.entriesUnder "fields",
    field.2.obstacle? = none

/-! ## The model in a document -/

/-- The name that a key stands for. -/
def nameOf (key : Scalar) : String :=
  key.recordText?.getD ""

def fieldIn (entry : Scalar × Document) : Field :=
  ⟨nameOf entry.1, entry.2.asText⟩

def componentIn (entry : Scalar × Document) : Component where
  name := nameOf entry.1
  fields := (entry.2.entriesUnder "fields").map fieldIn
  pools := (poolsIn entry.2).map Document.asText
  single := ((entry.2.value? "single_entity").map fun flag => !flag.isVoid).getD false

def modelIn (d : Document) : Model where
  pools := poolNames d
  components := (d.entriesUnder componentsKey).map componentIn
  blueprints := namesIn (d.value? blueprintsKey) []

/-! ## Names -/

theorem properName?_eq_some_iff {d : Document} {name : String} :
    properName? d = some name ↔ IsName d ∧ name = d.asText := by
  have blank (s : String) :
      ¬Text.allBlank s = true ↔ ∃ c ∈ s.toList, Text.isBlank c = false := by
    rw [Text.allBlank, List.all_eq_true]
    simp
  constructor
  · intro result
    unfold properName? at result
    split at result
    · next s isText =>
        split at result
        · cases result
        · next filled =>
            cases result
            cases d with
            | scalar own =>
                cases own with
                | text t =>
                    cases isText
                    exact ⟨⟨_, rfl, (blank _).mp filled⟩, rfl⟩
                | _ => cases isText
            | _ => cases isText
    · cases result
  · rintro ⟨⟨s, rfl, filled⟩, rfl⟩
    rw [properName?, Document.text?_text]
    exact if_neg ((blank _).mpr filled)

theorem properNames?_eq_some_iff {d : Document} {names : List String} :
    properNames? d = some names ↔ IsNameList d ∧ names = namesIn (some d) [] := by
  unfold properNames? IsNameList namesIn
  rw [Option.bind_some]
  cases d.items? with
  | none => simp
  | some items =>
      simp only [Option.mapM_eq_some_iff fun _ _ => properName?_eq_some_iff]
      simp

theorem namesUnder_eq_ok_iff {entries : Entries Document} {key : String}
    {default names : List String} :
    namesUnder entries key default = .ok names ↔
      Optional isNull IsNameList (entries.get? key) ∧
        names = namesIn (entries.get? key) default := by
  unfold namesUnder
  cases entries.get? key with
  | none =>
      constructor
      · intro result
        cases result
        exact ⟨.missing, rfl⟩
      · rintro ⟨_, rfl⟩
        rfl
  | some d =>
      by_cases null : d.isNull = true
      · have standard : namesIn (some d) default = default := by
          rw [Document.isNull_iff.mp null]
          rfl
        simp only [if_pos null, standard]
        constructor
        · intro result
          cases result
          exact ⟨.leftOut null, rfl⟩
        · rintro ⟨_, rfl⟩
          rfl
      · simp only [if_neg null]
        have anyDefault (list : IsNameList d) : namesIn (some d) default = namesIn (some d) [] := by
          obtain ⟨items, listed, _⟩ := list
          simp only [namesIn, Option.bind_some, listed]
        constructor
        · intro result
          split at result
          · next own proper =>
              cases result
              obtain ⟨list, rfl⟩ := properNames?_eq_some_iff.mp proper
              exact ⟨.given list, (anyDefault list).symm⟩
          · cases result
        · rintro ⟨optional, rfl⟩
          cases optional with
          | leftOut isAbsent => exact absurd isAbsent null
          | given list => rw [properNames?_eq_some_iff.mpr ⟨list, anyDefault list⟩]

/-! ## Values that may be left out -/

/-- What is read of a value that may be left out. -/
def readOr {α : Type} (read : Document → Option α) (fallback : α) : Option Document → α
  | none => fallback
  | some d => if d.isVoid then fallback else (read d).getD fallback

theorem orElse_eq_some_iff {α : Type} {read : Document → Option α} {default : Document}
    {fallback a : α} {value : Option Document} (standard : read default = some fallback) :
    read (Document.orElse value default) = some a ↔
      Optional isVoid (fun d => ∃ own, read d = some own) value ∧
        a = readOr read fallback value := by
  cases value with
  | none =>
      rw [Document.orElse, standard, Option.some.injEq]
      exact ⟨fun same => ⟨.missing, same.symm⟩, fun ⟨_, same⟩ => same.symm⟩
  | some d =>
      unfold Document.orElse readOr
      by_cases void : d.isVoid = true
      · simp only [if_pos void, standard, Option.some.injEq]
        exact ⟨fun same => ⟨.leftOut void, same.symm⟩, fun ⟨_, same⟩ => same.symm⟩
      · simp only [if_neg void]
        constructor
        · intro result
          rw [result]
          exact ⟨.given ⟨a, result⟩, rfl⟩
        · rintro ⟨optional, rfl⟩
          cases optional with
          | leftOut isAbsent => exact absurd isAbsent void
          | given fits =>
              obtain ⟨own, result⟩ := fits
              rw [result]
              rfl

theorem orElse_entries?_eq_some_iff {value : Option Document} {entries : Entries Document} :
    (Document.orElse value (.map [])).entries? = some entries ↔
      Optional isVoid IsMapping value ∧ entries = (value.bind Document.entries?).getD [] := by
  have read : readOr Document.entries? [] value = (value.bind Document.entries?).getD [] := by
    cases value with
    | none => rfl
    | some d =>
        rw [readOr, Option.bind_some]
        split
        · next void => exact (Document.getD_entries?_of_isVoid void).symm
        · rfl
  rw [← read]
  exact orElse_eq_some_iff rfl

theorem orElse_items?_eq_some_iff {value : Option Document} {items : List Document} :
    (Document.orElse value (.list [.text Naming.defaultPool])).items? = some items ↔
      Optional isVoid IsList value ∧ items = effectivePools value := by
  have read : readOr Document.items? [.text Naming.defaultPool] value = effectivePools value := by
    cases value with
    | none => rfl
    | some d =>
        rw [readOr, effectivePools, Option.bind_some]
        cases listed : d.items? with
        | none => exact ite_self _
        | some own =>
            simp only [Document.isVoid_iff_of_items? listed]
            cases own with
            | nil => rfl
            | cons first more => rfl
  rw [← read]
  exact orElse_eq_some_iff rfl

/-- A value that is left out has no entries, so only the entries of a given one need keys. -/
theorem optional_hasNames_iff {named : Scalar → Prop} {value : Option Document} :
    Optional isVoid (HasNames named) value ↔
      Optional isVoid IsMapping value ∧
        ∀ entry ∈ (value.bind Document.entries?).getD [], named entry.1 := by
  constructor
  · intro optional
    cases optional with
    | missing => exact ⟨.missing, List.forall_mem_nil _⟩
    | leftOut isAbsent =>
        rw [Option.bind_some, Document.getD_entries?_of_isVoid isAbsent]
        exact ⟨.leftOut isAbsent, List.forall_mem_nil _⟩
    | given fits =>
        obtain ⟨entries, mapping, keys⟩ := fits
        rw [Option.bind_some, mapping]
        exact ⟨.given ⟨entries, mapping⟩, keys⟩
  · rintro ⟨optional, keys⟩
    cases optional with
    | missing => exact .missing
    | leftOut isAbsent => exact .leftOut isAbsent
    | given fits =>
        obtain ⟨entries, mapping⟩ := fits
        rw [Option.bind_some, mapping] at keys
        exact .given ⟨entries, mapping, keys⟩

/-! ## Components -/

section Components

variable {α : Type} {name : Scalar} {fault : String → ModelFault} {known : List String}
  {definition : Entries Document}

theorem componentFault_ne_ok {a : α} : componentFault name fault ≠ .ok a := by
  intro result
  obtain ⟨_, _, failed⟩ := Except.bind_eq_ok_iff.mp result
  cases failed

theorem unknownPools_ne_ok {pools : List Document} {a : α} : unknownPools name pools ≠ .ok a := by
  intro result
  obtain ⟨_, _, failed⟩ := Except.bind_eq_ok_iff.mp result
  split at failed <;> cases failed

theorem fieldOf_eq_ok_iff {entry : Scalar × Document} {field : Field} :
    fieldOf name entry = .ok field ↔
      (entry.2.obstacle? = none ∧ Reading.lenient.named entry.1) ∧ field = fieldIn entry := by
  unfold fieldOf fieldIn nameOf
  constructor
  · intro result
    split at result
    · cases result
    · next legible =>
        split at result
        · next own named =>
            cases result
            exact ⟨⟨legible, own, named⟩, by rw [named, Option.getD_some]⟩
        · exact absurd result componentFault_ne_ok
  · rintro ⟨⟨legible, own, named⟩, rfl⟩
    rw [legible, named]
    rfl

theorem recordOf_eq_ok_iff {fields : Entries Document} {pools : List String} {single : Bool}
    {c : Component} :
    recordOf name fields pools single = .ok c ↔
      (Reading.lenient.named name ∧
          ∀ entry ∈ fields, entry.2.obstacle? = none ∧ Reading.lenient.named entry.1) ∧
        c = ⟨nameOf name, fields.map fieldIn, pools, single⟩ := by
  unfold recordOf nameOf
  constructor
  · intro result
    obtain ⟨own, read, result⟩ := Except.bind_eq_ok_iff.mp result
    obtain ⟨fit, rfl⟩ := (Except.mapM_eq_ok_iff fun _ _ => fieldOf_eq_ok_iff).mp read
    split at result
    · next own named =>
        cases result
        exact ⟨⟨⟨own, named⟩, fit⟩, by rw [named, Option.getD_some]⟩
    · exact absurd result componentFault_ne_ok
  · rintro ⟨⟨⟨own, named⟩, fit⟩, rfl⟩
    rw [(Except.mapM_eq_ok_iff fun _ _ => fieldOf_eq_ok_iff).mpr ⟨fit, rfl⟩, named]
    rfl

theorem isPoolIn_iff {pool : Document} :
    isPoolIn known pool = true ↔ ∃ name ∈ known, pool = .text name := by
  constructor
  · intro isPool
    cases pool with
    | scalar own =>
        cases own with
        | text s => exact ⟨s, List.contains_iff_mem.mp isPool, rfl⟩
        | _ => cases isPool
    | _ => cases isPool
  · rintro ⟨name, member, rfl⟩
    exact List.contains_iff_mem.mpr member

theorem unknown_eq_nil_iff {items : List Document} :
    items.filter (fun item => !isPoolIn known item) = [] ↔
      ∀ item ∈ items, ∃ name ∈ known, item = .text name := by
  rw [List.filter_eq_nil_iff]
  simp only [Bool.not_eq_true', Bool.not_eq_false, isPoolIn_iff]

theorem filterMap_text? {items : List Document}
    (all : ∀ item ∈ items, ∃ name ∈ known, item = .text name) :
    items.filterMap Document.text? = items.map Document.asText := by
  induction items with
  | nil => rfl
  | cons item rest ih =>
      obtain ⟨⟨name, _, rfl⟩, others⟩ := List.forall_mem_cons.mp all
      rw [List.filterMap_cons_some (Document.text?_text name), ih others]
      rfl

theorem poolsOf_eq_ok_iff {pools : List String} :
    poolsOf known name definition = .ok pools ↔
      (Optional isVoid IsList (definition.get? "pools") ∧
          ∀ pool ∈ effectivePools (definition.get? "pools"), ∃ name ∈ known, pool = .text name) ∧
        pools = (effectivePools (definition.get? "pools")).map Document.asText := by
  unfold poolsOf
  constructor
  · intro result
    split at result
    · next items listed =>
        obtain ⟨optional, rfl⟩ := orElse_items?_eq_some_iff.mp listed
        split at result
        · next none =>
            cases result
            have all := unknown_eq_nil_iff.mp none
            exact ⟨⟨optional, all⟩, filterMap_text? all⟩
        · exact absurd result unknownPools_ne_ok
    · exact absurd result componentFault_ne_ok
  · rintro ⟨⟨optional, all⟩, rfl⟩
    rw [orElse_items?_eq_some_iff.mpr ⟨optional, rfl⟩]
    simp only [unknown_eq_nil_iff.mpr all, filterMap_text? all]

theorem fieldsOf_eq_ok_iff {fields : Entries Document} :
    fieldsOf name definition = .ok fields ↔
      Optional isVoid IsMapping (definition.get? "fields") ∧
        fields = ((definition.get? "fields").bind Document.entries?).getD [] := by
  rw [← orElse_entries?_eq_some_iff]
  unfold fieldsOf
  constructor
  · intro result
    split at result
    · next entries mapping =>
        cases result
        exact mapping
    · exact absurd result componentFault_ne_ok
  · intro mapping
    rw [mapping]

theorem singleOf_eq {d : Document} :
    singleOf (d.entries?.getD []) =
      ((d.value? "single_entity").map fun flag => !flag.isVoid).getD false := by
  unfold singleOf
  rw [Document.get?_getD_entries?]
  cases d.value? "single_entity" with
  | none => rfl
  | some flag => rfl

/-- A definition is accepted exactly if it fits and the types of its fields can be written. -/
theorem componentOf_eq_ok_iff {d : Document} {c : Component} :
    componentOf known name d = .ok c ↔
      (Reading.lenient.named name ∧ DefinitionFits .lenient known d ∧
          ∀ field ∈ d.entriesUnder "fields", field.2.obstacle? = none) ∧
        c = componentIn (name, d) := by
  unfold componentOf
  constructor
  · intro result
    split at result
    · next entries mapping =>
        -- A definition that is left out has no entries, so the entries are its own either way.
        obtain ⟨shape, rfl⟩ := orElse_entries?_eq_some_iff.mp mapping
        rw [Option.bind_some] at result
        obtain ⟨pools, poolsHere, result⟩ := Except.bind_eq_ok_iff.mp result
        obtain ⟨fields, fieldsHere, result⟩ := Except.bind_eq_ok_iff.mp result
        obtain ⟨⟨isList, allKnown⟩, rfl⟩ := poolsOf_eq_ok_iff.mp poolsHere
        obtain ⟨isMapping, rfl⟩ := fieldsOf_eq_ok_iff.mp fieldsHere
        obtain ⟨⟨named, fit⟩, rfl⟩ := recordOf_eq_ok_iff.mp result
        rw [Document.get?_getD_entries?] at isList allKnown isMapping fit
        refine ⟨⟨named, ⟨shape, ?_, isList, allKnown⟩,
          fun field member => (fit field member).1⟩, ?_⟩
        · exact optional_hasNames_iff.mpr ⟨isMapping, fun field member => (fit field member).2⟩
        · rw [singleOf_eq, Document.get?_getD_entries?, Document.get?_getD_entries?]
          rfl
    · exact absurd result componentFault_ne_ok
  · rintro ⟨⟨named, fits, legible⟩, rfl⟩
    obtain ⟨isMapping, keys⟩ := optional_hasNames_iff.mp fits.fields
    rw [orElse_entries?_eq_some_iff.mpr ⟨fits.shape, rfl⟩]
    refine Except.bind_eq_ok_iff.mpr ⟨_, poolsOf_eq_ok_iff.mpr ⟨?_, rfl⟩, ?_⟩
    · rw [Option.bind_some, Document.get?_getD_entries?]
      exact ⟨fits.pools, fits.known⟩
    refine Except.bind_eq_ok_iff.mpr ⟨_, fieldsOf_eq_ok_iff.mpr ⟨?_, rfl⟩, ?_⟩
    · rw [Option.bind_some, Document.get?_getD_entries?]
      exact isMapping
    refine recordOf_eq_ok_iff.mpr ⟨⟨named, ?_⟩, ?_⟩
    · rw [Option.bind_some, Document.get?_getD_entries?]
      exact fun field member => ⟨legible field member, keys field member⟩
    · rw [Option.bind_some, singleOf_eq, Document.get?_getD_entries?, Document.get?_getD_entries?]
      rfl

end Components

/-! ## Models -/

theorem componentsOf_eq_ok_iff {d : Document} {known : List String} {components : List Component} :
    componentsOf known (d.entries?.getD []) = .ok components ↔
      (Optional isVoid (HasNames Reading.lenient.named) (d.value? componentsKey) ∧
          ∀ entry ∈ d.entriesUnder componentsKey, DefinitionFits .lenient known entry.2 ∧
            ∀ field ∈ entry.2.entriesUnder "fields", field.2.obstacle? = none) ∧
        components = (d.entriesUnder componentsKey).map componentIn := by
  have read {entries : Entries Document} :
      entries.mapM (fun entry => componentOf known entry.1 entry.2) = .ok components ↔ _ :=
    Except.mapM_eq_ok_iff fun _ _ => componentOf_eq_ok_iff
  unfold componentsOf
  rw [Document.get?_getD_entries?]
  constructor
  · intro result
    split at result
    · next entries mapping =>
        obtain ⟨isMapping, rfl⟩ := orElse_entries?_eq_some_iff.mp mapping
        obtain ⟨fit, rfl⟩ := read.mp result
        exact ⟨⟨optional_hasNames_iff.mpr ⟨isMapping, fun entry member => (fit entry member).1⟩,
          fun entry member => (fit entry member).2⟩, rfl⟩
    · cases result
  · rintro ⟨⟨optional, fit⟩, rfl⟩
    obtain ⟨isMapping, keys⟩ := optional_hasNames_iff.mp optional
    rw [orElse_entries?_eq_some_iff.mpr ⟨isMapping, rfl⟩]
    exact read.mpr ⟨fun entry member => ⟨keys entry member, fit entry member⟩, rfl⟩

theorem modelOf_eq_ok_iff {d : Document} {m : Model} (shape : d = .null ∨ IsMapping d) :
    modelOf (d.entries?.getD []) = .ok m ↔ (Fits .lenient d ∧ TypesLegible d) ∧ m = modelIn d := by
  unfold modelOf
  constructor
  · intro result
    obtain ⟨pools, poolsHere, result⟩ := Except.bind_eq_ok_iff.mp result
    obtain ⟨blueprints, blueprintsHere, result⟩ := Except.bind_eq_ok_iff.mp result
    obtain ⟨components, componentsHere, result⟩ := Except.bind_eq_ok_iff.mp result
    obtain ⟨poolsFit, rfl⟩ := namesUnder_eq_ok_iff.mp poolsHere
    obtain ⟨blueprintsFit, rfl⟩ := namesUnder_eq_ok_iff.mp blueprintsHere
    obtain ⟨⟨componentsFit, fit⟩, rfl⟩ := componentsOf_eq_ok_iff.mp componentsHere
    cases result
    rw [Document.get?_getD_entries?] at poolsFit blueprintsFit fit
    refine ⟨⟨⟨shape, poolsFit, blueprintsFit, componentsFit,
      fun entry member => (fit entry member).1⟩, fun entry member => (fit entry member).2⟩, ?_⟩
    rw [Document.get?_getD_entries?, Document.get?_getD_entries?]
    rfl
  · rintro ⟨⟨fits, legible⟩, rfl⟩
    refine Except.bind_eq_ok_iff.mpr ⟨poolNames d, namesUnder_eq_ok_iff.mpr ?_, ?_⟩
    · rw [Document.get?_getD_entries?]
      exact ⟨fits.pools, rfl⟩
    refine Except.bind_eq_ok_iff.mpr ⟨_, namesUnder_eq_ok_iff.mpr ⟨?_, rfl⟩, ?_⟩
    · rw [Document.get?_getD_entries?]
      exact fits.blueprints
    refine Except.bind_eq_ok_iff.mpr
      ⟨_, componentsOf_eq_ok_iff.mpr ⟨⟨fits.components, fun entry member => ?_⟩, rfl⟩, ?_⟩
    · exact ⟨fits.definitions entry member, legible entry member⟩
    · rw [Document.get?_getD_entries?]
      rfl

end Schema

namespace Model

open Schema

/-- A document is accepted exactly if it fits the lenient grammar and the types of its fields can be
written, and then the model is the one in it. -/
theorem ofDocument_eq_ok_iff {d : Document} {m : Model} :
    ofDocument d = .ok m ↔ (Fits .lenient d ∧ TypesLegible d) ∧ m = modelIn d := by
  unfold ofDocument
  split
  · next isNull =>
      obtain rfl := Document.isNull_iff.mp isNull
      exact modelOf_eq_ok_iff (.inl rfl)
  · next notNull =>
      split
      · next entries mapping =>
          rw [← modelOf_eq_ok_iff (.inr ⟨entries, mapping⟩), mapping]
          rfl
      · next noMapping =>
          constructor
          · intro result
            cases result
          · rintro ⟨⟨fits, _⟩, _⟩
            rcases fits.shape with isNull | ⟨entries, mapping⟩
            · exact absurd (Document.isNull_iff.mpr isNull) notNull
            · cases noMapping.symm.trans mapping

end Model

/-! ## Pools of components -/

/-- Some pools, all of them known. -/
def PoolsKnown (known pools : List String) : Prop :=
  pools ≠ [] ∧ pools ⊆ known

namespace Schema

theorem effectivePools_ne_nil {value : Option Document} : effectivePools value ≠ [] := by
  unfold effectivePools
  split <;> exact List.cons_ne_nil _ _

theorem DefinitionFits.poolsKnown {reading : Reading} {known : List String}
    {entry : Scalar × Document} (fits : DefinitionFits reading known entry.2) :
    PoolsKnown known (componentIn entry).pools := by
  constructor
  · exact fun none => effectivePools_ne_nil (List.map_eq_nil_iff.mp none)
  · intro pool member
    obtain ⟨document, inside, rfl⟩ := List.mem_map.mp member
    obtain ⟨s, isKnown, rfl⟩ := fits.known document inside
    exact isKnown

end Schema

/-- Components of an accepted document live in pools of the model. -/
theorem Model.ofDocument_known {d : Document} {m : Model} (accepted : Model.ofDocument d = .ok m) :
    ∀ c ∈ m.components, PoolsKnown m.pools c.pools := by
  obtain ⟨⟨fits, _⟩, rfl⟩ := Model.ofDocument_eq_ok_iff.mp accepted
  intro c member
  obtain ⟨entry, inside, rfl⟩ := List.mem_map.mp member
  exact (fits.definitions entry inside).poolsKnown

end EntityScribe
