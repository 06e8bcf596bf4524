import EntityScribe.Proofs.Grammar
import Mathlib.Data.List.Forall2
import Mathlib.Data.List.Nodup

/-!
# What a model holds of its document

A model has one component for each entry of the components of its document, in the same order, and
the first of a name is found under it. What is left out of the document has its default in the
model. A name that is a key both as a text and in bytes is the name of two components, or of two
fields; otherwise names are different.
-/

namespace EntityScribe

/-- The bytes that encode a text. -/
def Scalar.encoded (name : String) : Scalar :=
  .bytes name.toUTF8.data.toList

theorem Scalar.recordText?_eq_some_iff {key : Scalar} {name : String} :
    key.recordText? = some name ↔ key = .text name ∨ key = encoded name := by
  cases key with
  | text s => simp [recordText?, encoded]
  | bytes bs =>
      simp only [recordText?, String.fromUTF8?, encoded, reduceCtorEq, false_or, bytes.injEq]
      constructor
      · intro decoded
        split at decoded
        · cases decoded
          simp [String.fromUTF8]
        · cases decoded
      · rintro rfl
        exact dif_pos name.isValidUTF8
  | _ => simp [recordText?, encoded]

namespace Entries

variable {α : Type} {entries : Entries α}

/-- No name is a key twice, as a text and in bytes. -/
def Unmixed (entries : Entries α) : Prop :=
  ∀ name, .text name ∈ entries.map Prod.fst → .encoded name ∉ entries.map Prod.fst

theorem unmixed_of_texts (texts : ∀ entry ∈ entries, Schema.Reading.strict.named entry.1) :
    Unmixed entries := by
  intro name _ inBytes
  obtain ⟨entry, member, isBytes⟩ := List.mem_map.mp inBytes
  obtain ⟨_, isText⟩ := texts entry member
  cases isBytes.symm.trans isText

/-- Names of different keys are only the same where a text stands next to its bytes. -/
theorem Distinct.nodup_names_iff (distinct : Distinct entries)
    (names : ∀ entry ∈ entries, Schema.Reading.lenient.named entry.1) :
    (entries.map fun entry => Schema.nameOf entry.1).Nodup ↔ Unmixed entries := by
  constructor
  · intro nodup name inText inBytes
    obtain ⟨first, firstMember, isText⟩ := List.mem_map.mp inText
    obtain ⟨second, secondMember, isBytes⟩ := List.mem_map.mp inBytes
    have same : Schema.nameOf first.1 = Schema.nameOf second.1 := by
      rw [Schema.nameOf, Schema.nameOf, Scalar.recordText?_eq_some_iff.mpr (.inl isText),
        Scalar.recordText?_eq_some_iff.mpr (.inr isBytes)]
    rw [List.inj_on_of_nodup_map nodup firstMember secondMember same, isBytes] at isText
    cases isText
  · intro unmixed
    refine List.pairwise_map.mpr (List.Pairwise.imp_of_mem ?_ distinct)
    intro first second firstMember secondMember apart same
    have firstKey : first.1 ∈ entries.map Prod.fst := List.mem_map_of_mem firstMember
    have secondKey : second.1 ∈ entries.map Prod.fst := List.mem_map_of_mem secondMember
    obtain ⟨name, named⟩ := names first firstMember
    obtain ⟨other, otherNamed⟩ := names second secondMember
    obtain rfl : name = other := by
      rwa [Schema.nameOf, Schema.nameOf, named, otherNamed] at same
    rcases Scalar.recordText?_eq_some_iff.mp named with isFirst | isFirst <;>
      rcases Scalar.recordText?_eq_some_iff.mp otherNamed with isSecond | isSecond <;>
      rw [isFirst] at firstKey apart <;> rw [isSecond] at secondKey apart
    · exact Bool.eq_false_iff.mp apart (Scalar.same_text_iff.mpr rfl)
    · exact unmixed name firstKey secondKey
    · exact unmixed name secondKey firstKey
    · exact Bool.eq_false_iff.mp apart (beq_self_eq_true _)

end Entries

namespace Model

variable {m : Model} {name : String}

theorem component?_eq_none_iff : m.component? name = none ↔ ∀ c ∈ m.components, c.name ≠ name := by
  rw [component?, List.find?_eq_none]
  simp

/-- The first component of a name is found under it. -/
theorem component?_of_first {before after : List Component} {c : Component}
    (split : m.components = before ++ c :: after) (first : ∀ e ∈ before, e.name ≠ c.name) :
    m.component? c.name = some c := by
  rw [component?, List.find?_eq_some_iff_append]
  exact ⟨decide_eq_true rfl, before, after, split, fun e member => by simpa using first e member⟩

end Model

namespace Schema

/-- The names under a key, none of them blank: those of the list there in their order, or the
default if nothing or null is there. -/
inductive Names (default : List String) : Option Document → List String → Prop where
  | missing : Names default none default
  | null : Names default (some .null) default
  | listed {d : Document} {names : List String} (items : d.items? = some (names.map Document.text))
      (filled : ∀ name ∈ names, ∃ c ∈ name.toList, Text.isBlank c = false) :
      Names default (some d) names

/-- No name is empty if none of the default is. -/
theorem Names.ne_empty {default names : List String} {value : Option Document}
    (listed : Names default value names) (defaultFilled : ∀ name ∈ default, name ≠ "") :
    ∀ name ∈ names, name ≠ "" := by
  cases listed with
  | missing => exact defaultFilled
  | null => exact defaultFilled
  | listed _ filled =>
      rintro name member rfl
      obtain ⟨c, inside, _⟩ := filled "" member
      cases inside

/-- A component that an entry describes, where some pools are known. -/
structure Describes (known : List String) (entry : Scalar × Document) (c : Component) : Prop where
  name : entry.1.recordText? = some c.name
  fields : (entry.2.entriesUnder "fields").map
      (fun field => (field.1.recordText?, field.2.asText)) =
    c.fields.map fun field => (some field.name, field.type)
  fieldNames : (c.fields.map (·.name)).Nodup ↔ (entry.2.entriesUnder "fields").Unmixed
  pools : poolsIn entry.2 = c.pools.map Document.text
  filled : c.pools ≠ []
  known : c.pools ⊆ known

/-- A model that a document describes. -/
structure Faithful (d : Document) (m : Model) : Prop where
  components : List.Forall₂ (Describes m.pools) (d.entriesUnder componentsKey) m.components
  names : (m.components.map (·.name)).Nodup ↔ (d.entriesUnder componentsKey).Unmixed
  /-- The first entry of a name is the one that is found. -/
  found : ∀ before entry after, d.entriesUnder componentsKey = before ++ entry :: after →
    (∀ other ∈ before, other.1.recordText? ≠ entry.1.recordText?) →
    ∃ c, Describes m.pools entry c ∧ m.component? c.name = some c
  absent : ∀ name, m.component? name = none ↔
    ∀ entry ∈ d.entriesUnder componentsKey, entry.1.recordText? ≠ some name
  pools : Names [Naming.defaultPool] (d.value? poolsKey) m.pools
  blueprints : Names [] (d.value? blueprintsKey) m.blueprints

theorem Faithful.nodup_fields {d : Document} {m : Model} (faithful : Faithful d m)
    (unmixed : ∀ entry ∈ d.entriesUnder componentsKey,
      (entry.2.entriesUnder "fields").Unmixed) :
    ∀ c ∈ m.components, (c.fields.map (·.name)).Nodup := by
  have described := ((List.forall₂_and_left _ _).mpr ⟨unmixed, faithful.components⟩).flip
  exact ((List.forall₂_and_left _ _).mp (described.imp fun _ _ both =>
    ⟨both.2.fieldNames.mpr both.1, both⟩)).1

theorem map_text_asText {documents : List Document} (texts : ∀ d ∈ documents, ∃ s, d = .text s) :
    (documents.map Document.asText).map Document.text = documents := by
  rw [List.map_map]
  have own : ∀ d ∈ documents, (Document.text ∘ Document.asText) d = d := by
    intro d member
    obtain ⟨s, rfl⟩ := texts d member
    rfl
  exact (List.map_congr_left own).trans (List.map_id _)

theorem names_of_optional {value : Option Document} {default : List String}
    (optional : Optional Document.isNull IsNameList value) :
    Names default value (namesIn value default) := by
  cases optional with
  | missing => exact .missing
  | leftOut isNull =>
      obtain rfl := Document.isNull_iff.mp isNull
      exact .null
  | @given d list =>
      obtain ⟨items, listed, areNames⟩ := list
      have read : namesIn (some d) default = items.map Document.asText := by
        rw [namesIn, Option.bind_some, listed]
      rw [read]
      refine .listed ?_ ?_
      · rw [listed, map_text_asText fun item member => ?_]
        obtain ⟨s, isText, _⟩ := areNames item member
        exact ⟨s, isText⟩
      · intro name member
        obtain ⟨item, inside, rfl⟩ := List.mem_map.mp member
        obtain ⟨s, rfl, filled⟩ := areNames item inside
        exact filled

theorem recordText?_of_named {key : Scalar} (named : Reading.lenient.named key) :
    key.recordText? = some (nameOf key) := by
  obtain ⟨name, here⟩ := named
  rw [nameOf, here, Option.getD_some]

/-- The component that is read off an entry that fits is the one that the entry describes. -/
theorem describes_componentIn {known : List String} {entry : Scalar × Document}
    (keyed : entry.2.Keyed) (named : Reading.lenient.named entry.1)
    (fits : DefinitionFits .lenient known entry.2) :
    Describes known entry (componentIn entry) := by
  have keys := (optional_hasNames_iff.mp fits.fields).2
  refine ⟨recordText?_of_named named, ?_, ?_, ?_, ?_, ?_⟩
  · rw [componentIn, List.map_map]
    refine List.map_congr_left fun field member => ?_
    rw [Function.comp_apply, recordText?_of_named (keys field member)]
    rfl
  · rw [componentIn, List.map_map]
    exact (keyed.of_entriesUnder "fields").1.nodup_names_iff keys
  · refine (map_text_asText fun pool member => ?_).symm
    obtain ⟨s, _, isText⟩ := fits.known pool member
    exact ⟨s, isText⟩
  · exact fits.poolsKnown.1
  · exact fits.poolsKnown.2

end Schema

namespace Model

open Schema

variable {d : Document} {m : Model}

/-- The model that is read off a document that fits is one that the document describes. -/
theorem faithful_modelIn (keyed : d.Keyed) (fits : Fits .lenient d) : Faithful d (modelIn d) := by
  obtain ⟨distinct, inner⟩ := keyed.of_entriesUnder componentsKey
  have keys := (optional_hasNames_iff.mp fits.components).2
  have describes : ∀ entry ∈ d.entriesUnder componentsKey,
      Describes (modelIn d).pools entry (componentIn entry) :=
    fun entry member => describes_componentIn (inner entry member) (keys entry member)
      (fits.definitions entry member)
  refine ⟨?_, ?_, ?_, ?_, ?_, ?_⟩
  · exact List.forall₂_map_right_iff.mpr (List.forall₂_same.mpr describes)
  · rw [modelIn, List.map_map]
    exact distinct.nodup_names_iff keys
  · intro before entry after split first
    have member : ∀ other ∈ before ++ [entry], other ∈ d.entriesUnder componentsKey := by
      rw [split]
      simp only [List.mem_append, List.mem_cons]
      tauto
    have here := describes entry (member entry List.mem_concat_self)
    have among : (modelIn d).components =
        before.map componentIn ++ componentIn entry :: after.map componentIn := by
      rw [modelIn, split, List.map_append, List.map_cons]
    refine ⟨componentIn entry, here, component?_of_first among (List.forall_mem_map.mpr ?_)⟩
    intro other inside same
    have there := describes other (member other (List.mem_append_left _ inside))
    exact first other inside (by rw [there.name, here.name, same])
  -- The names are those of the keys, so a name that no component has is the name of no key.
  · intro name
    rw [component?_eq_none_iff, modelIn, List.forall_mem_map]
    refine forall₂_congr fun entry member => not_congr ?_
    rw [(describes entry member).name, Option.some.injEq]
  · exact names_of_optional fits.pools
  · exact names_of_optional fits.blueprints

/-- An accepted document describes its model. -/
theorem faithful_of_accepted (keyed : d.Keyed) (accepted : ofDocument d = .ok m) :
    Faithful d m := by
  obtain ⟨⟨fits, _⟩, rfl⟩ := ofDocument_eq_ok_iff.mp accepted
  exact faithful_modelIn keyed fits

/-- Two components, one of which leaves its pools out. -/
theorem faithful_position :
    let fields := Document.mapping [(.text "x", .text "float"), (.text "y", .scalar (.bool true))]
    let position := Document.mapping
      [(.text "pools", .list [.text "Enemy", .text "Pool"]), (.text "fields", fields)]
    let player := Document.mapping [(.text "single_entity", .scalar (.bool true))]
    let components := Document.mapping [(.text "Position", position), (.text "Player", player)]
    let d := Document.mapping
      [(.text "_pools", .list [.text "Pool", .text "Enemy"]), (.text "_components", components)]
    let m : Model :=
      ⟨["Pool", "Enemy"],
        [⟨"Position", [⟨"x", "float"⟩, ⟨"y", "True"⟩], ["Enemy", "Pool"], false⟩,
          ⟨"Player", [], ["Pool"], true⟩], []⟩
    d.Keyed ∧ ofDocument d = .ok m ∧ Faithful d m := by
  intro fields position player components d m
  have text (s : String) : (Document.text s).Keyed := .scalar _
  have list (first second : String) : (Document.list [.text first, .text second]).Keyed :=
    .list (by simp [text])
  have fieldsKeyed : fields.Keyed := Document.keyed_mapping (by simp [text, Document.Keyed.scalar])
  have positionKeyed : position.Keyed := Document.keyed_mapping (by simp [list, fieldsKeyed])
  have playerKeyed : player.Keyed := Document.keyed_mapping (by simp [Document.Keyed.scalar])
  have componentsKeyed : components.Keyed :=
    Document.keyed_mapping (by simp [positionKeyed, playerKeyed])
  have keyed : d.Keyed := Document.keyed_mapping (by simp [list, componentsKeyed])
  have accepted : ofDocument d = .ok m := by rfl
  exact ⟨keyed, accepted, faithful_of_accepted keyed accepted⟩

/-- A component that is named both by a text and in bytes is there twice. -/
theorem components_of_mixed :
    let d := Document.mapping
      [(.text "_components", .mapping [(.text "A", .mapping []), (.bytes [0x41], .mapping [])])]
    let c : Component := { name := "A" }
    ofDocument d = .ok ⟨["Pool"], [c, c], []⟩ ∧ ¬([c, c].map (·.name)).Nodup := by
  intro d c
  exact ⟨rfl, by decide⟩

end Model

end EntityScribe
