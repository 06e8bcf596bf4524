import EntityScribe.Proofs.Numbering
import Mathlib.Data.List.Pairwise

/-!
# Names declared in a lookup class

A lookup class declares its components by their short names, next to two members of its own. The
model is not asked whether these are different names. They are, exactly if no component lists the
pool twice, no two components in it differ by the suffix alone, and none has the short name of the
other members.
-/

namespace EntityScribe

namespace Naming

/-! ## Short names -/

/-- The second name is the first, which is its own short name, with the suffix. -/
def Twins (first second : String) : Prop :=
  first ≠ "" ∧ shortName first = first ∧ second = first ++ componentSuffix

instance (first second : String) : Decidable (Twins first second) :=
  inferInstanceAs (Decidable (_ ∧ _ ∧ _))

theorem shortName_append {front : String} (filled : front ≠ "") :
    shortName (front ++ componentSuffix) = front := by
  have chars : (front ++ componentSuffix).toList = front.toList ++ componentSuffix.toList :=
    String.toList_append
  have ends : componentSuffix.toList.isSuffixOf (front.toList ++ componentSuffix.toList) = true :=
    List.isSuffixOf_iff_suffix.mpr (List.suffix_append _ _)
  have longer : (front.toList ++ componentSuffix.toList != componentSuffix.toList) = true := by
    rw [bne_iff_ne]
    intro same
    exact filled (String.toList_eq_nil_iff.mp (List.append_left_eq_self.mp same))
  rw [shortName, chars, ends, longer, Bool.and_self, if_pos rfl, List.length_append,
    Nat.add_sub_cancel, List.take_left, String.ofList_toList]

/-- A name is its own short name, or has the suffix behind it. -/
theorem shortName_cases (component : String) :
    shortName component = component ∨
      ∃ front, front ≠ "" ∧ component = front ++ componentSuffix ∧ shortName component = front := by
  by_cases ends : componentSuffix.toList.isSuffixOf component.toList = true
  · obtain ⟨front, chars⟩ := List.isSuffixOf_iff_suffix.mp ends
    have split : component = String.ofList front ++ componentSuffix := by
      rw [← String.toList_inj, String.toList_append, String.toList_ofList, chars]
    by_cases filled : String.ofList front = ""
    · left
      rw [split, filled]
      decide
    · exact .inr ⟨_, filled, split, split ▸ shortName_append filled⟩
  · left
    rw [shortName, if_neg]
    intro both
    exact ends (Bool.and_eq_true_iff.mp both).1

/-- Different names have the same short name only if they differ by the suffix alone. -/
theorem shortName_eq_iff {first second : String} :
    shortName first = shortName second ↔
      first = second ∨ Twins first second ∨ Twins second first := by
  constructor
  · intro same
    rcases shortName_cases first with own | ⟨front, filled, isFirst, short⟩ <;>
      rcases shortName_cases second with ownSecond | ⟨other, otherFilled, isSecond, otherShort⟩
    · left
      rwa [own, ownSecond] at same
    · obtain rfl : first = other := by rw [← own, same, otherShort]
      exact .inr (.inl ⟨otherFilled, own, isSecond⟩)
    · obtain rfl : second = front := by rw [← ownSecond, ← same, short]
      exact .inr (.inr ⟨filled, ownSecond, isFirst⟩)
    · left
      rw [isFirst, isSecond, ← short, ← otherShort, same]
  · rintro (rfl | ⟨filled, own, rfl⟩ | ⟨filled, own, rfl⟩)
    · rfl
    · rw [shortName_append filled, own]
    · rw [shortName_append filled, own]

end Naming

/-! ## Repeated names -/

section Repetition

variable {α β : Type} {items : List α} {times : α → Nat} {nameOf : α → β}

/-- Names of different items, each some number of times, are different if none is there twice and
no two items have the same. -/
theorem nodup_flatMap_replicate_iff (nodup : items.Nodup) :
    (items.flatMap fun i => List.replicate (times i) (nameOf i)).Nodup ↔
      (∀ i ∈ items, times i ≤ 1) ∧
        ∀ i ∈ items, ∀ j ∈ items, 0 < times i → 0 < times j → nameOf i = nameOf j → i = j := by
  have disjoint : ∀ i j,
      List.Disjoint (List.replicate (times i) (nameOf i)) (List.replicate (times j) (nameOf j)) ↔
        (0 < times i → 0 < times j → nameOf i ≠ nameOf j) := by
    intro i j
    simp only [List.disjoint_left, List.mem_replicate, Nat.pos_iff_ne_zero]
    grind
  rw [List.nodup_flatMap]
  constructor
  · rintro ⟨once, apart⟩
    refine ⟨fun i member => List.nodup_replicate.mp (once i member), ?_⟩
    intro i first j second someI someJ same
    have symmetric : Std.Symm
        (Function.onFun List.Disjoint fun i => List.replicate (times i) (nameOf i)) :=
      ⟨fun _ _ separate _ second first => separate first second⟩
    by_contra other
    exact (disjoint i j).mp (apart.forall first second other) someI someJ same
  · rintro ⟨once, apart⟩
    refine ⟨fun i member => List.nodup_replicate.mpr (once i member), ?_⟩
    apply nodup.pairwise_of_forall_ne
    intro i first j second other
    exact (disjoint i j).mpr fun someI someJ same => other (apart i first j second someI someJ same)

end Repetition

/-! ## Models -/

/-- The model names nothing twice for a pool. -/
structure Model.Unambiguous (m : Model) (pool : String) : Prop where
  /-- No component lists the pool twice. -/
  once : ∀ c ∈ m.components, c.pools.count pool ≤ 1
  /-- No two components in the pool differ by the suffix alone. -/
  apart : ∀ c ∈ m.components, ∀ e ∈ m.components, pool ∈ c.pools → pool ∈ e.pools →
    ¬Naming.Twins c.name e.name
  /-- No component in the pool has the name of another member. -/
  free : ∀ c ∈ m.components, pool ∈ c.pools → c.shortName ∉ ["TotalComponents", "componentNames"]

namespace BuiltIn

variable {m : Model} {pool : String}

/-- The names that are declared for a pool. -/
def declared (components : List Component) (pool : String) : List String :=
  components.flatMap fun c => List.replicate (c.pools.count pool) c.shortName

theorem mem_declared_iff {components : List Component} {name : String} :
    name ∈ declared components pool ↔ ∃ c ∈ components, pool ∈ c.pools ∧ c.shortName = name := by
  rw [declared, List.mem_flatMap]
  refine exists_congr fun c => and_congr_right fun _ => ?_
  rw [List.mem_replicate, ← Nat.pos_iff_ne_zero, List.count_pos_iff, eq_comm]

/-- A component lists the tag of a pool as often as the pool itself. -/
theorem count_lookupTags {c : Component} (filled : ∀ p ∈ c.pools, p ≠ "") (some : pool ≠ "") :
    c.lookupTags.count (Naming.lookupTag pool) = c.pools.count pool := by
  rw [Component.lookupTags, List.count, List.countP_map, List.count]
  apply List.countP_congr
  intro p member
  rw [Function.comp_apply, beq_iff_eq, beq_iff_eq]
  exact ⟨Naming.lookupTag_injective (filled p member) some, congrArg Naming.lookupTag⟩

theorem enrolled_lookupTag {components : List Component}
    (filled : ∀ c ∈ components, ∀ p ∈ c.pools, p ≠ "") (some : pool ≠ "") :
    LookupClasses.enrolled (Naming.lookupTag pool) components = declared components pool := by
  apply List.flatMap_congr
  intro c member
  rw [count_lookupTags (filled c member) some]

theorem nodup_declared_iff (nodup : (m.components.map (·.name)).Nodup) :
    (declared m.components pool).Nodup ↔
      (∀ c ∈ m.components, c.pools.count pool ≤ 1) ∧
        ∀ c ∈ m.components, ∀ e ∈ m.components, pool ∈ c.pools → pool ∈ e.pools →
          ¬Naming.Twins c.name e.name := by
  have named := List.inj_on_of_nodup_map nodup
  rw [declared, nodup_flatMap_replicate_iff nodup.of_map]
  simp only [List.count_pos_iff]
  refine and_congr_right fun _ => ⟨fun apart c first e second inC inE twins => ?_,
    fun apart c first e second inC inE same => ?_⟩
  · obtain rfl := apart c first e second inC inE (Naming.shortName_eq_iff.mpr (.inr (.inl twins)))
    have empty := String.append_eq_left_iff.mp twins.2.2.symm
    exact absurd empty (by decide)
  · rcases Naming.shortName_eq_iff.mp same with own | twins | twins
    · exact named first second own
    · exact absurd twins (apart c first e second inC inE)
    · exact absurd twins (apart e second c first inE inC)

theorem map_name_groups (names : List String) :
    (Member.groups names).flatten.map Member.name =
      names ++ ["TotalComponents", "componentNames"] := by
  have constants : (Member.numbered names).map Member.name = names := by
    rw [Member.numbered, List.map_map]
    exact List.zipIdx_map_fst 0 names
  simp [Member.groups, constants, Member.name]

/-- The members of a class have different names exactly if the model names nothing twice for it. -/
theorem nodup_members_iff (nodup : (m.components.map (·.name)).Nodup) :
    ((Member.groups (declared m.components pool)).flatten.map Member.name).Nodup ↔
      m.Unambiguous pool := by
  have own : ["TotalComponents", "componentNames"].Nodup := by decide
  have outside : (declared m.components pool).Disjoint ["TotalComponents", "componentNames"] ↔
      ∀ c ∈ m.components, pool ∈ c.pools →
        c.shortName ∉ ["TotalComponents", "componentNames"] := by
    constructor
    · exact fun disjoint c member inside => disjoint (mem_declared_iff.mpr ⟨c, member, inside, rfl⟩)
    · intro free name there
      obtain ⟨c, member, inside, rfl⟩ := mem_declared_iff.mp there
      exact free c member inside
  rw [map_name_groups, List.nodup_append', nodup_declared_iff nodup, outside]
  constructor
  · rintro ⟨⟨once, apart⟩, _, free⟩
    exact ⟨once, apart, free⟩
  · rintro ⟨once, apart, free⟩
    exact ⟨⟨once, apart⟩, own, free⟩

/-! ## Accepted documents -/

variable {d : Document}

/-- The generator gives one class for each pool of an accepted document, in which no component is
named both by a text and in bytes. The names of its members are different exactly if the model names
nothing twice for the pool, and then every component in the pool is declared once. -/
theorem emits_declarations (keyed : d.Keyed) (accepted : Model.ofDocument d = .ok m)
    (unmixed : (d.entriesUnder Schema.componentsKey).Unmixed) (slot : Nat) (memory : PoolMemory) :
    ∃ artifacts, Emits slot memory m.pools m.components artifacts ∧
      artifacts.map (·.name) = m.pools.eraseDups.map Naming.lookupTag ∧
      ∀ a ∈ artifacts, ∃ pool ∈ m.pools,
        let members := Member.groups (declared m.components pool)
        IsClassOf a (Naming.lookupTag pool) members ∧
        ((members.flatten.map Member.name).Nodup ↔ m.Unambiguous pool) ∧
        (m.Unambiguous pool → ∀ c ∈ m.components, pool ∈ c.pools →
          (declared m.components pool).count c.shortName = 1) := by
  have faithful := Model.faithful_of_accepted keyed accepted
  have distinct := faithful.names.mpr unmixed
  have filled := faithful.pools.ne_empty (by decide)
  have known := fun c member => (Model.ofDocument_known accepted c member).2
  have names : (LookupClasses.artifacts m.pools m.components).map (·.name) =
      m.pools.eraseDups.map Naming.lookupTag :=
    map_name_batch (b := componentIndices) known filled rfl
  refine ⟨_, emits_artifacts slot memory m.pools m.components, names, ?_⟩
  intro a member
  have listed := List.mem_map_of_mem (f := (·.name)) member
  rw [names, List.mem_map] at listed
  obtain ⟨pool, among, tag⟩ := listed
  have inside := List.mem_eraseDups.mp among
  have isClass := isClassOf_of_mem_artifacts member
  rw [← tag, enrolled_lookupTag (fun c within p lists => filled p (known c within lists))
    (filled pool inside)] at isClass
  refine ⟨pool, inside, isClass, nodup_members_iff distinct, ?_⟩
  intro unambiguous c within lists
  have nodup := (nodup_declared_iff distinct).mpr ⟨unambiguous.once, unambiguous.apart⟩
  exact List.count_eq_one_of_mem nodup (mem_declared_iff.mpr ⟨c, within, lists, rfl⟩)

/-- Two pools, and a component with the suffix in both of them. -/
theorem emits_declarations_position :
    let pools := Document.list [.text "Pool", .text "Enemy"]
    let d := Document.mapping [(.text "_pools", pools), (.text "_components", .mapping
      [(.text "PositionComponent", .mapping [(.text "pools", pools)]), (.text "Health", .null)])]
    ∃ m artifacts, Model.ofDocument d = .ok m ∧ Emits 0 .none m.pools m.components artifacts ∧
      artifacts.map (·.name) = ["ComponentIds", "EnemyComponentIds"] ∧
      ∀ a ∈ artifacts, ∃ pool ∈ m.pools,
        let members := Member.groups (declared m.components pool)
        IsClassOf a (Naming.lookupTag pool) members ∧ (members.flatten.map Member.name).Nodup := by
  intro pools d
  let m : Model := ⟨["Pool", "Enemy"],
    [⟨"PositionComponent", [], ["Pool", "Enemy"], false⟩, ⟨"Health", [], ["Pool"], false⟩], []⟩
  have null : Document.null.Keyed := .scalar .null
  have text (s : String) : (Document.text s).Keyed := .scalar _
  have listed : pools.Keyed := .list (by simp [text])
  have position : (Document.mapping [(.text "pools", pools)]).Keyed :=
    Document.keyed_mapping (by simp [listed])
  have components : (Document.mapping [(.text "PositionComponent",
      .mapping [(.text "pools", pools)]), (.text "Health", .null)]).Keyed :=
    Document.keyed_mapping (by simp [position, null])
  have keyed : d.Keyed := Document.keyed_mapping (by simp [listed, components])
  have accepted : Model.ofDocument d = .ok m := by rfl
  have once : ∀ pool ∈ m.pools, ∀ c ∈ m.components, c.pools.count pool ≤ 1 := by decide
  have apart : ∀ pool ∈ m.pools, ∀ c ∈ m.components, ∀ e ∈ m.components,
      pool ∈ c.pools → pool ∈ e.pools → ¬Naming.Twins c.name e.name := by decide
  have free : ∀ pool ∈ m.pools, ∀ c ∈ m.components, pool ∈ c.pools →
      c.shortName ∉ ["TotalComponents", "componentNames"] := by decide
  have unmixed : (d.entriesUnder Schema.componentsKey).Unmixed := by
    refine Entries.unmixed_of_texts ?_
    exact List.forall_mem_cons.mpr ⟨⟨"PositionComponent", rfl⟩,
      List.forall_mem_singleton.mpr ⟨"Health", rfl⟩⟩
  obtain ⟨artifacts, emits, names, classes⟩ := emits_declarations keyed accepted unmixed 0 .none
  refine ⟨m, artifacts, accepted, emits, names.trans (by decide), fun a member => ?_⟩
  obtain ⟨pool, inside, isClass, distinct, _⟩ := classes a member
  exact ⟨pool, inside, isClass, distinct.mpr
    ⟨once pool inside, apart pool inside, free pool inside⟩⟩

/-- A pool that is listed twice, components that differ by the suffix alone, and a component with
the name of another member are accepted, and their names are declared twice. -/
theorem declared_twice :
    let repeated := Document.mapping [(.text "A", .mapping [(.text "pools",
      .list [.text "Pool", .text "Pool"])])]
    let twins := Document.mapping [(.text "A", .null), (.text "AComponent", .null)]
    let reserved := Document.mapping [(.text "TotalComponents", .null)]
    ∀ components ∈ [repeated, twins, reserved], ∃ m artifacts a names,
      Model.ofDocument (.mapping [(.text "_components", components)]) = .ok m ∧
        Emits 0 .none m.pools m.components artifacts ∧ a ∈ artifacts ∧
        IsClassOf a "ComponentIds" (Member.groups names) ∧
        ¬((Member.groups names).flatten.map Member.name).Nodup := by
  intro repeated twins reserved
  have emitted : ∀ d (m : Model) names, Model.ofDocument d = .ok m →
      LookupClasses.classes m.pools m.components = [⟨"ComponentIds", names⟩] →
      ¬((Member.groups names).flatten.map Member.name).Nodup →
      ∃ m artifacts a names, Model.ofDocument d = .ok m ∧
        Emits 0 .none m.pools m.components artifacts ∧ a ∈ artifacts ∧
        IsClassOf a "ComponentIds" (Member.groups names) ∧
        ¬((Member.groups names).flatten.map Member.name).Nodup := by
    intro d m names accepted classes twice
    refine ⟨m, _, LookupClasses.artifact ⟨"ComponentIds", names⟩, names, accepted,
      emits_artifacts 0 .none m.pools m.components, ?_, LookupClass.isClassOf_artifact _, twice⟩
    rw [LookupClasses.artifacts, classes]
    exact List.mem_cons_self
  simp only [List.forall_mem_cons]
  refine ⟨?_, ?_, ?_, List.forall_mem_nil _⟩
  · exact emitted _ ⟨["Pool"], [⟨"A", [], ["Pool", "Pool"], false⟩], []⟩ ["A", "A"]
      (by rfl) (by decide) (by decide)
  · exact emitted _
      ⟨["Pool"], [⟨"A", [], ["Pool"], false⟩, ⟨"AComponent", [], ["Pool"], false⟩], []⟩ ["A", "A"]
      (by rfl) (by decide) (by decide)
  · exact emitted _ ⟨["Pool"], [⟨"TotalComponents", [], ["Pool"], false⟩], []⟩ ["TotalComponents"]
      (by rfl) (by decide) (by decide)

end BuiltIn

end EntityScribe
