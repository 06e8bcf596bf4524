import EntityScribe.Proofs.ClassTexts
import EntityScribe.Proofs.FirstLetters
import EntityScribe.Proofs.Models

/-!
# Identifiers in a generated scope

Accessors of pools, parameters for fields and methods of blueprints are named for what they stand
for, with the first letter in another case. The model is not asked whether these are different
names. They are, exactly if no two names differ by this case alone; in the names of blueprints the
spaces do not count either.
-/

namespace EntityScribe

/-- Different items have different names exactly if no two of them are named alike. -/
theorem nodup_map_iff_forall_ne {α β : Type} {items : List α} {f : α → β} (nodup : items.Nodup) :
    (items.map f).Nodup ↔ ∀ a ∈ items, ∀ b ∈ items, a ≠ b → f a ≠ f b := by
  rw [List.nodup_map_iff_inj_on nodup]
  exact forall₄_congr fun _ _ _ _ => not_imp_not.symm

namespace BuiltIn

/-! ## Accessors -/

namespace PoolAccessors

theorem accessor_of_ne {pool : String} (filled : pool ≠ "") (other : pool ≠ Naming.defaultPool) :
    accessor pool = Text.lowerFirst pool ++ "Pool" := by
  rw [accessor, Naming.qualifier_of_ne other]
  exact Text.lowerFirst_append filled Naming.defaultPool

/-- The accessor of the default pool is all in lower case, that of another pool ends otherwise. -/
theorem accessor_ne_default {pool : String} (filled : pool ≠ "")
    (other : pool ≠ Naming.defaultPool) : accessor pool ≠ accessor Naming.defaultPool := by
  have plain : accessor Naming.defaultPool = "pool" := by decide
  rw [accessor_of_ne filled other, plain]
  intro same
  have ends : "Pool".toList <:+ "pool".toList := by
    rw [← same, String.toList_append]
    exact List.suffix_append _ _
  exact absurd ends (by decide)

theorem accessor_ne_iff {p q : String} (filledP : p ≠ "") (filledQ : q ≠ "") (apart : p ≠ q) :
    accessor p ≠ accessor q ↔
      (p ≠ Naming.defaultPool → q ≠ Naming.defaultPool → ¬Text.CaseTwins Text.lower p q) := by
  by_cases first : p = Naming.defaultPool
  · subst first
    exact iff_of_true (accessor_ne_default filledQ apart.symm).symm fun own => absurd rfl own
  · by_cases second : q = Naming.defaultPool
    · subst second
      exact iff_of_true (accessor_ne_default filledP apart) fun _ own => absurd rfl own
    · rw [accessor_of_ne filledP first, accessor_of_ne filledQ second, Text.caseTwins_lower_iff,
        ne_eq, String.append_left_inj]
      exact ⟨fun other _ _ twins => other twins.2,
        fun free same => free first second ⟨apart, same⟩⟩

theorem nodup_accessors_iff {pools : List String} (filled : ∀ pool ∈ pools, pool ≠ "")
    (nodup : pools.Nodup) :
    (pools.map accessor).Nodup ↔ ∀ p ∈ pools, ∀ q ∈ pools,
      p ≠ Naming.defaultPool → q ≠ Naming.defaultPool → ¬Text.CaseTwins Text.lower p q := by
  rw [nodup_map_iff_forall_ne nodup]
  refine forall₄_congr fun p inP q inQ => ⟨fun other first second twins => ?_, fun free apart => ?_⟩
  · exact (accessor_ne_iff (filled p inP) (filled q inQ) twins.1).mp (other twins.1) first second
      twins
  · exact (accessor_ne_iff (filled p inP) (filled q inQ) apart).mpr free

end PoolAccessors

/-! ## Parameters -/

theorem Extensions.nodup_parameters_iff {names : List String} (nodup : names.Nodup) :
    (names.map fun name => "new" ++ Text.upperFirst name).Nodup ↔
      ∀ s ∈ names, ∀ t ∈ names, ¬Text.CaseTwins Text.upper s t := by
  rw [nodup_map_iff_forall_ne nodup]
  refine forall₄_congr fun s _ t _ => ?_
  rw [Text.caseTwins_upper_iff, not_and]
  exact imp_congr_right fun _ => not_congr (String.append_right_inj _)

/-! ## Methods -/

namespace BlueprintMethods

/-- A name without its spaces. -/
def joined (blueprint : String) : String :=
  String.ofList (blueprint.toList.filter (· != ' '))

/-- Different names that are the same but for spaces and the case of the first letter. -/
def Meets (first second : String) : Prop :=
  first ≠ second ∧
    (joined first = joined second ∨ Text.CaseTwins Text.upper (joined first) (joined second))

instance (first second : String) : Decidable (Meets first second) :=
  inferInstanceAs (Decidable (_ ∧ (_ ∨ _)))

theorem meets_iff {first second : String} :
    Meets first second ↔ first ≠ second ∧ methodName first = methodName second := by
  refine and_congr_right fun _ => ?_
  change _ ↔ Text.upperFirst (joined first) = Text.upperFirst (joined second)
  rw [Text.caseTwins_upper_iff]
  by_cases same : joined first = joined second
  · exact iff_of_true (.inl same) (congrArg Text.upperFirst same)
  · rw [or_iff_right same, and_iff_right same]

theorem nodup_methods_iff {blueprints : List String} (nodup : blueprints.Nodup) :
    (blueprints.map methodName).Nodup ↔
      ∀ a ∈ blueprints, ∀ b ∈ blueprints, ¬Meets a b := by
  rw [nodup_map_iff_forall_ne nodup]
  refine forall₄_congr fun a _ b _ => ?_
  rw [meets_iff, not_and]

end BlueprintMethods

/-! ## Scopes -/

/-- What the generators declare in a scope has different names exactly if the model names nothing
alike there. -/
structure Scopes (m : Model) : Prop where
  accessors : ∃ a accessors, (pools.answer m).outcome = .ok [a] ∧ IsAccessorClass a accessors ∧
    accessors.map (·.pool) = m.pools ∧
    ((accessors.map (·.name)).Nodup ↔ ∀ p ∈ m.pools, ∀ q ∈ m.pools,
      p ≠ Naming.defaultPool → q ≠ Naming.defaultPool → ¬Text.CaseTwins Text.lower p q)
  parameters : ∃ artifacts, (componentExtensions.answer m).outcome = .ok artifacts ∧
    List.Forall₂ (fun c a => ∃ parameters : List Parameter,
      parameters.map (·.type) = c.fields.map (·.type) ∧
      (c.fields ≠ [] → ∀ verb ∈ ["Add", "Replace"],
        a.HasLine (signature (verb ++ c.shortName) parameters)) ∧
      ((parameters.map (·.name)).Nodup ↔ ∀ f ∈ c.fields, ∀ g ∈ c.fields,
        ¬Text.CaseTwins Text.upper f.name g.name)) m.components artifacts
  methods : ∃ methods : List Method, methods.map (·.blueprint) = m.blueprints ∧
    (m.blueprints ≠ [] →
      ∃ a, (blueprints.answer m).outcome = .ok [a] ∧ IsMethodClass a methods) ∧
    ((methods.map (·.name)).Nodup ↔
      ∀ s ∈ m.blueprints, ∀ t ∈ m.blueprints, ¬BlueprintMethods.Meets s t)

variable {d : Document} {m : Model}

/-- In an accepted document with different pools and different blueprints, and with no field that is
named both by a text and in bytes, names in a generated scope are the same exactly if names in the
document differ by the case of their first letter alone, or for blueprints by their spaces. -/
theorem scopes_of_accepted (keyed : d.Keyed) (accepted : Model.ofDocument d = .ok m)
    (unmixed : ∀ entry ∈ d.entriesUnder Schema.componentsKey,
      (entry.2.entriesUnder "fields").Unmixed)
    (poolsApart : m.pools.Nodup) (blueprintsApart : m.blueprints.Nodup) : Scopes m := by
  have faithful := Model.faithful_of_accepted keyed accepted
  refine ⟨?_, ?_, ?_⟩
  · refine ⟨_, m.pools.map PoolAccessors.accessorOf, rfl,
      PoolAccessors.isAccessorClass_artifact m.pools, ?_, ?_⟩
    · rw [List.map_map]
      exact List.map_id _
    · rw [List.map_map]
      exact PoolAccessors.nodup_accessors_iff (faithful.pools.ne_empty (by decide)) poolsApart
  · refine ⟨_, rfl, List.forall₂_map_right_iff.mpr (List.forall₂_same.mpr fun c member => ?_)⟩
    refine ⟨c.fields.map Extensions.parameterOf, ?_, Extensions.hasLine_signature, ?_⟩
    · rw [List.map_map]
      rfl
    · have named := Extensions.nodup_parameters_iff (faithful.nodup_fields unmixed c member)
      rw [List.map_map, List.forall_mem_map] at named
      simp only [List.forall_mem_map] at named
      rw [List.map_map]
      exact named
  · refine ⟨m.blueprints.map BlueprintMethods.methodOf, ?_, fun some => ?_, ?_⟩
    · rw [List.map_map]
      exact List.map_id _
    · obtain ⟨a, given, isClass⟩ := BlueprintMethods.generate_eq some
      exact ⟨a, congrArg Answer.outcome given, isClass⟩
    · have names : (m.blueprints.map BlueprintMethods.methodOf).map (·.name) =
          m.blueprints.map BlueprintMethods.methodName := by
        rw [List.map_map]
        rfl
      rw [names, BlueprintMethods.nodup_methods_iff blueprintsApart]

/-- Pools, fields and blueprints that differ by more than case and spaces. -/
theorem scopes_of_accepted_position :
    let pools := Document.list [.text "Pool", .text "Enemy", .text "enemies"]
    let fields := Document.mapping [(.text "x", .text "int"), (.text "y", .text "int")]
    let d := Document.mapping [(.text "_pools", pools), (.text "_components",
        .mapping [(.text "Position", .mapping [(.text "fields", fields)])]),
      (.text "_blueprints", .list [.text "big Boss", .text "Boss"])]
    ∃ m, Model.ofDocument d = .ok m ∧ m.pools.Nodup ∧ m.blueprints.Nodup ∧ Scopes m ∧
      ∃ a accessors, (BuiltIn.pools.answer m).outcome = .ok [a] ∧ IsAccessorClass a accessors ∧
        (accessors.map (·.name)).Nodup := by
  intro pools fields d
  let m : Model := ⟨["Pool", "Enemy", "enemies"],
    [⟨"Position", [⟨"x", "int"⟩, ⟨"y", "int"⟩], ["Pool"], false⟩], ["big Boss", "Boss"]⟩
  have text (s : String) : (Document.text s).Keyed := .scalar _
  have listed : pools.Keyed := .list (by simp [text])
  have fieldsKeyed : fields.Keyed := Document.keyed_mapping (by simp [text])
  have position : (Document.mapping [(.text "fields", fields)]).Keyed :=
    Document.keyed_mapping (by simp [fieldsKeyed])
  have components : (Document.mapping [(.text "Position",
      .mapping [(.text "fields", fields)])]).Keyed :=
    Document.keyed_mapping (by simp [position])
  have blueprints : (Document.list [.text "big Boss", .text "Boss"]).Keyed :=
    .list (by simp [text])
  have keyed : d.Keyed := Document.keyed_mapping (by simp [listed, components, blueprints])
  have accepted : Model.ofDocument d = .ok m := by rfl
  have unmixed : ∀ entry ∈ d.entriesUnder Schema.componentsKey,
      (entry.2.entriesUnder "fields").Unmixed := by
    refine List.forall_mem_singleton.mpr (Entries.unmixed_of_texts ?_)
    exact List.forall_mem_cons.mpr ⟨⟨"x", rfl⟩, List.forall_mem_singleton.mpr ⟨"y", rfl⟩⟩
  have scopes := scopes_of_accepted keyed accepted unmixed (by decide) (by decide)
  obtain ⟨a, accessors, given, isClass, _, distinct⟩ := scopes.accessors
  exact ⟨m, accepted, by decide, by decide, scopes, a, accessors, given, isClass,
    distinct.mpr (by decide)⟩

/-- Pools and fields that differ by the case of the first letter, and blueprints that differ by a
space besides, are accepted, and their identifiers are the same. -/
theorem scopes_declared_twice :
    let pools := Document.list [.text "Pool", .text "Enemy", .text "enemy"]
    let fields := Document.mapping [(.text "x", .text "int"), (.text "X", .text "int")]
    let d := Document.mapping [(.text "_pools", pools), (.text "_components",
        .mapping [(.text "Position", .mapping [(.text "fields", fields)])]),
      (.text "_blueprints", .list [.text "big Boss", .text "BigBoss"])]
    ∃ m, Model.ofDocument d = .ok m ∧ m.pools.Nodup ∧ m.blueprints.Nodup ∧
      (∃ a accessors, (BuiltIn.pools.answer m).outcome = .ok [a] ∧ IsAccessorClass a accessors ∧
        ¬(accessors.map (·.name)).Nodup) ∧
      (∃ a parameters, (componentExtensions.answer m).outcome = .ok [a] ∧
        (∀ verb ∈ ["Add", "Replace"], a.HasLine (signature (verb ++ "Position") parameters)) ∧
        ¬(parameters.map (·.name)).Nodup) ∧
      (∃ a methods, (blueprints.answer m).outcome = .ok [a] ∧ IsMethodClass a methods ∧
        ¬(methods.map (·.name)).Nodup) := by
  intro pools fields d
  let c : Component := ⟨"Position", [⟨"x", "int"⟩, ⟨"X", "int"⟩], ["Pool"], false⟩
  let m : Model := ⟨["Pool", "Enemy", "enemy"], [c], ["big Boss", "BigBoss"]⟩
  have blueprints : m.blueprints ≠ [] := List.cons_ne_nil _ _
  obtain ⟨a, given, isClass⟩ := BlueprintMethods.generate_eq blueprints
  have heads := Extensions.hasLine_signature (c := c) (List.cons_ne_nil _ _)
  have short : c.shortName = "Position" := by decide
  rw [short] at heads
  refine ⟨m, by rfl, by decide, by decide, ?_, ?_, ?_⟩
  · exact ⟨_, _, rfl, PoolAccessors.isAccessorClass_artifact m.pools, by decide⟩
  · exact ⟨_, _, rfl, heads, by decide⟩
  · exact ⟨a, _, congrArg Answer.outcome given, isClass, by decide⟩

end BuiltIn

end EntityScribe
