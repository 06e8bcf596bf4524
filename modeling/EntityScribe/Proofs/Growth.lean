import EntityScribe.Proofs.Numbering

/-!
# Lookup classes of a model that grows

Components that are added behind the others take nothing away from the lookup classes. Every class
keeps its place and its numbers, and lists what is new behind what it has listed before; new classes
come last.
-/

namespace EntityScribe.BuiltIn

theorem Member.numbered_append (names more : List String) :
    numbered names <+: numbered (names ++ more) := by
  unfold numbered
  rw [List.zipIdx_append, List.map_append]
  exact List.prefix_append _ _

namespace LookupClasses

theorem enrolled_append (tag : String) (components added : List Component) :
    enrolled tag (components ++ added) = enrolled tag components ++ enrolled tag added :=
  List.flatMap_append

/-- The classes by their tags: each lists what the components list under it. -/
theorem classes_eq_map (pools : List String) (components : List Component) :
    classes pools components =
      (pools.map Naming.lookupTag ++ components.flatMap Component.lookupTags).eraseDups.map
        fun tag => ⟨tag, enrolled tag components⟩ := by
  rw [← tags_classes, List.map_map]
  refine (List.map_id _).symm.trans (List.map_congr_left fun k member => ?_)
  exact congrArg (LookupClass.mk k.tag) (components_of_mem_classes member)

/-- Added components enlarge the classes where they stand, and other classes follow. -/
theorem classes_append (pools : List String) (components added : List Component) :
    ∃ fresh, classes pools (components ++ added) =
      (classes pools components).map
        (fun k => ⟨k.tag, k.components ++ enrolled k.tag added⟩) ++ fresh := by
  rw [classes_eq_map, classes_eq_map pools components, List.flatMap_append, ← List.append_assoc,
    List.eraseDups_append, List.map_append, List.map_map]
  simp only [enrolled_append]
  exact ⟨_, rfl⟩

end LookupClasses

/-- With components added behind the others, the generator gives the classes of before in their
order, and others after them. In each of them the constants and the array begin with those of
before, so no component changes its number. -/
theorem emits_prolonged (slot : Nat) (memory : PoolMemory) (pools : List String)
    (components added : List Component) :
    ∃ before after, Emits slot memory pools components before ∧
      Emits slot memory pools (components ++ added) after ∧
      before.map (·.name) <+: after.map (·.name) ∧ (after.map (·.name)).Nodup ∧
      ∀ a ∈ before, ∃ b ∈ after, ∃ names grown,
        IsClassOf a a.name (Member.groups names) ∧ IsClassOf b a.name (Member.groups grown) ∧
        names <+: grown ∧ Member.numbered names <+: Member.numbered grown ∧
        ∀ name value, .constant name value ∈ Member.numbered names →
          .constant name value ∈ Member.numbered grown := by
  obtain ⟨fresh, enlarged⟩ := LookupClasses.classes_append pools components added
  have distinct : ((LookupClasses.artifacts pools (components ++ added)).map (·.name)).Nodup := by
    have tags := LookupClasses.tags_classes pools (components ++ added)
    rw [LookupClasses.artifacts, List.map_map]
    exact tags ▸ nodup_eraseDups _
  refine ⟨_, _, emits_artifacts slot memory pools components,
    emits_artifacts slot memory pools (components ++ added), ?_, distinct, ?_⟩
  · rw [LookupClasses.artifacts, LookupClasses.artifacts, enlarged, List.map_append,
      List.map_append, List.map_map, List.map_map, List.map_map]
    exact List.prefix_append _ _
  · intro a member
    obtain ⟨k, inside, rfl⟩ := List.mem_map.mp member
    let grown : LookupClass :=
      ⟨k.tag, k.components ++ LookupClasses.enrolled k.tag added⟩
    have among : grown ∈ LookupClasses.classes pools (components ++ added) := by
      rw [enlarged]
      exact List.mem_append_left _ (List.mem_map.mpr ⟨k, inside, rfl⟩)
    have kept := Member.numbered_append k.components (LookupClasses.enrolled k.tag added)
    exact ⟨LookupClasses.artifact grown, List.mem_map_of_mem among, k.components, grown.components,
      k.isClassOf_artifact, grown.isClassOf_artifact, List.prefix_append _ _, kept,
      fun _ _ constant => kept.subset constant⟩

end EntityScribe.BuiltIn
