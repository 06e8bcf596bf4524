import EntityScribe.Proofs.ClassTexts
import EntityScribe.Proofs.LookupClasses
import EntityScribe.Proofs.Models
import EntityScribe.Proofs.Replies
import Mathlib.Data.List.Induction
import Mathlib.Data.List.Nodup

/-!
# Names of artifacts

What all generators make of a model is named for its pools and components. Two artifacts have the
same name only if a pool is listed twice, if a component is named both by a text and in bytes, or if
the class of blueprint methods meets the extension of a component.
-/

namespace EntityScribe

/-! ## First occurrences -/

section FirstOccurrences

variable {α β : Type} [DecidableEq α] [DecidableEq β] {l : List α}

theorem nodup_eraseDups (l : List α) : l.eraseDups.Nodup := by
  induction l using List.reverseRecOn with
  | nil => exact List.nodup_nil
  | append_singleton l a ih =>
      rw [eraseDups_concat]
      split
      · exact ih
      · next new =>
          rw [List.nodup_append]
          refine ⟨ih, List.nodup_singleton a, fun b inside c here same => new ?_⟩
          rw [← List.mem_singleton.mp here, ← same]
          exact List.mem_eraseDups.mp inside

theorem eraseDups_map {f : α → β} (injective : ∀ a ∈ l, ∀ b ∈ l, f a = f b → a = b) :
    (l.map f).eraseDups = l.eraseDups.map f := by
  induction l using List.reverseRecOn with
  | nil => rfl
  | append_singleton l a ih =>
      have before := ih fun b inside c among =>
        injective b (List.mem_append_left _ inside) c (List.mem_append_left _ among)
      have again : f a ∈ l.map f ↔ a ∈ l := by
        refine ⟨fun image => ?_, List.mem_map_of_mem⟩
        obtain ⟨b, inside, same⟩ := List.mem_map.mp image
        exact injective b (List.mem_append_left _ inside) a List.mem_concat_self same ▸ inside
      rw [List.map_append, List.map_singleton, eraseDups_concat, eraseDups_concat, before]
      simp only [again]
      split
      · rfl
      · rw [List.map_append, List.map_singleton]

end FirstOccurrences

/-! ## Endings -/

/-- A name that ends in a text. -/
def EndsWith (ending name : String) : Prop :=
  ∃ front, name = front ++ ending

/-- Names are different if neither of their endings ends the other. -/
theorem EndsWith.ne {first second a b : String} (left : EndsWith first a)
    (right : EndsWith second b)
    (apart : ¬first.toList <:+ second.toList ∧ ¬second.toList <:+ first.toList) : a ≠ b := by
  rintro rfl
  obtain ⟨s, isS⟩ := left
  obtain ⟨t, isT⟩ := right
  have firstEnds : first.toList <:+ a.toList := by
    rw [isS, String.toList_append]
    exact List.suffix_append _ _
  have secondEnds : second.toList <:+ a.toList := by
    rw [isT, String.toList_append]
    exact List.suffix_append _ _
  exact (List.suffix_or_suffix_of_suffix firstEnds secondEnds).elim apart.1 apart.2

namespace Naming

/-- Pools with names have lookup classes of their own. -/
theorem lookupTag_injective {first second : String} (firstFilled : first ≠ "")
    (secondFilled : second ≠ "") (same : lookupTag first = lookupTag second) : first = second := by
  have same : qualifier first = qualifier second := (String.append_left_inj _).mp same
  unfold qualifier at same
  split at same <;> split at same
  · next isDefault other => rw [isDefault, other]
  · exact absurd same.symm secondFilled
  · exact absurd same firstFilled
  · exact same

end Naming

namespace BuiltIn

/-! ## Names in their order -/

theorem PoolAttributes.map_name_of_ok {pools : List String} {artifacts : List Artifact}
    (succeeded : (generate pools).outcome = .ok artifacts) :
    artifacts.map (·.name) = (pools.filter (· ≠ Naming.defaultPool)).map artifactName := by
  induction pools generalizing artifacts with
  | nil =>
      cases succeeded
      rfl
  | cons pool rest ih =>
      by_cases isDefault : pool = Naming.defaultPool
      · subst isDefault
        rw [generate_default] at succeeded
        rw [List.filter_cons_of_neg (by simp)]
        exact ih succeeded
      · rw [generate_of_ne isDefault] at succeeded
        rw [List.filter_cons_of_pos (by simpa using isDefault)]
        cases rendered : (render pool).outcome with
        | error failure =>
            rw [rendered] at succeeded
            cases succeeded
        | ok lines =>
            rw [rendered] at succeeded
            cases others : (generate rest).outcome with
            | error failure =>
                simp only [others] at succeeded
                cases succeeded
            | ok more =>
                simp only [others] at succeeded
                cases succeeded
                exact congrArg (artifactName pool :: ·) (ih others)

theorem BlueprintMethods.map_name_of_ok {blueprints : List String} {artifacts : List Artifact}
    (succeeded : (generate blueprints).outcome = .ok artifacts) :
    artifacts.map (·.name) = if blueprints = [] then [] else [artifactName] := by
  by_cases none : blueprints = []
  · rw [generate, if_pos none] at succeeded
    cases succeeded
    rw [if_pos none]
    rfl
  · obtain ⟨a, given, isClass⟩ := generate_eq none
    rw [given] at succeeded
    cases succeeded
    rw [if_neg none, List.map_singleton, isClass.name]
    rfl

/-- The names of what a generator makes of a model. -/
def artifactNames (m : Model) : BuiltIn → List String
  | poolAttributes => (m.pools.filter (· ≠ Naming.defaultPool)).map PoolAttributes.artifactName
  | pools => [PoolAccessors.artifactName]
  | componentIndices => m.pools.eraseDups.map Naming.lookupTag
  | componentExtensions => m.components.map Extensions.artifactName
  | blueprints => if m.blueprints = [] then [] else [BlueprintMethods.artifactName]

variable {d : Document} {m : Model} {memory : PoolMemory} {w : Workspace} {directory : Document}
  {artifacts : List Artifact}

theorem map_name_batch {b : BuiltIn} (known : ∀ c ∈ m.components, c.pools ⊆ m.pools)
    (filled : ∀ pool ∈ m.pools, pool ≠ "") (performed : (b.answer m).outcome.isOk = true) :
    (b.answer m).batch.map (·.name) = artifactNames m b := by
  have given : (b.answer m).outcome = .ok (b.answer m).batch := by
    unfold Answer.batch
    cases outcome : (b.answer m).outcome with
    | error failure =>
        rw [outcome] at performed
        cases performed
    | ok artifacts => rfl
  cases b with
  | poolAttributes => exact PoolAttributes.map_name_of_ok given
  | pools => rfl
  | componentIndices =>
      have tags := LookupClasses.tags_of_known known
      rw [eraseDups_map fun first member second inside => Naming.lookupTag_injective
        (filled first member) (filled second inside)] at tags
      have named : (LookupClasses.artifacts m.pools m.components).map (·.name) =
          (LookupClasses.classes m.pools m.components).map (·.tag) := List.map_map
      exact named.trans tags
  | componentExtensions => exact List.map_map
  | blueprints => exact BlueprintMethods.map_name_of_ok given

/-- With all generators in their order, each is called once in its phase, and the one for lookup
classes once before. -/
theorem replies_all (m : Model) (memory : PoolMemory) :
    (Generation.replies memory (Generation.tasks m (plugins all))).map (·.answer) =
      [poolAttributes.answer m, pools.answer m, ⟨.ok [], []⟩, componentIndices.answer m,
        componentExtensions.answer m, blueprints.answer m] :=
  rfl

theorem map_name_of_generate (known : ∀ c ∈ m.components, c.pools ⊆ m.pools)
    (filled : ∀ pool ∈ m.pools, pool ≠ "")
    (succeeded : (Generation.generate w m directory (plugins all) memory).outcome =
      .ok artifacts) : artifacts.map (·.name) = all.flatMap (artifactNames m) := by
  obtain ⟨rfl, performed⟩ := Generation.performed_of_generate succeeded
  have answered : ∀ b : BuiltIn, (b.answer m).outcome.isOk = true := by
    intro b
    have member : b.answer m ∈
        (Generation.replies memory (Generation.tasks m (plugins all))).map (·.answer) := by
      rw [replies_all]
      cases b <;> simp
    obtain ⟨r, inside, same⟩ := List.mem_map.mp member
    exact same ▸ performed r inside
  have given : Generation.given (Generation.replies memory (Generation.tasks m (plugins all))) =
      all.flatMap fun b => (b.answer m).batch := rfl
  rw [given, List.map_flatMap]
  refine congrArg all.flatMap (funext fun b => ?_)
  exact map_name_batch known filled (answered b)

/-! ## Collisions -/

theorem nodup_attributes_iff {pools : List String} :
    ((pools.filter (· ≠ Naming.defaultPool)).map PoolAttributes.artifactName).Nodup ↔
      ∀ pool ∈ pools, pool ≠ Naming.defaultPool → pools.count pool = 1 := by
  have injective : Function.Injective PoolAttributes.artifactName :=
    fun first second same => (String.append_left_inj _).mp same
  rw [List.nodup_map_iff injective, List.nodup_iff_count]
  constructor
  · intro once pool member other
    have atMost := once pool
    rw [List.count_filter (by simpa using other)] at atMost
    exact Nat.le_antisymm atMost (List.count_pos_iff.mpr member)
  · intro once pool
    by_cases member : pool ∈ pools.filter (· ≠ Naming.defaultPool)
    · obtain ⟨inside, other⟩ := List.mem_filter.mp member
      rw [List.count_filter (by simpa using other)]
      exact Nat.le_of_eq (once pool inside (by simpa using other))
    · rw [List.count_eq_zero.mpr member]
      exact Nat.zero_le 1

theorem nodup_lookups {pools : List String} (filled : ∀ pool ∈ pools, pool ≠ "") :
    (pools.eraseDups.map Naming.lookupTag).Nodup :=
  (nodup_eraseDups pools).map_on fun first member second inside =>
    Naming.lookupTag_injective (filled first (List.mem_eraseDups.mp member))
      (filled second (List.mem_eraseDups.mp inside))

theorem nodup_extensions_iff {components : List Component} {blueprints : List String} :
    (components.map Extensions.artifactName ++
        if blueprints = [] then [] else [BlueprintMethods.artifactName]).Nodup ↔
      (components.map (·.name)).Nodup ∧
        ¬("Blueprints" ∈ components.map (·.name) ∧ blueprints ≠ []) := by
  have apart : (components.map Extensions.artifactName).Nodup ↔
      (components.map (·.name)).Nodup := by
    have named : components.map Extensions.artifactName =
        (components.map (·.name)).map (· ++ "GeneratedExtension") := by
      rw [List.map_map]
      rfl
    rw [named, List.nodup_map_iff fun first second same => (String.append_left_inj _).mp same]
  have meets : BlueprintMethods.artifactName ∈ components.map Extensions.artifactName ↔
      "Blueprints" ∈ components.map (·.name) := by
    have split : BlueprintMethods.artifactName = "Blueprints" ++ "GeneratedExtension" := by decide
    rw [List.mem_map, List.mem_map, split]
    simp only [Extensions.artifactName, String.append_left_inj]
  split
  · next none =>
      rw [List.append_nil, apart]
      exact (and_iff_left fun both => both.2 none).symm
  · next some =>
      rw [List.nodup_append, and_iff_left some, ← meets, apart]
      refine and_congr_right fun _ => ⟨?_, fun missing => ⟨List.nodup_singleton _, ?_⟩⟩
      · rintro ⟨_, different⟩ member
        exact different _ member _ List.mem_cons_self rfl
      · rintro name member other same rfl
        exact missing (List.mem_singleton.mp same ▸ member)

/-- Names of different kinds have different endings, so names are only the same within a kind. -/
theorem nodup_artifactNames_iff (filled : ∀ pool ∈ m.pools, pool ≠ "") :
    (all.flatMap (artifactNames m)).Nodup ↔
      (∀ pool ∈ m.pools, pool ≠ Naming.defaultPool → m.pools.count pool = 1) ∧
        (m.components.map (·.name)).Nodup ∧
        ¬("Blueprints" ∈ m.components.map (·.name) ∧ m.blueprints ≠ []) := by
  have attributes : ∀ name ∈ artifactNames m poolAttributes, EndsWith "Attribute" name := by
    intro name member
    obtain ⟨pool, _, rfl⟩ := List.mem_map.mp member
    exact ⟨pool, rfl⟩
  have accessors : EndsWith "Pools" PoolAccessors.artifactName := ⟨"", by decide⟩
  have lookup : ∀ name ∈ artifactNames m componentIndices, EndsWith "ComponentIds" name := by
    intro name member
    obtain ⟨pool, _, rfl⟩ := List.mem_map.mp member
    exact ⟨Naming.qualifier pool, rfl⟩
  have extension : ∀ name ∈ artifactNames m componentExtensions ++ artifactNames m blueprints,
      EndsWith "GeneratedExtension" name := by
    intro name member
    rcases List.mem_append.mp member with own | methods
    · obtain ⟨c, _, rfl⟩ := List.mem_map.mp own
      exact ⟨c.name, rfl⟩
    · rw [artifactNames] at methods
      split at methods
      · cases methods
      · rw [List.mem_singleton.mp methods]
        exact ⟨"Blueprints", by decide⟩
  have parts : all.flatMap (artifactNames m) = artifactNames m poolAttributes ++
      PoolAccessors.artifactName :: (artifactNames m componentIndices ++
        (artifactNames m componentExtensions ++ artifactNames m blueprints)) := by
    simp only [all, List.flatMap_cons, List.flatMap_nil, List.append_nil]
    rfl
  rw [parts]
  constructor
  · intro distinct
    obtain ⟨first, others, _⟩ := List.nodup_append.mp distinct
    obtain ⟨_, extensions, _⟩ := List.nodup_append.mp (List.nodup_cons.mp others).2
    exact ⟨nodup_attributes_iff.mp first, nodup_extensions_iff.mp extensions⟩
  · rintro ⟨once, meets⟩
    refine List.nodup_append.mpr ⟨nodup_attributes_iff.mpr once, List.nodup_cons.mpr ⟨?_,
      List.nodup_append.mpr ⟨nodup_lookups filled, nodup_extensions_iff.mpr meets, ?_⟩⟩, ?_⟩
    · intro member
      rcases List.mem_append.mp member with among | among
      · exact accessors.ne (lookup _ among) (by decide) rfl
      · exact accessors.ne (extension _ among) (by decide) rfl
    · exact fun name member other among =>
        (lookup name member).ne (extension other among) (by decide)
    · intro name member other among
      rcases List.mem_cons.mp among with rfl | later
      · exact (attributes name member).ne accessors (by decide)
      · rcases List.mem_append.mp later with among | among
        · exact (attributes name member).ne (lookup other among) (by decide)
        · exact (attributes name member).ne (extension other among) (by decide)

/-- A run of all generators gives artifacts for the pools, the components and the blueprints, in
this order. No two of them have the same name exactly if no pool but the default one is listed
twice, no component is named both by a text and in bytes, and none is named for the blueprints that
there are. -/
theorem generate_names (keyed : d.Keyed) (accepted : Model.ofDocument d = .ok m)
    (succeeded : (Generation.generate w m directory (plugins all) memory).outcome =
      .ok artifacts) :
    artifacts.map (·.name) =
      (m.pools.filter (· ≠ "Pool")).map (· ++ "Attribute") ++ ["Pools"] ++
        m.pools.eraseDups.map (Naming.qualifier · ++ "ComponentIds") ++
        m.components.map (·.name ++ "GeneratedExtension") ++
        (if m.blueprints = [] then [] else ["BlueprintsGeneratedExtension"]) ∧
    ((artifacts.map (·.name)).Nodup ↔
      (∀ pool ∈ m.pools, pool ≠ "Pool" → m.pools.count pool = 1) ∧
        (d.entriesUnder Schema.componentsKey).Unmixed ∧
        ¬("Blueprints" ∈ m.components.map (·.name) ∧ m.blueprints ≠ [])) := by
  obtain ⟨⟨fits, _⟩, rfl⟩ := Model.ofDocument_eq_ok_iff.mp accepted
  have faithful := Model.faithful_modelIn keyed fits
  have filled := faithful.pools.ne_empty (by decide)
  have known := fun c member => (Model.ofDocument_known accepted c member).2
  rw [map_name_of_generate known filled succeeded, ← faithful.names]
  refine ⟨?_, nodup_artifactNames_iff filled⟩
  simp only [all, List.flatMap_cons, List.flatMap_nil, List.append_nil, List.append_assoc]
  rfl

/-- A component named for blueprints, of which there are none. -/
theorem generate_names_blueprints :
    let w : Workspace :=
      ⟨FileTree.empty.put ["Generated"] .directory, [], [], "\n", Workspace.usualRoom⟩
    let d := Document.mapping [(.text "_components", .mapping [(.text "Blueprints", .null)])]
    ∃ m artifacts, Model.ofDocument d = .ok m ∧
      (Generation.generate w m (.text "Generated") (plugins all) .none).outcome = .ok artifacts ∧
      artifacts.map (·.name) = ["Pools", "ComponentIds", "BlueprintsGeneratedExtension"] ∧
      (artifacts.map (·.name)).Nodup := by
  intro w d
  let m : Model := ⟨["Pool"], [{ name := "Blueprints" }], []⟩
  have null : Document.null.Keyed := .scalar .null
  have components : (Document.mapping [(.text "Blueprints", .null)]).Keyed :=
    Document.keyed_mapping (by simp [null])
  have keyed : d.Keyed := Document.keyed_mapping (by simp [components])
  have accepted : Model.ofDocument d = .ok m := by rfl
  have cleaned : (Target.clean w (.text "Generated")).outcome = .ok [] := by rfl
  have performed : ∀ r ∈ Generation.replies .none (Generation.tasks m (plugins all)),
      r.answer.outcome.isOk = true := by decide
  have fit : ∀ a ∈ Generation.given
        (Generation.replies .none (Generation.tasks m (plugins all))),
      Target.fits (Target.clean w (.text "Generated")).workspace "Generated/" a = true := by
    decide
  have succeeded := Generation.generate_of_fits rfl cleaned performed fit
  have unmixed : (d.entriesUnder Schema.componentsKey).Unmixed :=
    Entries.unmixed_of_texts (List.forall_mem_singleton.mpr ⟨"Blueprints", rfl⟩)
  obtain ⟨names, distinct⟩ := generate_names keyed accepted succeeded
  exact ⟨m, _, accepted, succeeded, names.trans (by decide),
    distinct.mpr ⟨by decide, unmixed, by decide⟩⟩

/-- The extensions of a component that is named both by a text and in bytes have one name. -/
theorem same_name_of_mixed :
    let w : Workspace :=
      ⟨FileTree.empty.put ["Generated"] .directory, [], [], "\n", Workspace.usualRoom⟩
    let d := Document.mapping
      [(.text "_components", .mapping [(.text "A", .mapping []), (.bytes [0x41], .mapping [])])]
    ∃ m artifacts, Model.ofDocument d = .ok m ∧ m.pools = ["Pool"] ∧ m.blueprints = [] ∧
      (Generation.generate w m (.text "Generated") (plugins all) .none).outcome = .ok artifacts ∧
      artifacts.map (·.name) =
        ["Pools", "ComponentIds", "AGeneratedExtension", "AGeneratedExtension"] ∧
      ¬(artifacts.map (·.name)).Nodup := by
  intro w d
  let m : Model := ⟨["Pool"], [{ name := "A" }, { name := "A" }], []⟩
  have cleaned : (Target.clean w (.text "Generated")).outcome = .ok [] := by rfl
  have performed : ∀ r ∈ Generation.replies .none (Generation.tasks m (plugins all)),
      r.answer.outcome.isOk = true := by decide
  have fit : ∀ a ∈ Generation.given
        (Generation.replies .none (Generation.tasks m (plugins all))),
      Target.fits (Target.clean w (.text "Generated")).workspace "Generated/" a = true := by
    decide
  have succeeded := Generation.generate_of_fits rfl cleaned performed fit
  exact ⟨m, _, by rfl, rfl, rfl, succeeded, by decide, by decide⟩

end BuiltIn

end EntityScribe
