import EntityScribe.Proofs.LookupClasses
import EntityScribe.Proofs.Replies
import EntityScribe.Proofs.Grammar

/-!
# References between generated files

The accessors of pools and the extensions of components refer to constants of lookup classes. In
whatever order the generators run, the classes are among their artifacts and declare the constants.
-/

namespace EntityScribe

/-- A line has a text in it. -/
def Code.Mentions (lines : List String) (text : String) : Prop :=
  ∃ before after, before ++ text ++ after ∈ lines

namespace Artifact

/-- The text of the artifact has a line. -/
def HasLine (a : Artifact) (line : String) : Prop :=
  ∃ lines, a.content = Text.unlines lines ∧ line ∈ lines

/-- A line of the artifact's text has a text in it. -/
def Mentions (a : Artifact) (text : String) : Prop :=
  ∃ lines, a.content = Text.unlines lines ∧ Code.Mentions lines text

end Artifact

namespace Code

theorem mem_block (head : String) {line : String} {body : List String} (member : line ∈ body) :
    indented line ∈ block head body :=
  List.mem_cons_of_mem _ (List.mem_append_left _ (List.mem_map.mpr ⟨line, member, rfl⟩))

theorem indented_append {first : String} (filled : first ≠ "") (rest : String) :
    indented (first ++ rest) = "    " ++ first ++ rest := by
  rw [indented, if_neg fun none => filled (String.append_eq_empty_iff.mp none).1,
    String.append_assoc]

theorem Mentions.of_subset {first second : List String} {text : String}
    (mentions : Mentions first text) (subset : first ⊆ second) : Mentions second text := by
  obtain ⟨before, after, member⟩ := mentions
  exact ⟨before, after, subset member⟩

/-- A block mentions what its body mentions. -/
theorem Mentions.block {body : List String} {text : String} (mentions : Mentions body text)
    (head : String) : Mentions (Code.block head body) text := by
  obtain ⟨before, after, member⟩ := mentions
  have inside := mem_block head member
  by_cases empty : before ++ text ++ after = ""
  · rw [indented, if_pos empty, ← empty] at inside
    exact ⟨before, after, inside⟩
  · rw [indented, if_neg empty, ← String.append_assoc, ← String.append_assoc] at inside
    exact ⟨"    " ++ before, after, inside⟩

end Code

namespace BuiltIn

/-- The artifact of a lookup class: it declares the number and the names of its components. -/
structure IsLookup (a : Artifact) (tag : String) : Prop where
  name : a.name = tag
  generator : a.generator = LookupClasses.className
  total : ∃ n : Nat, a.HasLine ("    public const int TotalComponents = " ++ toString n ++ ";")
  names : a.HasLine "    public static readonly string[] componentNames = \x7b"

/-- The artifact declares a constant for a component. -/
def Declares (a : Artifact) (component : String) : Prop :=
  ∃ i : Nat, a.HasLine ("    public const int " ++ component ++ " = " ++ toString i ++ ";")

namespace LookupClass

theorem hasLine_artifact {k : LookupClass} {line : String}
    (member : line ∈ k.components.zipIdx.map (fun (component, index) => constant component index) ++
      ["", total k.components.length, ""] ++ nameArray k.components) :
    (LookupClasses.artifact k).HasLine (Code.indented line) :=
  ⟨k.lines, rfl, Code.mem_block _ member⟩

theorem indented_total (n : Nat) :
    Code.indented (total n) = "    public const int TotalComponents = " ++ toString n ++ ";" := by
  have text : total n = "public const int TotalComponents = " ++ (toString n ++ ";") :=
    String.append_assoc ..
  have front : "    " ++ "public const int TotalComponents = " =
      "    public const int TotalComponents = " := by decide
  rw [text, Code.indented_append (by decide), front, String.append_assoc]

theorem indented_constant (component : String) (i : Nat) :
    Code.indented (constant component i) =
      "    public const int " ++ component ++ " = " ++ toString i ++ ";" := by
  have text : constant component i =
      "public const int " ++ (component ++ " = " ++ toString i ++ ";") := by
    simp only [← String.append_assoc]
    rfl
  have front : "    " ++ "public const int " = "    public const int " := by decide
  rw [text, Code.indented_append (by decide), front]
  simp only [String.append_assoc]

theorem isLookup (k : LookupClass) : IsLookup (LookupClasses.artifact k) k.tag where
  name := rfl
  generator := rfl
  total := by
    refine ⟨k.components.length, ?_⟩
    rw [← indented_total]
    exact hasLine_artifact (by simp)
  names := by
    have there : "public static readonly string[] componentNames = \x7b" ∈ nameArray k.components :=
      List.mem_cons_self
    exact hasLine_artifact (List.mem_append_right _ there)

theorem declares {k : LookupClass} {component : String} (member : component ∈ k.components) :
    Declares (LookupClasses.artifact k) component := by
  obtain ⟨i, there⟩ := List.mem_iff_getElem?.mp member
  refine ⟨i, ?_⟩
  rw [← indented_constant]
  refine hasLine_artifact (List.mem_append_left _ (List.mem_append_left _ ?_))
  exact List.mem_map.mpr ⟨(component, i), List.mk_mem_zipIdx_iff_getElem?.mpr there, rfl⟩

end LookupClass

namespace PoolAccessors

/-- The accessors make every pool with the constants of its lookup class. -/
theorem mentions_construction {pool : String} {pools : List String} (member : pool ∈ pools) :
    (artifact pools).Mentions (construction pool) := by
  refine ⟨lines pools, rfl, ?_⟩
  refine (Code.Mentions.block ?_ "public static class Pools").of_subset
    (List.subset_append_right ["using Entitas;", ""] _)
  have inside : members pool ⊆ pools.flatMap members :=
    fun line among => List.mem_flatMap.mpr ⟨pool, member, among⟩
  refine Code.Mentions.of_subset ?_ inside
  refine (Code.Mentions.block ?_ ("public static Pool " ++ accessor pool)).of_subset
    (List.subset_append_right _ _)
  refine Code.Mentions.block ?_ "get"
  refine (Code.Mentions.block ?_ _).of_subset (List.subset_append_left _ _)
  exact ⟨"_" ++ accessor pool ++ " = ", ";", List.mem_cons_self⟩

end PoolAccessors

variable {d : Document} {m : Model} {instances : List (BuiltIn × Nat)} {memory : PoolMemory}
  {w : Workspace} {directory : Document} {artifacts : List Artifact}

/-- In what a run without a failure gives, every generator's artifacts are. -/
theorem batch_subset_of_generate {b : BuiltIn} {slot : Nat} (listed : (b, slot) ∈ instances)
    (succeeded : (Generation.generate w m directory (pluginsOf instances) memory).outcome =
      .ok artifacts) : (b.answer m).batch ⊆ artifacts := by
  intro a gives
  rw [Generation.given_of_generate succeeded]
  exact mem_given_iff.mpr ⟨b, slot, listed, gives⟩

theorem lookup_of_knows {pools : List String} {components : List Component} {tag : String}
    {names : List String}
    (known : LookupClasses.Knows (LookupClasses.classes pools components) tag names) :
    ∃ l ∈ LookupClasses.artifacts pools components, IsLookup l tag ∧
      ∀ name ∈ names, Declares l name := by
  obtain ⟨k, member, rfl, inside⟩ := known
  exact ⟨LookupClasses.artifact k, List.mem_map.mpr ⟨k, member, rfl⟩, k.isLookup,
    fun name among => LookupClass.declares (inside among)⟩

/-- A component's first lookup class is one of them. -/
theorem lookupTag_mem {c : Component} (some : c.pools ≠ []) : c.lookupTag ∈ c.lookupTags := by
  obtain ⟨first, more, pools⟩ := List.exists_cons_of_ne_nil some
  rw [Component.lookupTag, Component.lookupTags, pools]
  exact List.mem_cons_self

theorem generate_references {i j k : Nat} (accepted : Model.ofDocument d = .ok m)
    (accessors : (.pools, i) ∈ instances) (lookups : (.componentIndices, j) ∈ instances)
    (extensions : (.componentExtensions, k) ∈ instances)
    (succeeded : (Generation.generate w m directory (pluginsOf instances) memory).outcome =
      .ok artifacts) :
    (∃ a ∈ artifacts, a.name = "Pools" ∧ a.generator = PoolAccessors.className ∧
      ∀ pool ∈ m.pools, ∃ tag, tag = Naming.qualifier pool ++ "ComponentIds" ∧
        a.Mentions ("new Pool(" ++ tag ++ ".TotalComponents, 0, new PoolMetaData(\"" ++ pool ++
          "\", " ++ tag ++ ".componentNames))") ∧
        ∃ l ∈ artifacts, IsLookup l tag) ∧
    (∀ c ∈ m.components, ∃ pool ∈ c.pools, ∃ tag, tag = Naming.qualifier pool ++ "ComponentIds" ∧
      ∃ a ∈ artifacts, a.name = c.name ++ "GeneratedExtension" ∧
      a.generator = Extensions.className ∧
      (∀ pools, a.content = Text.unlines
        (Extensions.lines (tag ++ "." ++ c.shortName) { c with pools := pools })) ∧
      ∃ l ∈ artifacts, IsLookup l tag ∧ Declares l c.shortName) := by
  have lookupsGiven := batch_subset_of_generate lookups succeeded
  constructor
  · refine ⟨PoolAccessors.artifact m.pools,
      batch_subset_of_generate accessors succeeded List.mem_cons_self, rfl, rfl, ?_⟩
    intro pool member
    obtain ⟨l, given, isLookup, _⟩ := lookup_of_knows
      (LookupClasses.knows_pool m.components member)
    exact ⟨_, rfl, PoolAccessors.mentions_construction member, l, lookupsGiven given, isLookup⟩
  · intro c member
    have extended : Extensions.artifact c ∈ artifacts :=
      batch_subset_of_generate extensions succeeded (List.mem_map.mpr ⟨c, member, rfl⟩)
    have tagged := lookupTag_mem (Model.ofDocument_known accepted c member).1
    obtain ⟨l, given, isLookup, declares⟩ := lookup_of_knows
      (LookupClasses.knows_component m.pools member tagged)
    obtain ⟨pool, inside, tag⟩ := List.mem_map.mp tagged
    exact ⟨pool, inside, c.lookupTag, tag.symm, Extensions.artifact c, extended, rfl, rfl,
      fun _ => rfl, l, lookupsGiven given, isLookup, declares c.shortName List.mem_cons_self⟩

/-- A document with one component, and the generators in no particular order. -/
theorem generate_references_position :
    let w : Workspace :=
      ⟨FileTree.empty.put ["Generated"] .directory, [], [], "\n", Workspace.usualRoom⟩
    let position : Scalar × Document := (.text "PositionComponent", .map [])
    let d : Document := .map [(.text "_components", .map [position])]
    let instances : List (BuiltIn × Nat) :=
      [(.componentExtensions, 0), (.componentIndices, 1), (.pools, 2)]
    ∃ m artifacts, Model.ofDocument d = .ok m ∧
      (Generation.generate w m (.text "Generated") (pluginsOf instances) .none).outcome =
        .ok artifacts ∧
      ∃ l ∈ artifacts, IsLookup l "ComponentIds" ∧ Declares l "Position" := by
  intro w position d instances
  let m : Model := ⟨["Pool"], [{ name := "PositionComponent" }], []⟩
  have accepted : Model.ofDocument d = .ok m := by rfl
  have cleaned : (Target.clean w (.text "Generated")).outcome = .ok [] := by rfl
  have performed : ∀ r ∈ Generation.replies .none (Generation.tasks m (pluginsOf instances)),
      r.answer.outcome.isOk = true := by decide
  have fit : ∀ a ∈ Generation.given
        (Generation.replies .none (Generation.tasks m (pluginsOf instances))),
      Target.fits (Target.clean w (.text "Generated")).workspace "Generated/" a = true := by
    decide
  have succeeded := Generation.generate_of_fits rfl cleaned performed fit
  have references := generate_references (i := 2) (j := 1) (k := 0) accepted (by decide) (by decide)
    (by decide) succeeded
  obtain ⟨pool, inside, tag, isTag, _, _, _, _, _, l, given, isLookup, declares⟩ :=
    references.2 { name := "PositionComponent" } List.mem_cons_self
  obtain rfl := List.mem_singleton.mp inside
  obtain rfl : tag = "ComponentIds" := by
    rw [isTag]
    decide
  exact ⟨m, _, accepted, succeeded, l, given, isLookup, declares⟩

end BuiltIn

end EntityScribe
