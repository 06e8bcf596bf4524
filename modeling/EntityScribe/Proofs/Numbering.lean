import EntityScribe.Proofs.ArtifactNames
import EntityScribe.Proofs.References

/-!
# Numbers of components

The lookup classes are built up entry by entry, while pools and components come in any order. What a
class lists in the end is told by its tag alone: the short names of the components, each as often as
it lists the tag. Its constants number the list, and its array holds it.
-/

namespace EntityScribe.BuiltIn

/-! ## Members -/

/-- A member that a lookup class declares. -/
inductive Member where
  | constant (name : String) (value : Nat)
  | array (name : String) (texts : List String)
  deriving DecidableEq, Repr

namespace Member

def name : Member → String
  | constant name _ => name
  | array name _ => name

def lines : Member → List String
  | constant name value => ["    public const int " ++ name ++ " = " ++ toString value ++ ";"]
  | array name texts =>
      ["    public static readonly string[] " ++ name ++ " = \x7b"] ++
        texts.map (fun text => "        \"" ++ text ++ "\",") ++ ["    \x7d;"]

/-- The constants for names, with their places in the list as values. -/
def numbered (names : List String) : List Member :=
  names.zipIdx.map fun (name, index) => constant name index

/-- The members of a class for names, in groups: the constants, their number and the array. -/
def groups (names : List String) : List (List Member) :=
  [numbered names, [constant "TotalComponents" names.length], [array "componentNames" names]]

theorem constant_mem_numbered_iff {names : List String} {name : String} {value : Nat} :
    constant name value ∈ numbered names ↔ names[value]? = some name := by
  rw [numbered, List.mem_map]
  constructor
  · rintro ⟨⟨other, index⟩, member, same⟩
    cases same
    exact List.mk_mem_zipIdx_iff_getElem?.mp member
  · intro there
    exact ⟨(name, value), List.mk_mem_zipIdx_iff_getElem?.mpr there, rfl⟩

end Member

/-- The artifact is a lookup class with some members, an empty line between groups of them. -/
structure IsClassOf (a : Artifact) (tag : String) (groups : List (List Member)) : Prop where
  name : a.name = tag
  generator : a.generator = LookupClasses.className
  content : a.content = Text.unlines
    (("public static class " ++ tag ++ " \x7b") ::
      [""].intercalate (groups.map fun members => members.flatMap Member.lines) ++ ["\x7d"])

namespace LookupClass

theorem total_eq_constant (count : Nat) : total count = constant "TotalComponents" count := by
  have front : "public const int TotalComponents = " =
      "public const int " ++ "TotalComponents" ++ " = " := by decide
  exact congrArg (· ++ toString count ++ ";") front

theorem indented_nameEntry (component : String) :
    Code.indented (Code.indented (nameEntry component)) = "        \"" ++ component ++ "\"," := by
  have text : nameEntry component = "\"" ++ (component ++ "\",") := String.append_assoc ..
  have once : "    " ++ "\"" = "    \"" := by decide
  have twice : "    " ++ "    \"" = "        \"" := by decide
  rw [text, Code.indented_append (by decide), once, String.append_assoc,
    Code.indented_append (by decide), twice, ← String.append_assoc]

/-- The text of a class declares its components by their numbers, and nothing else. -/
theorem isClassOf_artifact (k : LookupClass) :
    IsClassOf (LookupClasses.artifact k) k.tag (Member.groups k.components) where
  name := rfl
  generator := rfl
  content := by
    have constants : (k.components.zipIdx.map fun (component, index) =>
        Code.indented (constant component index)) =
          (Member.numbered k.components).flatMap Member.lines := by
      rw [Member.numbered, List.flatMap_map, List.map_eq_flatMap]
      exact List.flatMap_congr fun (component, index) _ =>
        congrArg ([·]) (indented_constant component index)
    have total : Code.indented (total k.components.length) =
        "    public const int " ++ "TotalComponents" ++ " = " ++
          toString k.components.length ++ ";" := by
      rw [total_eq_constant, indented_constant]
    have array : (nameArray k.components).map Code.indented =
        Member.lines (.array "componentNames" k.components) := by
      have entries : ((k.components.map nameEntry).map Code.indented).map Code.indented =
          k.components.map fun text => "        \"" ++ text ++ "\"," := by
        rw [List.map_map, List.map_map]
        exact List.map_congr_left fun component _ => indented_nameEntry component
      rw [nameArray, List.map_append, List.map_append, entries]
      rfl
    have body : k.lines = ("public static class " ++ k.tag ++ " \x7b") ::
        ((k.components.zipIdx.map fun (component, index) =>
            Code.indented (constant component index)) ++
          ["", Code.indented (LookupClass.total k.components.length), ""] ++
          (nameArray k.components).map Code.indented) ++ ["\x7d"] := by
      rw [lines, Code.block, List.map_append, List.map_append, List.map_map]
      rfl
    rw [LookupClasses.artifact, body, constants, total, array]
    simp [Member.groups, Member.lines, List.intercalate]

end LookupClass

namespace LookupClasses

/-! ## What is listed under a tag -/

/-- What the first class with a tag lists; where there is none, nothing. -/
def under (tag : String) (classes : List LookupClass) : List String :=
  (classes.find? (·.tag = tag)).elim [] (·.components)

/-- The short names of components, each as often as its component lists the tag. -/
def enrolled (tag : String) (components : List Component) : List String :=
  components.flatMap fun c => List.replicate (c.lookupTags.count tag) c.shortName

variable {tag : String}

theorem under_cons (k : LookupClass) (rest : List LookupClass) :
    under tag (k :: rest) = if k.tag = tag then k.components else under tag rest := by
  by_cases own : k.tag = tag <;> simp [under, own]

/-- Among classes with different tags, each is what is listed under its tag. -/
theorem under_of_mem {classes : List LookupClass} (nodup : (classes.map (·.tag)).Nodup)
    {k : LookupClass} (member : k ∈ classes) : under k.tag classes = k.components := by
  induction classes with
  | nil => cases member
  | cons first rest ih =>
      obtain ⟨others, nodupRest⟩ := List.nodup_cons.mp nodup
      rw [under_cons]
      rcases List.mem_cons.mp member with rfl | later
      · rw [if_pos rfl]
      · have other : first.tag ≠ k.tag := fun same =>
          others (List.mem_map.mpr ⟨k, later, same.symm⟩)
        rw [if_neg other, ih nodupRest later]

theorem under_declare (declared : String) (classes : List LookupClass) :
    under tag (declare declared classes) = under tag classes := by
  induction classes with
  | nil =>
      rw [declare, under_cons]
      split <;> rfl
  | cons k rest ih =>
      rw [declare]
      split
      · rfl
      · rw [under_cons, under_cons, ih]

theorem under_enter (component entered : String) (classes : List LookupClass) :
    under tag (enter component entered classes) =
      under tag classes ++ if entered = tag then [component] else [] := by
  induction classes with
  | nil =>
      rw [enter, under_cons]
      rfl
  | cons k rest ih =>
      rw [enter, under_cons]
      by_cases own : k.tag = entered
      · rw [if_pos own, under_cons, own]
        split
        · rfl
        · rw [List.append_nil]
      · rw [if_neg own, under_cons, ih]
        by_cases here : k.tag = tag
        · have other : entered ≠ tag := fun same => own (here.trans same.symm)
          rw [if_pos here, if_pos here, if_neg other, List.append_nil]
        · rw [if_neg here, if_neg here]

/-- If each step adds something under a tag, all of them add it in their order. -/
theorem under_foldl {β : Type} {f : List LookupClass → β → List LookupClass}
    (added : β → List String)
    (adds : ∀ classes b, under tag (f classes b) = under tag classes ++ added b) (bs : List β)
    (classes : List LookupClass) :
    under tag (bs.foldl f classes) = under tag classes ++ bs.flatMap added := by
  induction bs generalizing classes with
  | nil => rw [List.foldl_nil, List.flatMap_nil, List.append_nil]
  | cons b rest ih => rw [List.foldl_cons, ih, adds, List.flatMap_cons, List.append_assoc]

theorem flatMap_ite_eq_replicate (tags : List String) (component : String) :
    (tags.flatMap fun entered => if entered = tag then [component] else []) =
      List.replicate (tags.count tag) component := by
  induction tags with
  | nil => rfl
  | cons first rest ih =>
      rw [List.flatMap_cons, ih]
      by_cases same : first = tag
      · rw [if_pos same, same, List.count_cons_self, List.replicate_succ, List.singleton_append]
      · rw [if_neg same, List.count_cons_of_ne same, List.nil_append]

theorem under_ofPools (pools : List String) : under tag (ofPools pools) = [] := by
  have nothing : ∀ classes pool, under tag (declare (Naming.lookupTag pool) classes) =
      under tag classes ++ [] := by
    intro classes pool
    rw [under_declare, List.append_nil]
  rw [ofPools, under_foldl _ nothing]
  simp [under]

/-- What a class lists depends on its tag and the components alone. -/
theorem under_classes (pools : List String) (components : List Component) :
    under tag (LookupClasses.classes pools components) = enrolled tag components := by
  have one : ∀ classes (c : Component), under tag (add classes c) =
      under tag classes ++ List.replicate (c.lookupTags.count tag) c.shortName := by
    intro classes c
    rw [add, under_foldl _ (fun classes entered => under_enter c.shortName entered classes),
      flatMap_ite_eq_replicate]
  rw [LookupClasses.classes, under_foldl _ one, under_ofPools, List.nil_append, enrolled]

theorem components_of_mem_classes {pools : List String} {components : List Component}
    {k : LookupClass} (member : k ∈ LookupClasses.classes pools components) :
    k.components = enrolled k.tag components := by
  have nodup : ((LookupClasses.classes pools components).map (·.tag)).Nodup := by
    rw [tags_classes]
    exact nodup_eraseDups _
  rw [← under_classes pools, under_of_mem nodup member]

end LookupClasses

/-! ## Both phases -/

/-- What an instance of the generator for lookup classes makes of components, once it has been given
pools. -/
def Emits (slot : Nat) (memory : PoolMemory) (pools : List String) (components : List Component)
    (artifacts : List Artifact) : Prop :=
  ∃ onPools onComponents,
    (componentIndices.plugin slot).onPools = some onPools ∧
    (componentIndices.plugin slot).onComponents = some onComponents ∧
    (onPools pools memory).answer.outcome = .ok [] ∧
    (onComponents components (onPools pools memory).memory).answer.outcome = .ok artifacts

theorem emits_artifacts (slot : Nat) (memory : PoolMemory) (pools : List String)
    (components : List Component) :
    Emits slot memory pools components (LookupClasses.artifacts pools components) := by
  have remembered : (memory.store slot pools) slot = pools := if_pos rfl
  refine ⟨_, _, rfl, rfl, rfl, ?_⟩
  exact congrArg (fun known => Except.ok (LookupClasses.artifacts known components)) remembered

theorem isClassOf_of_mem_artifacts {pools : List String} {components : List Component}
    {a : Artifact} (member : a ∈ LookupClasses.artifacts pools components) :
    IsClassOf a a.name (Member.groups (LookupClasses.enrolled a.name components)) := by
  obtain ⟨k, inside, rfl⟩ := List.mem_map.mp member
  have isClass := k.isClassOf_artifact
  rwa [LookupClasses.components_of_mem_classes inside] at isClass

/-- The generator gives one class for each tag of the pools and of the components, in the order in
which the tags first occur. A class numbers the components that list its tag, in their order and
each as often as it lists the tag, and its array holds at each place the name with this number. -/
theorem emits_numbered (slot : Nat) (memory : PoolMemory) (pools : List String)
    (components : List Component) :
    ∃ artifacts, Emits slot memory pools components artifacts ∧
      artifacts.map (·.name) =
        (pools.map Naming.lookupTag ++ components.flatMap Component.lookupTags).eraseDups ∧
      (artifacts.map (·.name)).Nodup ∧
      ∀ a ∈ artifacts,
        let names := LookupClasses.enrolled a.name components
        IsClassOf a a.name [Member.numbered names, [.constant "TotalComponents" names.length],
          [.array "componentNames" names]] ∧
        ∀ name value, .constant name value ∈ Member.numbered names ↔ names[value]? = some name := by
  have tags : (LookupClasses.artifacts pools components).map (·.name) =
      (pools.map Naming.lookupTag ++ components.flatMap Component.lookupTags).eraseDups := by
    rw [← LookupClasses.tags_classes]
    exact List.map_map
  refine ⟨_, emits_artifacts slot memory pools components, tags, ?_, ?_⟩
  · rw [tags]
    exact nodup_eraseDups _
  · intro a member
    exact ⟨isClassOf_of_mem_artifacts member, fun _ _ => Member.constant_mem_numbered_iff⟩

end EntityScribe.BuiltIn
