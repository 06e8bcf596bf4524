import EntityScribe.BuiltIn
import EntityScribe.Proofs.References
import EntityScribe.Proofs.Rendering

/-!
# The texts of generated classes

The class of pool accessors and the class of blueprint methods, line by line, and the heads of the
methods that give an entity a component. The texts are told by the names that they declare.
-/

namespace EntityScribe

theorem Text.intercalate_append_eq_unlines {lines : List String} (some : lines ≠ []) :
    "\n".intercalate lines ++ "\n" = unlines lines := by
  induction lines with
  | nil => exact absurd rfl some
  | cons line rest ih =>
      cases rest with
      | nil => rw [String.intercalate_singleton, unlines_cons, unlines, List.foldr_nil,
          String.append_empty]
      | cons second others =>
          rw [String.intercalate_cons_cons, unlines_cons, ← ih (List.cons_ne_nil _ _)]
          simp only [String.append_assoc]

/-- A line without placeholders stays as it is. -/
theorem Template.lineText_of_plain {line : String} (plain : keys line = [])
    (values : Entries Document) : lineText values line = .lines [line] := by
  rw [lineText, plain]
  rfl

namespace BuiltIn

/-! ## Accessors of pools -/

/-- An accessor that makes its pool with the members of a lookup class. -/
structure Accessor where
  name : String
  tag : String
  pool : String

def Accessor.lines (x : Accessor) : List String :=
  ["", "    static Pool _" ++ x.name ++ ";", "", "    public static Pool " ++ x.name ++ " \x7b",
    "        get \x7b",
    "            if (_" ++ x.name ++ " == null) \x7b",
    "                _" ++ x.name ++ " = new Pool(" ++ x.tag ++
      ".TotalComponents, 0, new PoolMetaData(\"" ++ x.pool ++ "\", " ++ x.tag ++
      ".componentNames));",
    "            \x7d", "", "            return _" ++ x.name ++ ";", "        \x7d", "    \x7d"]

/-- The artifact is the class of some accessors. -/
structure IsAccessorClass (a : Artifact) (accessors : List Accessor) : Prop where
  name : a.name = "Pools"
  generator : a.generator = "PoolsGenerator"
  content : a.content = Text.unlines
    (["using Entitas;", "", "public static class Pools \x7b"] ++ accessors.flatMap Accessor.lines ++
      ["\x7d"])

namespace PoolAccessors

/-- The accessor of a pool. -/
def accessorOf (pool : String) : Accessor :=
  ⟨accessor pool, Naming.lookupTag pool, pool⟩

theorem map_indented_members (pool : String) :
    (members pool).map Code.indented = (accessorOf pool).lines := by
  simp [members, construction, accessorOf, Accessor.lines, Code.block, Code.indented,
    ← String.toList_inj]

theorem isAccessorClass_artifact (pools : List String) :
    IsAccessorClass (artifact pools) (pools.map accessorOf) where
  name := rfl
  generator := rfl
  content := by
    have body : (pools.flatMap members).map Code.indented =
        (pools.map accessorOf).flatMap Accessor.lines := by
      rw [List.map_flatMap, List.flatMap_map]
      exact List.flatMap_congr fun pool _ => map_indented_members pool
    have head : "public static class Pools" ++ " \x7b" = "public static class Pools \x7b" := by
      decide
    rw [artifact, lines, Code.block, body, head]
    rfl

end PoolAccessors

/-! ## Methods of components -/

structure Parameter where
  type : String
  name : String

/-- The head of a method of an entity. -/
def signature (method : String) (parameters : List Parameter) : String :=
  "        public Entity " ++ method ++ "(" ++
    ", ".intercalate (parameters.map fun p => p.type ++ " " ++ p.name) ++ ") \x7b"

namespace Extensions

def parameterOf (f : Field) : Parameter :=
  ⟨f.type, parameterName f⟩

theorem indented_head (verb short parameters : String) :
    Code.indented (Code.indented
        ("public Entity " ++ verb ++ short ++ "(" ++ parameters ++ ")" ++ " \x7b")) =
      "        public Entity " ++ (verb ++ short) ++ "(" ++ parameters ++ ") \x7b" := by
  simp [Code.indented, ← String.toList_inj]

/-- The head of a method that takes all fields, as it stands in the class. -/
theorem indented_signature (verb : String) (c : Component) :
    Code.indented (Code.indented
        ("public Entity " ++ verb ++ c.shortName ++ "(" ++ parameters c ++ ")" ++ " \x7b")) =
      signature (verb ++ c.shortName) (c.fields.map parameterOf) := by
  have listed : ", ".intercalate
      ((c.fields.map parameterOf).map fun p => p.type ++ " " ++ p.name) = parameters c := by
    rw [List.map_map]
    rfl
  rw [indented_head verb c.shortName (parameters c), ← listed]
  rfl

/-- The methods that add and replace a component have its fields as parameters. -/
theorem hasLine_signature {c : Component} (some : c.fields ≠ []) :
    ∀ verb ∈ ["Add", "Replace"],
      (artifact c).HasLine (signature (verb ++ c.shortName) (c.fields.map parameterOf)) := by
  intro verb member
  have head : "public Entity " ++ verb ++ c.shortName ++ "(" ++ parameters c ++ ")" ++ " \x7b" ∈
      entityMembers (reference c) c := by
    rw [entityMembers, if_neg some, valueMembers]
    have begins : ∀ (head : String) (body : List String), head ++ " \x7b" ∈ Code.block head body :=
      fun _ _ => List.mem_cons_self
    simp only [List.mem_append]
    rcases List.mem_pair.mp member with rfl | rfl
    · exact .inl (.inl (.inl (.inl (.inr (begins ..)))))
    · exact .inl (.inl (.inr (begins ..)))
  rw [← indented_signature]
  exact ⟨_, rfl, Code.mem_block _ (List.mem_append_left _ (Code.mem_block _ head))⟩

end Extensions

/-! ## Methods of blueprints -/

/-- A method that finds a blueprint. -/
structure Method where
  name : String
  blueprint : String

def Method.line (x : Method) : String :=
  "        public static Blueprint " ++ x.name ++
    "(this Blueprints blueprints) \x7b return blueprints.GetBlueprint(\"" ++ x.blueprint ++
    "\"); \x7d"

/-- The artifact is the class of some methods. -/
structure IsMethodClass (a : Artifact) (methods : List Method) : Prop where
  name : a.name = "BlueprintsGeneratedExtension"
  generator : a.generator = "BlueprintsGenerator"
  content : a.content = Text.unlines
    (["namespace Entitas.Unity.Serialization.Blueprints \x7b",
      "    public static class BlueprintsExtension \x7b"] ++ methods.map Method.line ++
      ["    \x7d", "\x7d"])

namespace BlueprintMethods

/-- The method of a blueprint. -/
def methodOf (blueprint : String) : Method :=
  ⟨methodName blueprint, blueprint⟩

theorem line_methodOf (blueprint : String) :
    (methodOf blueprint).line =
      "        public static Blueprint " ++ methodName blueprint ++
        "(this Blueprints blueprints) \x7b return blueprints.GetBlueprint(\"" ++ blueprint ++
        "\"); \x7d" :=
  rfl

theorem indent_method (blueprint : String) :
    "        " ++ method blueprint = (methodOf blueprint).line := by
  have front : "        public static Blueprint " = "        " ++ "public static Blueprint " := by
    decide
  have middle : "(this Blueprints blueprints) \x7b return blueprints.GetBlueprint(\"" =
      "(this Blueprints blueprints)" ++ " \x7b " ++ "return blueprints.GetBlueprint(\"" := by
    decide
  have back : "\"); \x7d" = "\");" ++ " \x7d" := by
    decide
  simp only [line_methodOf, method, Code.inlineBlock, front, middle, back, String.append_assoc]

theorem method_ne_empty (blueprint : String) : method blueprint ≠ "" := by
  intro none
  have ending : " \x7d" = "" := (String.append_eq_empty_iff.mp none).2
  exact absurd ending (by decide)

/-- The line of the template that is one placeholder gives a line for each method. -/
theorem render_eq (blueprints : List String) :
    render blueprints =
      ⟨.ok (["namespace Entitas.Unity.Serialization.Blueprints \x7b",
        "    public static class BlueprintsExtension \x7b"] ++
        (blueprints.map methodOf).map Method.line ++ ["    \x7d", "\x7d"]), []⟩ := by
  let vars : Template.Variables := [("Methods", .list (blueprints.map method))]
  have values : render blueprints = template.render "blueprints" vars.entries := by
    rw [Template.Variables.entries, List.map_singleton, Template.Value.document, List.map_map]
    rfl
  have alone : Template.Alone "        \x7b\x7bMethods\x7d\x7d" "        " "Methods" "" :=
    ⟨by decide, ⟨by decide, List.all_eq_true.mp (by decide)⟩, by decide, by decide⟩
  have methods : Template.lineText vars.entries "        \x7b\x7bMethods\x7d\x7d" =
      .lines ((blueprints.map methodOf).map Method.line) := by
    have kept : (blueprints.map method).filter (· ≠ "") = blueprints.map method := by
      refine List.filter_eq_self.mpr fun text member => ?_
      obtain ⟨blueprint, _, rfl⟩ := List.mem_map.mp member
      exact decide_eq_true (method_ne_empty blueprint)
    rw [Template.lineText_of_alone alone rfl, Template.Value.items, kept, List.map_map,
      List.map_map]
    exact congrArg Template.LineText.lines
      (List.map_congr_left fun blueprint _ => indent_method blueprint)
  have plain : ∀ line ∈ ["namespace Entitas.Unity.Serialization.Blueprints \x7b",
      "    public static class BlueprintsExtension \x7b", "    \x7d", "\x7d"],
      Template.lineText vars.entries line = .lines [line] := by
    intro line member
    refine Template.lineText_of_plain ?_ _
    revert line
    decide
  simp only [List.forall_mem_cons] at plain
  obtain ⟨first, second, third, fourth, _⟩ := plain
  rw [values, Template.render_eq, template]
  simp [first, second, methods, third, fourth, Template.LineText.output,
    Template.LineText.warning?]

/-- Blueprints have one class, and nothing is logged for them. -/
theorem generate_eq {blueprints : List String} (some : blueprints ≠ []) :
    ∃ a, generate blueprints = ⟨.ok [a], []⟩ ∧ IsMethodClass a (blueprints.map methodOf) := by
  rw [generate, if_neg some, render_eq]
  refine ⟨_, rfl, rfl, rfl, ?_⟩
  exact Text.intercalate_append_eq_unlines (List.cons_ne_nil _ _)

end BlueprintMethods

end BuiltIn

end EntityScribe
