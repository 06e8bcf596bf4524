import EntityScribe.Proofs.ClassTexts

/-!
# The texts of component extensions

The extension for a component with fields, line by line. The methods that add and replace the
component take a parameter for each field and give the field its value, and wherever the extension
refers to the component, it is by the same constant of a lookup class.
-/

namespace EntityScribe

theorem Code.map_indented_block (head : String) (body : List String) :
    (block head body).map indented =
      indented (head ++ " \x7b") :: (body.map indented).map indented ++ ["    \x7d"] := by
  rw [block, List.map_append, List.map_cons]
  rfl

namespace BuiltIn

/-! ## What an extension says -/

/-- A constant of a lookup class. -/
structure Reference where
  tag : String
  constant : String

def Reference.text (r : Reference) : String :=
  r.tag ++ "." ++ r.constant

/-- A field of a new component is given a value. -/
structure Assignment where
  field : String
  value : String

def Assignment.line (x : Assignment) : String :=
  "            component." ++ x.field ++ " = " ++ x.value ++ ";"

/-- A method that makes a component for an entity, which knows it by a constant. -/
structure Setter where
  parameters : List Parameter
  assignments : List Assignment
  constant : Reference

/-- The lines of a method that makes a component; its last lines say what becomes of it. -/
def Setter.lines (x : Setter) (name component : String) (last : List String) : List String :=
  signature name x.parameters :: ("            var component = new " ++ component ++ "();") ::
    x.assignments.map Assignment.line ++ last ++ ["        \x7d"]

/-- The extension for a component with fields. Each of its members has the constant by which it
refers to the component. -/
structure Extension where
  component : String
  short : String
  getter : Reference
  presence : Reference
  add : Setter
  replace : Setter
  removal : Reference
  group : Option Reference

namespace Extension

def addLines (x : Extension) : List String :=
  x.add.lines ("Add" ++ x.short) x.component
    ["            return AddComponent(" ++ x.add.constant.text ++ ", component);"]

def replaceLines (x : Extension) : List String :=
  x.replace.lines ("Replace" ++ x.short) x.component
    ["            ReplaceComponent(" ++ x.replace.constant.text ++ ", component);",
      "            return this;"]

def removalLines (x : Extension) : List String :=
  ["        public Entity Remove" ++ x.short ++ "() \x7b",
    "            return RemoveComponent(" ++ x.removal.text ++ ");", "        \x7d"]

/-- The class of pools stands in the extension only if there is a group. -/
def groupLines (x : Extension) : List String :=
  match x.group with
  | none => []
  | some constant =>
      ["", "    public partial class Pool \x7b",
        "        public Entity " ++ Text.lowerFirst x.short ++
          "Entity \x7b get \x7b return GetGroup(" ++ constant.text ++
          ").GetSingleEntity(); \x7d \x7d",
        "    \x7d"]

def lines (x : Extension) : List String :=
  ["namespace Entitas \x7b", "    public partial class Entity \x7b",
    "        public " ++ x.component ++ " " ++ Text.lowerFirst x.short ++
      " \x7b get \x7b return (" ++ x.component ++ ")GetComponent(" ++ x.getter.text ++
      "); \x7d \x7d", "",
    "        public bool has" ++ x.short ++ " \x7b get \x7b return HasComponent(" ++
      x.presence.text ++ "); \x7d \x7d", ""] ++
    x.addLines ++ [""] ++ x.replaceLines ++ [""] ++ x.removalLines ++ ["    \x7d"] ++
    x.groupLines ++ ["\x7d"]

/-- All constants that the extension refers to. -/
def references (x : Extension) : List Reference :=
  [x.getter, x.presence, x.add.constant, x.replace.constant, x.removal] ++ x.group.toList

/-- The extension is that for a component: the methods take the fields as parameters and assign each
field once, from its own parameter, and all members refer to the component by one constant. -/
structure IsFor (x : Extension) (c : Component) : Prop where
  component : x.component = c.name
  short : x.short = c.shortName
  parameters : ∀ m ∈ [x.add, x.replace],
    m.parameters = c.fields.map fun f => ⟨f.type, "new" ++ Text.upperFirst f.name⟩
  assignments : ∀ m ∈ [x.add, x.replace],
    m.assignments = c.fields.map fun f => ⟨f.name, "new" ++ Text.upperFirst f.name⟩
  references : ∀ r ∈ x.references, r = ⟨c.lookupTag, c.shortName⟩
  group : x.group.isSome = c.single

end Extension

/-- The artifact is an extension. -/
structure IsExtension (a : Artifact) (x : Extension) : Prop where
  name : a.name = x.component ++ "GeneratedExtension"
  generator : a.generator = "ComponentExtensionsGenerator"
  content : a.content = Text.unlines x.lines

/-! ## The extensions of components -/

namespace Extensions

def referenceOf (c : Component) : Reference :=
  ⟨c.lookupTag, c.shortName⟩

def assignmentOf (f : Field) : Assignment :=
  ⟨f.name, parameterName f⟩

def setterOf (c : Component) : Setter :=
  ⟨c.fields.map parameterOf, c.fields.map assignmentOf, referenceOf c⟩

def extensionOf (c : Component) : Extension where
  component := c.name
  short := c.shortName
  getter := referenceOf c
  presence := referenceOf c
  add := setterOf c
  replace := setterOf c
  removal := referenceOf c
  group := if c.single then some (referenceOf c) else none

theorem isFor_extensionOf (c : Component) : (extensionOf c).IsFor c where
  component := rfl
  short := rfl
  parameters := by
    rintro m member
    rcases List.mem_pair.mp member with rfl | rfl <;> rfl
  assignments := by
    rintro m member
    rcases List.mem_pair.mp member with rfl | rfl <;> rfl
  references := by
    intro r member
    rcases List.mem_append.mp member with fixed | grouped
    · simpa [extensionOf, setterOf, referenceOf] using fixed
    · rw [extensionOf] at grouped
      split at grouped
      · exact List.mem_singleton.mp grouped
      · cases grouped
  group := by
    rw [extensionOf]
    cases c.single <;> rfl

section Lines

variable (constant : String) (c : Component)

theorem indented_valueProperty :
    Code.indented (Code.indented (valueProperty constant c)) =
      "        public " ++ c.name ++ " " ++ Text.lowerFirst c.shortName ++
        " \x7b get \x7b return (" ++ c.name ++ ")GetComponent(" ++ constant ++ "); \x7d \x7d" := by
  simp [valueProperty, property, variableName, Code.inlineBlock, Code.indented,
    ← String.toList_inj]

theorem indented_presenceProperty :
    Code.indented (Code.indented (presenceProperty constant c)) =
      "        public bool has" ++ c.shortName ++ " \x7b get \x7b return HasComponent(" ++
        constant ++ "); \x7d \x7d" := by
  simp [presenceProperty, property, Code.inlineBlock, Code.indented, ← String.toList_inj]

theorem indented_removeMethod :
    ((removeMethod constant c).map Code.indented).map Code.indented =
      ["        public Entity Remove" ++ c.shortName ++ "() \x7b",
        "            return RemoveComponent(" ++ constant ++ ");", "        \x7d"] := by
  simp [removeMethod, Code.block, Code.indented, ← String.toList_inj]

theorem indented_poolMembers :
    (Code.block "public partial class Pool" (poolMembers constant c)).map Code.indented =
      ["    public partial class Pool \x7b",
        "        public Entity " ++ Text.lowerFirst c.shortName ++
          "Entity \x7b get \x7b return GetGroup(" ++ constant ++ ").GetSingleEntity(); \x7d \x7d",
        "    \x7d"] := by
  simp [poolMembers, property, variableName, Code.inlineBlock, Code.block, Code.indented,
    ← String.toList_inj]

theorem indented_assignment (f : Field) :
    Code.indented (Code.indented (Code.indented (assignment f))) =
      "            component." ++ f.name ++ " = " ++ parameterName f ++ ";" := by
  simp [assignment, Code.indented, ← String.toList_inj]

theorem indented_construction :
    (((construction c).map Code.indented).map Code.indented).map Code.indented =
      ("            var component = new " ++ c.name ++ "();") ::
        (setterOf c).assignments.map Assignment.line := by
  have head : Code.indented (Code.indented (Code.indented
      ("var component = new " ++ c.name ++ "();"))) =
        "            var component = new " ++ c.name ++ "();" := by
    simp [Code.indented, ← String.toList_inj]
  have assignments : (((c.fields.map assignment).map Code.indented).map Code.indented).map
      Code.indented = (c.fields.map assignmentOf).map Assignment.line := by
    simp only [List.map_map]
    exact List.map_congr_left fun f _ => indented_assignment f
  rw [construction, List.map_cons, List.map_cons, List.map_cons, head, assignments]
  rfl

/-- A method that makes a component and ends in some lines more. -/
theorem indented_setter (verb : String) {last shown : List String}
    (lasts : ((last.map Code.indented).map Code.indented).map Code.indented = shown) :
    ((Code.block ("public Entity " ++ verb ++ c.shortName ++ "(" ++ parameters c ++ ")")
        (construction c ++ last)).map Code.indented).map Code.indented =
      (setterOf c).lines (verb ++ c.shortName) c.name shown := by
  have closing : Code.indented "    \x7d" = "        \x7d" := by decide
  rw [Code.map_indented_block, List.map_append, List.map_cons, indented_signature,
    List.map_append, List.map_append, List.map_append, indented_construction, lasts]
  rw [Setter.lines, List.map_singleton, closing]
  rfl

theorem indented_addMethod :
    ((addMethod (reference c) c).map Code.indented).map Code.indented =
      (extensionOf c).addLines := by
  have last : Code.indented (Code.indented (Code.indented
      ("return AddComponent(" ++ reference c ++ ", component);"))) =
        "            return AddComponent(" ++ reference c ++ ", component);" := by
    simp [Code.indented, ← String.toList_inj]
  exact indented_setter c "Add" (congrArg ([·]) last)

theorem indented_replaceMethod :
    ((replaceMethod (reference c) c).map Code.indented).map Code.indented =
      (extensionOf c).replaceLines := by
  have first : Code.indented (Code.indented (Code.indented
      ("ReplaceComponent(" ++ reference c ++ ", component);"))) =
        "            ReplaceComponent(" ++ reference c ++ ", component);" := by
    simp [Code.indented, ← String.toList_inj]
  have second : Code.indented (Code.indented (Code.indented "return this;")) =
      "            return this;" := by
    decide
  exact indented_setter c "Replace" (congrArg₂ ([·, ·]) first second)

theorem indented_valueMembers :
    ((valueMembers (reference c) c).map Code.indented).map Code.indented =
      ["        public " ++ c.name ++ " " ++ Text.lowerFirst c.shortName ++
          " \x7b get \x7b return (" ++ c.name ++ ")GetComponent(" ++ reference c ++
          "); \x7d \x7d", "",
        "        public bool has" ++ c.shortName ++ " \x7b get \x7b return HasComponent(" ++
          reference c ++ "); \x7d \x7d", ""] ++
        (extensionOf c).addLines ++ [""] ++ (extensionOf c).replaceLines ++ [""] ++
        (extensionOf c).removalLines := by
  have empty : Code.indented "" = "" := if_pos rfl
  simp only [valueMembers, List.map_append, indented_addMethod, indented_replaceMethod,
    indented_removeMethod, List.map_cons, List.map_nil, indented_valueProperty,
    indented_presenceProperty, empty]
  rfl

theorem indented_group :
    (if c.single then "" :: Code.block "public partial class Pool" (poolMembers (reference c) c)
      else []).map Code.indented = (extensionOf c).groupLines := by
  rw [Extension.groupLines, extensionOf]
  cases c.single with
  | false => rfl
  | true => exact congrArg ("" :: ·) (indented_poolMembers (reference c) c)

end Lines

/-- Line by line, the code for a component with fields is its extension. -/
theorem lines_eq {c : Component} (some : c.fields ≠ []) :
    lines (reference c) c = (extensionOf c).lines := by
  have outer : "namespace Entitas" ++ " \x7b" = "namespace Entitas \x7b" := by decide
  have inner : Code.indented ("public partial class Entity" ++ " \x7b") =
      "    public partial class Entity \x7b" := by decide
  rw [lines, Code.block, List.map_append, Code.map_indented_block, indented_group, entityMembers,
    if_neg some, indented_valueMembers, outer, inner]
  simp only [Extension.lines, List.append_assoc, List.cons_append, List.nil_append]
  rfl

theorem isExtension_artifact {c : Component} (some : c.fields ≠ []) :
    IsExtension (artifact c) (extensionOf c) where
  name := rfl
  generator := rfl
  content := congrArg Text.unlines (lines_eq some)

end Extensions

/-- Every component with fields is given the extension that is for it. -/
theorem generate_extensions (components : List Component) :
    ∃ artifacts, (Extensions.generate components).outcome = .ok artifacts ∧
      List.Forall₂ (fun c a => c.fields ≠ [] → ∃ x : Extension, IsExtension a x ∧ x.IsFor c)
        components artifacts := by
  refine ⟨components.map Extensions.artifact, rfl, ?_⟩
  refine List.forall₂_map_right_iff.mpr (List.forall₂_same.mpr fun c _ some => ?_)
  exact ⟨Extensions.extensionOf c, Extensions.isExtension_artifact some,
    Extensions.isFor_extensionOf c⟩

/-- A component without fields, and one with two that stands for a single entity. -/
theorem generate_extensions_position :
    let marker : Component := { name := "Marker" }
    let position : Component :=
      ⟨"PositionComponent", [⟨"x", "int"⟩, ⟨"Y", "float"⟩], ["Enemy", "Pool"], true⟩
    ∃ first second x, (Extensions.generate [marker, position]).outcome = .ok [first, second] ∧
      position.fields ≠ [] ∧ IsExtension second x ∧ x.IsFor position ∧
      x.add.parameters = [⟨"int", "newX"⟩, ⟨"float", "newY"⟩] ∧
      x.replace.assignments = [⟨"x", "newX"⟩, ⟨"Y", "newY"⟩] ∧
      x.group = some ⟨"EnemyComponentIds", "Position"⟩ := by
  intro marker position
  obtain ⟨artifacts, given, extended⟩ := generate_extensions [marker, position]
  obtain ⟨first, rest, _, later, rfl⟩ := List.forall₂_cons_left_iff.mp extended
  obtain ⟨second, others, isFor, last, rfl⟩ := List.forall₂_cons_left_iff.mp later
  cases last
  have some : position.fields ≠ [] := List.cons_ne_nil _ _
  obtain ⟨x, isExtension, fits⟩ := isFor some
  refine ⟨first, second, x, given, some, isExtension, fits, ?_, ?_, ?_⟩
  · exact (fits.parameters x.add (by simp)).trans rfl
  · exact (fits.assignments x.replace (by simp)).trans rfl
  · obtain ⟨r, group⟩ := Option.isSome_iff_exists.mp fits.group
    have same := fits.references r (by simp [Extension.references, group])
    have tag : position.lookupTag = "EnemyComponentIds" := by decide
    have short : position.shortName = "Position" := by decide
    rw [group, same, tag, short]

end BuiltIn

end EntityScribe
