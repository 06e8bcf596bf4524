import EntityScribe.Proofs.ClassTexts
import EntityScribe.Proofs.FirstLetters

/-!
# The texts of blueprint methods

The class of blueprint methods has one line for each blueprint, with the name of the blueprint as it
is, whatever characters it is made of. From the text of the class the blueprints can be read back.
-/

namespace EntityScribe

theorem Text.unlines_append_cancel (front : List String) {l k : List String}
    (same : unlines (front ++ l) = unlines (front ++ k)) : unlines l = unlines k := by
  induction front with
  | nil => exact same
  | cons line rest ih =>
      rw [List.cons_append, List.cons_append, unlines_cons, unlines_cons,
        String.append_right_inj] at same
      exact ih same

namespace BuiltIn.BlueprintMethods

/-! ## Reading back one method -/

theorem toList_methodName (blueprint : String) :
    (methodName blueprint).toList =
      Text.firstBy Text.upper (blueprint.toList.filter (· != ' ')) := by
  rw [methodName, Text.upperFirst_eq, String.toList_ofList, String.toList_ofList]

theorem space_not_mem_methodName (blueprint : String) : ' ' ∉ (methodName blueprint).toList := by
  rw [toList_methodName]
  refine Text.space_not_mem_firstBy fun member => ?_
  simpa using (List.mem_filter.mp member).2

/-- The line of a method, cut at the first space behind the method's name and at the quote behind
the blueprint's. -/
theorem toList_line_methodOf (blueprint : String) :
    (methodOf blueprint).line.toList =
      "        public static Blueprint ".toList ++ ((methodName blueprint).toList ++
        "(this".toList ++ ' ' :: ("Blueprints blueprints) \x7b return ".toList ++
        ("blueprints.GetBlueprint(\"".toList ++
        (blueprint.toList ++ '"' :: "); \x7d".toList)))) := by
  simp [line_methodOf]

/-- Two texts end before the same character if neither of them has it where the other ends. -/
theorem append_cons_cancel {α : Type} {c : α} {l k r s : List α}
    (left : ∀ more, k ≠ l ++ c :: more) (right : ∀ more, l ≠ k ++ c :: more)
    (same : l ++ c :: r = k ++ c :: s) : l = k ∧ r = s := by
  rcases List.append_eq_append_iff.mp same with ⟨more, longer, rest⟩ | ⟨more, longer, rest⟩
  · cases more with
    | nil => exact ⟨by simpa using longer.symm, (List.cons.inj rest).2⟩
    | cons d others =>
        obtain rfl := (List.cons.inj rest).1
        exact absurd longer (left others)
  · cases more with
    | nil => exact ⟨by simpa using longer, (List.cons.inj rest).2.symm⟩
    | cons d others =>
        obtain rfl := (List.cons.inj rest).1
        exact absurd longer (right others)

/-- A blueprint whose name goes on with a quote has a method with another name. -/
theorem ne_append_quote {a b : String} (named : methodName a = methodName b) (more : List Char) :
    b.toList ≠ a.toList ++ '"' :: more := by
  intro longer
  rw [← String.toList_inj, toList_methodName, toList_methodName, longer, List.filter_append]
    at named
  have none := Text.firstBy_append_eq Text.upper_ne_nil named.symm
  rw [List.filter_cons_of_pos (by decide)] at none
  cases none

/-- A text that begins with the line of a method tells the blueprint of the method. -/
theorem line_cancel {a b : String} {r s : List Char}
    (same : (methodOf a).line.toList ++ r = (methodOf b).line.toList ++ s) : a = b ∧ r = s := by
  have free : ' ' ∉ "(this".toList := by decide
  rw [toList_line_methodOf, toList_line_methodOf] at same
  -- What the fixed parts of the line are does not matter, but for the space behind the name.
  generalize "        public static Blueprint ".toList = front,
    "(this".toList = opening, "Blueprints blueprints) \x7b return ".toList = middle,
    "blueprints.GetBlueprint(\"".toList = call, "); \x7d".toList = closing at same free
  have spaceless : ∀ c d : String, ∀ more,
      (methodName c).toList ++ opening ≠ (methodName d).toList ++ opening ++ ' ' :: more := by
    intro c d more split
    have member : ' ' ∈ (methodName c).toList ++ opening := by
      rw [split]
      exact List.mem_append_right _ List.mem_cons_self
    rcases List.mem_append.mp member with named | fixed
    · exact space_not_mem_methodName c named
    · exact free fixed
  have cut : (methodName a).toList ++ opening ++
        ' ' :: (middle ++ (call ++ (a.toList ++ '"' :: (closing ++ r)))) =
      (methodName b).toList ++ opening ++
        ' ' :: (middle ++ (call ++ (b.toList ++ '"' :: (closing ++ s)))) := by
    simpa using same
  obtain ⟨names, rest⟩ := append_cons_cancel (spaceless b a) (spaceless a b) cut
  have named := String.toList_inj.mp (List.append_cancel_right names)
  have called := List.append_cancel_left (List.append_cancel_left rest)
  obtain ⟨texts, behind⟩ := append_cons_cancel (ne_append_quote named)
    (ne_append_quote named.symm) called
  exact ⟨String.toList_inj.mp texts, List.append_cancel_left behind⟩

/-! ## Reading back the class -/

/-- What follows the methods begins like none of them. -/
theorem line_ne_closing (a : String) (r : List Char) :
    (methodOf a).line.toList ++ r ≠ (Text.unlines (template.lines.drop 3)).toList := by
  intro same
  rw [toList_line_methodOf] at same
  have fifth := congrArg (·[4]?) same
  simp [Text.unlines, template] at fifth

theorem toList_unlines_methods (a : String) (others : List String) :
    (Text.unlines (((a :: others).map methodOf).map Method.line ++ template.lines.drop 3)).toList =
      (methodOf a).line.toList ++ ("\n".toList ++
        (Text.unlines
          ((others.map methodOf).map Method.line ++ template.lines.drop 3)).toList) := by
  rw [List.map_cons, List.map_cons, List.cons_append, Text.unlines_cons, String.toList_append,
    String.toList_append, List.append_assoc]

/-- The lines of methods tell the blueprints, one after the other. -/
theorem unlines_cancel {first second : List String}
    (same : Text.unlines ((first.map methodOf).map Method.line ++ template.lines.drop 3) =
      Text.unlines ((second.map methodOf).map Method.line ++ template.lines.drop 3)) :
    first = second := by
  -- One line is taken off both sides at a time; the closing lines say where each list ends.
  induction first generalizing second with
  | nil =>
      cases second with
      | nil => rfl
      | cons b rest =>
          have chars := congrArg String.toList same
          rw [toList_unlines_methods] at chars
          exact absurd chars.symm (line_ne_closing b _)
  | cons a others ih =>
      have chars := congrArg String.toList same
      rw [toList_unlines_methods] at chars
      cases second with
      | nil => exact absurd chars (line_ne_closing a _)
      | cons b rest =>
          rw [toList_unlines_methods] at chars
          obtain ⟨rfl, later⟩ := line_cancel chars
          rw [ih (String.toList_inj.mp (List.append_cancel_left later))]

theorem generate_of_ne_nil {blueprints : List String} (some : blueprints ≠ []) :
    generate blueprints = ⟨.ok [⟨"BlueprintsGeneratedExtension", "BlueprintsGenerator",
      Text.unlines (template.lines.take 2 ++ (blueprints.map methodOf).map Method.line ++
        template.lines.drop 3)⟩], []⟩ := by
  obtain ⟨⟨name, generator, content⟩, given, isClass⟩ := generate_eq some
  obtain rfl : name = _ := isClass.name
  obtain rfl : generator = _ := isClass.generator
  obtain rfl : content = _ := isClass.content
  exact given

/-- Different blueprints have different classes, and without blueprints there is none. -/
theorem generate_injective : Function.Injective generate := by
  intro first second same
  cases first with
  | nil =>
      cases second with
      | nil => rfl
      | cons b rest =>
          rw [generate_of_ne_nil (List.cons_ne_nil b rest)] at same
          cases congrArg Answer.outcome same
  | cons a others =>
      rw [generate_of_ne_nil (List.cons_ne_nil a others)] at same
      cases second with
      | nil => cases congrArg Answer.outcome same
      | cons b rest =>
          rw [generate_of_ne_nil (List.cons_ne_nil b rest)] at same
          have artifacts := Except.ok.inj (congrArg Answer.outcome same)
          have contents := congrArg Artifact.content (List.cons.inj artifacts).1
          simp only [List.append_assoc] at contents
          exact unlines_cancel (Text.unlines_append_cancel _ contents)

/-- Every blueprint has its method, told by its name, in the order of the blueprints, and none of
them is lost: the class tells the blueprints that it was made for. -/
theorem generate_verbatim {blueprints : List String} (some : blueprints ≠ []) :
    ∃ methods : List Method,
      List.Forall₂ (fun blueprint x => x.blueprint = blueprint ∧ x.name = methodName blueprint ∧
        x.line = "        " ++ method blueprint) blueprints methods ∧
      methods.length = blueprints.length ∧
      generate blueprints = ⟨.ok [⟨"BlueprintsGeneratedExtension", "BlueprintsGenerator",
        Text.unlines (template.lines.take 2 ++ methods.map Method.line ++
          template.lines.drop 3)⟩], []⟩ ∧
      ∀ others, generate others = generate blueprints → others = blueprints := by
  refine ⟨blueprints.map methodOf, ?_, List.length_map _, generate_of_ne_nil some,
    fun others same => generate_injective same⟩
  exact List.forall₂_map_right_iff.mpr (List.forall₂_same.mpr fun blueprint _ =>
    ⟨rfl, rfl, (indent_method blueprint).symm⟩)

/-- Names with braces, quotes and a line feed, one of them twice. -/
theorem generate_verbatim_braces :
    let blueprints := ["\x7b\x7bMethods\x7d\x7d", "big \"Boss\"", "two\nlines", "big \"Boss\""]
    blueprints ≠ [] ∧ ∃ methods : List Method, methods.length = 4 ∧
      methods.map (·.name) =
        ["\x7b\x7bMethods\x7d\x7d", "Big\"Boss\"", "Two\nlines", "Big\"Boss\""] ∧
      generate blueprints = ⟨.ok [⟨"BlueprintsGeneratedExtension", "BlueprintsGenerator",
        Text.unlines (template.lines.take 2 ++ methods.map Method.line ++
          template.lines.drop 3)⟩], []⟩ := by
  intro blueprints
  have some : blueprints ≠ [] := List.cons_ne_nil _ _
  obtain ⟨methods, each, count, given, _⟩ := generate_verbatim some
  have named : blueprints.map methodName = methods.map (·.name) := by
    rw [← List.forall₂_eq_eq_eq, List.forall₂_map_left_iff, List.forall₂_map_right_iff]
    exact each.imp fun _ _ told => told.2.1.symm
  exact ⟨some, methods, count, named.symm.trans (by decide), given⟩

end BuiltIn.BlueprintMethods

end EntityScribe
