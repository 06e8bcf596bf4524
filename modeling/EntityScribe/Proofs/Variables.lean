import EntityScribe.Proofs.Rendering

/-!
# Rendering under more variables

What becomes of a line is fixed by the values of its own keys. Under more variables a template
therefore gives all that it gives under fewer, in the same order. What comes in addition stands
where lines were dropped for want of a value, and no line is dropped that was not dropped before.
-/

namespace EntityScribe.Template

/-! ## What a line reads -/

section Values

variable {values others : Entries Document}

theorem inline_congr (line : String) {keys : List String}
    (same : ∀ key ∈ keys, values.get? key = others.get? key) :
    inline values line keys = inline others line keys := by
  unfold inline
  exact List.foldl_ext _ _ _ fun text key member => by rw [same key member]

/-- A line reads the values of its own keys and no others. -/
theorem lineText_congr {line : String}
    (same : ∀ key ∈ keys line, values.get? key = others.get? key) :
    lineText values line = lineText others line := by
  have unknown : (keys line).filter (fun key => (values.get? key).isNone) =
      (keys line).filter (fun key => (others.get? key).isNone) :=
    List.filter_congr fun key member => by rw [same key member]
  have filled := inline_congr line same
  unfold lineText
  dsimp only
  rw [unknown, filled]
  split
  · split
    · next key single =>
        rw [same key (single ▸ List.mem_cons_self)]
    · rfl
  · rfl

theorem renderLines_congr (name : String) {lines : List String}
    (same : ∀ line ∈ lines, ∀ key ∈ keys line, values.get? key = others.get? key) :
    renderLines name values lines = renderLines name others lines := by
  induction lines with
  | nil => rfl
  | cons line rest ih =>
      obtain ⟨first, later⟩ := List.forall_mem_cons.mp same
      rw [renderLines, renderLines, lineText_congr first, ih later]

end Values

namespace Variables

/-! ## What a line gives -/

/-- The variables are all that others are, with the same values, and may be more. -/
def Extends (many few : Variables) : Prop :=
  ∀ key value, few.lookup key = some value → many.lookup key = some value

/-- All keys of a line are among the variables. -/
def Cover (vars : Variables) (line : String) : Prop :=
  ∀ key ∈ keys line, (vars.lookup key).isSome

instance (vars : Variables) (line : String) : Decidable (vars.Cover line) :=
  inferInstanceAs (Decidable (∀ key ∈ keys line, _))

/-- The keys of a line that are not among the variables, as they occur. -/
def missing (vars : Variables) (line : String) : List String :=
  (keys line).filter fun key => (vars.lookup key).isNone

/-- The lines that a line of a template gives. -/
def given (vars : Variables) (line : String) : List String :=
  (lineText vars.entries line).output

variable {vars few many : Variables} {line : String}

theorem lineText_of_not_cover (uncovered : ¬vars.Cover line) :
    lineText vars.entries line = .missing (vars.missing line) :=
  lineText_of_unknown (mt unknown_eq_nil_iff.mp uncovered)

/-- A line that is covered gives lines, and no warning. -/
theorem exists_lines_of_cover (covered : vars.Cover line) :
    ∃ lines, lineText vars.entries line = .lines lines := by
  rcases lineText_cases vars line with
    unknown | ⟨before, key, after, value, alone, found⟩ | ⟨known, joined⟩
  · exact absurd (unknown_eq_nil_iff.mpr covered) unknown
  · exact ⟨_, lineText_of_alone alone found⟩
  · exact ⟨_, lineText_of_joined known joined⟩

theorem given_of_not_cover (uncovered : ¬vars.Cover line) : vars.given line = [] := by
  rw [given, lineText_of_not_cover uncovered]
  rfl

/-! ## More variables -/

theorem Extends.lookup_eq (more : many.Extends few) {key : String}
    (known : (few.lookup key).isSome) : few.lookup key = many.lookup key := by
  obtain ⟨value, found⟩ := Option.isSome_iff_exists.mp known
  rw [found, more key value found]

theorem Extends.cover (more : many.Extends few) (covered : few.Cover line) : many.Cover line := by
  intro key member
  have known := covered key member
  rwa [more.lookup_eq known] at known

/-- A line that is covered gives the same under more variables. -/
theorem Extends.given_eq (more : many.Extends few) (covered : few.Cover line) :
    few.given line = many.given line := by
  have same : ∀ key ∈ keys line, few.entries.get? key = many.entries.get? key := by
    intro key member
    rw [get?_entries, get?_entries, more.lookup_eq (covered key member)]
  rw [given, given, lineText_congr same]

/-- A line that gives something else under more variables has keys that only they know, and gives
nothing without them. -/
theorem Extends.added (more : many.Extends few) (other : few.given line ≠ many.given line) :
    ¬few.Cover line ∧ many.Cover line ∧ few.given line = [] := by
  have uncovered : ¬few.Cover line := fun covered => other (more.given_eq covered)
  have nothing := given_of_not_cover uncovered
  refine ⟨uncovered, ?_, nothing⟩
  by_contra still
  exact other (nothing.trans (given_of_not_cover still).symm)

theorem Extends.sublist_given (more : many.Extends few) (line : String) :
    (few.given line).Sublist (many.given line) := by
  by_cases covered : few.Cover line
  · rw [more.given_eq covered]
  · rw [given_of_not_cover covered]
    exact List.nil_sublist _

theorem Extends.sublist_flatMap (more : many.Extends few) (lines : List String) :
    (lines.flatMap few.given).Sublist (lines.flatMap many.given) := by
  induction lines with
  | nil => exact List.Sublist.slnil
  | cons line rest ih =>
      rw [List.flatMap_cons, List.flatMap_cons]
      exact (more.sublist_given line).append ih

end Variables

/-! ## What a template gives -/

/-- The lines that a template gives, one of its lines after the other. -/
def output (t : Template) (vars : Variables) : List String :=
  t.lines.flatMap vars.given

/-- The lines of a template that cause a warning. -/
def warned (t : Template) (vars : Variables) : List String :=
  t.lines.filter fun line => ¬vars.Cover line

theorem filterMap_warning? (name : String) (vars : Variables) (lines : List String) :
    lines.filterMap (fun line => (lineText vars.entries line).warning? name) =
      (lines.filter fun line => ¬vars.Cover line).map
        fun line => warning name (vars.missing line) := by
  induction lines with
  | nil => rfl
  | cons line rest ih =>
      by_cases covered : vars.Cover line
      · obtain ⟨lines, became⟩ := Variables.exists_lines_of_cover covered
        rw [List.filterMap_cons_none (by rw [became]; rfl),
          List.filter_cons_of_neg (by simp [covered]), ih]
      · have became := Variables.lineText_of_not_cover covered
        rw [List.filterMap_cons_some (by rw [became]; rfl),
          List.filter_cons_of_pos (by simp [covered]), List.map_cons, ih]

theorem render_eq_output (t : Template) (name : String) (vars : Variables) :
    t.render name vars.entries =
      ⟨.ok (t.output vars), (t.warned vars).map fun line => warning name (vars.missing line)⟩ := by
  rw [render_eq, filterMap_warning?]
  rfl

/-- What a template gives under few variables, beside what it gives under many. -/
structure Grows (t : Template) (name : String) (few many : Variables) : Prop where
  rendered : ∀ vars ∈ [few, many], t.render name vars.entries =
    ⟨.ok (t.output vars), (t.warned vars).map fun line => warning name (vars.missing line)⟩
  sublist : (t.output few).Sublist (t.output many)
  added : ∀ line ∈ t.lines, few.given line ≠ many.given line →
    ¬few.Cover line ∧ many.Cover line ∧ few.given line = []
  warned : (t.warned many).Sublist (t.warned few)

/-- Under more variables a template gives its lines and more, the additional ones where lines were
dropped, and warns of no other lines. Variables that no line refers to change nothing. -/
theorem render_grows (t : Template) (name : String) (few many : Variables) :
    (many.Extends few → t.Grows name few many) ∧
    ((∀ line ∈ t.lines, ∀ key ∈ keys line, few.lookup key = many.lookup key) →
      t.render name few.entries = t.render name many.entries) := by
  constructor
  · intro more
    refine ⟨fun vars _ => t.render_eq_output name vars, more.sublist_flatMap t.lines,
      fun line _ => more.added, ?_⟩
    refine List.monotone_filter_right t.lines fun line uncovered => ?_
    simp only [decide_eq_true_eq] at uncovered ⊢
    exact mt more.cover uncovered
  · intro same
    -- A value may look like a placeholder, but only keys that the line itself has are filled in.
    refine renderLines_congr name fun line member key among => ?_
    rw [Variables.get?_entries, Variables.get?_entries, same line member key among]

/-- A line that was dropped and now is filled in by a value that looks like a placeholder, a list
that comes in, and a line that is dropped still. -/
theorem render_grows_mixed :
    let t : Template := ⟨["\x7b\x7bA\x7d\x7d-\x7b\x7bB\x7d\x7d", "is \x7b\x7bA\x7d\x7d",
      "  \x7b\x7bL\x7d\x7d", "\x7b\x7bC\x7d\x7d\x7b\x7bB\x7d\x7d"]⟩
    let short : Template := ⟨["is \x7b\x7bA\x7d\x7d", "end"]⟩
    let few : Variables := [("A", .text "\x7b\x7bB\x7d\x7d")]
    let many : Variables :=
      [("L", .list ["one", "", "two"]), ("A", .text "\x7b\x7bB\x7d\x7d"), ("B", .text "w")]
    many.Extends few ∧ t.Grows "x" few many ∧
      t.output few = ["is \x7b\x7bB\x7d\x7d"] ∧
      t.output many = ["w-w", "is \x7b\x7bB\x7d\x7d", "  one", "  two"] ∧
      short.render "y" few.entries = short.render "y" many.entries := by
  intro t short few many
  have more : many.Extends few := by
    intro key value found
    obtain rfl : key = "A" := by
      by_contra other
      rw [List.lookup_cons, beq_false_of_ne other] at found
      cases found
    exact found
  have only : ∀ line ∈ short.lines, ∀ key ∈ keys line, key = "A" := by decide
  have same : ∀ line ∈ short.lines, ∀ key ∈ keys line, few.lookup key = many.lookup key := by
    intro line member key among
    rw [only line member key among]
    rfl
  exact ⟨more, (render_grows t "x" few many).1 more, by decide, by decide,
    (render_grows short "y" few many).2 same⟩

end EntityScribe.Template
