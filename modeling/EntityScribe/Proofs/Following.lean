import EntityScribe.Proofs.FileTrees
import EntityScribe.Proofs.Paths
import EntityScribe.Workspace

/-!
# Where paths lead

A path that ends at a directory passes through directories only, so where it leads is a matter of
the directories of a tree: files that are put in or taken out make no difference, and neither do
segments that stay where they are.
-/

namespace EntityScribe.Workspace

/-- Segments lead from one place to a directory. -/
def Leads (tree : FileTree) (here : Place) (segments : List String) (top : Place) : Prop :=
  follow tree here segments = .ok top ∧ tree.isDirectory top = true

namespace Leads

variable {tree other : FileTree} {here top : Place} {segments : List String}

theorem nil_iff : Leads tree here [] top ↔ here = top ∧ tree.isDirectory here = true := by
  constructor
  · rintro ⟨followed, directory⟩
    cases followed
    exact ⟨rfl, directory⟩
  · rintro ⟨rfl, directory⟩
    exact ⟨rfl, directory⟩

/-- A path starts in a directory. -/
theorem start (leads : Leads tree here segments top) : tree.isDirectory here = true := by
  cases segments with
  | nil => exact (nil_iff.mp leads).2
  | cons segment rest =>
      have followed := leads.1
      cases directory : tree.isDirectory here with
      | true => rfl
      | false => simp [follow, directory] at followed

/-- The first step of a path: to stay, to go up, or to enter a directory by its name. -/
theorem cons_iff {segment : String} {rest : List String} :
    Leads tree here (segment :: rest) top ↔
      tree.isDirectory here = true ∧
        (if segment = "" ∨ segment = "." then Leads tree here rest top
        else if segment = ".." then Leads tree here.dropLast rest top
        else segment.utf8ByteSize ≤ longestName ∧ Leads tree (here ++ [segment]) rest top) := by
  by_cases directory : tree.isDirectory here = true
  · simp only [directory, true_and]
    by_cases stays : segment = "" ∨ segment = "."
    · simp [Leads, follow, directory, stays]
    · by_cases up : segment = ".."
      · simp [Leads, follow, directory, up]
      · by_cases long : segment.utf8ByteSize > longestName
        · simp [Leads, follow, directory, stays, up, long, Nat.not_le.mpr long]
        · cases found : tree.get? (here ++ [segment]) with
          | none =>
              have nowhere : ¬ Leads tree (here ++ [segment]) rest top := by
                intro leads
                have present := FileTree.isSome_of_isDirectory leads.start
                simp [found] at present
              simp only [if_neg stays, if_neg up, nowhere, and_false, iff_false]
              intro leads
              simp [Leads, follow, directory, stays, up, long, found] at leads
          | some e =>
              simp [Leads, follow, directory, stays, up, long, found, Nat.not_lt.mp long]
  · constructor
    · exact fun leads => absurd leads.start directory
    · exact fun both => absurd both.1 directory

theorem unique {second : Place} (leads : Leads tree here segments top)
    (again : Leads tree here segments second) : top = second :=
  Except.ok.inj (leads.1.symm.trans again.1)

/-- Where a path leads, it still leads in a tree with the same directories and more. -/
theorem mono (kept : ∀ p, tree.isDirectory p = true → other.isDirectory p = true)
    (leads : Leads tree here segments top) : Leads other here segments top := by
  induction segments generalizing here with
  | nil =>
      obtain ⟨rfl, directory⟩ := nil_iff.mp leads
      exact nil_iff.mpr ⟨rfl, kept _ directory⟩
  | cons segment rest ih =>
      obtain ⟨directory, step⟩ := cons_iff.mp leads
      refine cons_iff.mpr ⟨kept _ directory, ?_⟩
      by_cases stays : segment = "" ∨ segment = "."
      · rw [if_pos stays] at step ⊢
        exact ih step
      · rw [if_neg stays] at step ⊢
        by_cases up : segment = ".."
        · rw [if_pos up] at step ⊢
          exact ih step
        · rw [if_neg up] at step ⊢
          exact ⟨step.1, ih step.2⟩

theorem congr (same : ∀ p, tree.isDirectory p = other.isDirectory p) :
    Leads tree here segments top ↔ Leads other here segments top :=
  ⟨mono fun p directory => same p ▸ directory, mono fun p directory => (same p).symm ▸ directory⟩

/-- Without going up, segments lead to a directory in every tree in which it is one. -/
theorem of_rooted (rooted : other.Rooted) (descends : ∀ segment ∈ segments, segment ≠ "..")
    (directory : other.isDirectory top = true) (leads : Leads tree here segments top) :
    Leads other here segments top := by
  induction segments generalizing here with
  | nil =>
      obtain ⟨rfl, _⟩ := nil_iff.mp leads
      exact nil_iff.mpr ⟨rfl, directory⟩
  | cons segment rest ih =>
      obtain ⟨notUp, descendsRest⟩ := List.forall_mem_cons.mp descends
      obtain ⟨_, step⟩ := cons_iff.mp leads
      rw [cons_iff]
      by_cases stays : segment = "" ∨ segment = "."
      · rw [if_pos stays] at step ⊢
        exact ⟨(ih descendsRest step).start, ih descendsRest step⟩
      · rw [if_neg stays, if_neg notUp] at step ⊢
        have inner := ih descendsRest step.2
        exact ⟨rooted here segment (FileTree.isSome_of_isDirectory inner.start), step.1, inner⟩

theorem append_iff {first second : List String} :
    Leads tree here (first ++ second) top ↔
      ∃ middle, Leads tree here first middle ∧ Leads tree middle second top := by
  induction first generalizing here with
  | nil =>
      constructor
      · exact fun leads => ⟨here, nil_iff.mpr ⟨rfl, leads.start⟩, leads⟩
      · rintro ⟨middle, before, after⟩
        obtain ⟨rfl, _⟩ := nil_iff.mp before
        exact after
  | cons segment rest ih =>
      simp only [List.cons_append, cons_iff]
      by_cases directory : tree.isDirectory here = true
      · simp only [directory, true_and]
        split
        · exact ih
        · split
          · exact ih
          · simp only [ih, and_assoc, exists_and_left]
      · simp [directory]

/-- A path that leads to a directory can be continued by the name of a directory in it. -/
theorem append_name {name : String} (leads : Leads tree here segments top)
    (proper : isName name = true) (short : name.utf8ByteSize ≤ longestName)
    (directory : tree.isDirectory (top ++ [name]) = true) :
    Leads tree here (segments ++ [name]) (top ++ [name]) := by
  simp only [isName, Bool.and_eq_true, bne_iff_ne] at proper
  refine append_iff.mpr ⟨top, leads, ?_⟩
  rw [cons_iff, if_neg (not_or.mpr proper.1), if_neg proper.2]
  exact ⟨leads.2, short, nil_iff.mpr ⟨rfl, directory⟩⟩

/-- Segments that neither stay nor go up lead to the place that they spell. -/
theorem eq_append (descends : ∀ segment ∈ segments, isName segment = true)
    (leads : Leads tree here segments top) : top = here ++ segments := by
  induction segments generalizing here with
  | nil => rw [(nil_iff.mp leads).1, List.append_nil]
  | cons segment rest ih =>
      obtain ⟨descendsFirst, descendsRest⟩ := List.forall_mem_cons.mp descends
      simp only [isName, Bool.and_eq_true, bne_iff_ne] at descendsFirst
      have step := (cons_iff.mp leads).2
      rw [if_neg (not_or.mpr descendsFirst.1), if_neg descendsFirst.2] at step
      rw [ih descendsRest step.2, List.append_assoc, List.singleton_append]

/-- Segments lead up from where they start, and from there on through some of the names in them. -/
theorem eq_take_append (leads : Leads tree here segments top) :
    ∃ n more, top = here.take n ++ more ∧ more.Sublist segments := by
  induction segments generalizing here with
  | nil =>
      obtain ⟨rfl, _⟩ := nil_iff.mp leads
      exact ⟨here.length, [], by simp, .slnil⟩
  | cons segment rest ih =>
      have step := (cons_iff.mp leads).2
      split at step
      · obtain ⟨n, more, split, sublist⟩ := ih step
        exact ⟨n, more, split, sublist.cons segment⟩
      · split at step
        · obtain ⟨n, more, split, sublist⟩ := ih step
          rw [List.dropLast_eq_take, List.take_take] at split
          exact ⟨_, more, split, sublist.cons segment⟩
        · obtain ⟨n, more, split, sublist⟩ := ih step.2
          by_cases inside : n ≤ here.length
          · rw [List.take_append_of_le_length inside] at split
            exact ⟨n, more, split, sublist.cons segment⟩
          · have whole : (here ++ [segment]).take n = here ++ [segment] :=
              List.take_of_length_le (by simp; omega)
            rw [whole, List.append_assoc] at split
            exact ⟨here.length, segment :: more, by rw [List.take_length]; exact split,
              sublist.cons_cons segment⟩

/-- Segments that stay where they are make no difference. -/
theorem filter_moves_iff :
    Leads tree here (segments.filter Path.moves) top ↔ Leads tree here segments top := by
  induction segments generalizing here with
  | nil => rfl
  | cons segment rest ih =>
      by_cases stays : segment = "" ∨ segment = "."
      · have still : Path.moves segment = false := by
          rcases stays with rfl | rfl <;> decide
        rw [List.filter_cons_of_neg (by simp [still]), ih, cons_iff, if_pos stays]
        exact ⟨fun leads => ⟨leads.start, leads⟩, And.right⟩
      · have moving : Path.moves segment = true := by
          simpa [Path.moves, not_or] using stays
        rw [List.filter_cons_of_pos moving, cons_iff, cons_iff, ih, ih, ih]

end Leads

/-! ## Places for new entries -/

theorem lookAbove_eq_ok_iff {tree : FileTree} {start above : Place} {segments : List String}
    {name : String} :
    lookAbove tree start segments = .ok (above, name) ↔
      Leads tree start segments.dropLast above ∧ segments.getLastD "" = name := by
  unfold lookAbove Leads
  cases follow tree start segments.dropLast with
  | error why => simp
  | ok place =>
      by_cases directory : tree.isDirectory place = true
      · simp only [directory, if_true, Except.ok.injEq, Prod.mk.injEq]
        constructor
        · rintro ⟨rfl, named⟩
          exact ⟨⟨rfl, directory⟩, named⟩
        · rintro ⟨⟨rfl, _⟩, named⟩
          exact ⟨rfl, named⟩
      · simp only [directory, Bool.false_eq_true, if_false, reduceCtorEq, false_iff]
        rintro ⟨⟨same, there⟩, _⟩
        cases same
        exact directory there

/-- What a place for a file is refused for, once the directory above it is found. -/
def fileRefusal? (tree : FileTree) (above : Place) (name : String) : Option Refusal :=
  if !isName name then some .isDirectory
  else if name.utf8ByteSize > longestName then some .nameTooLong
  else if tree.isDirectory (above ++ [name]) then some .isDirectory
  else none

theorem placeForFile_of_leads {tree : FileTree} {start above : Place} {segments : List String}
    (leads : Leads tree start segments.dropLast above) :
    placeForFile tree start segments =
      match fileRefusal? tree above (segments.getLastD "") with
      | some why => .error why
      | none => .ok (above ++ [segments.getLastD ""]) := by
  rw [placeForFile, lookAbove_eq_ok_iff.mpr ⟨leads, rfl⟩, fileRefusal?]
  dsimp only
  split
  · rfl
  · split
    · rfl
    · split <;> rfl

theorem placeForFile_eq_ok_iff {tree : FileTree} {start place : Place} {segments : List String} :
    placeForFile tree start segments = .ok place ↔
      ∃ above, Leads tree start segments.dropLast above ∧
        fileRefusal? tree above (segments.getLastD "") = none ∧
        place = above ++ [segments.getLastD ""] := by
  constructor
  · intro placed
    cases found : lookAbove tree start segments with
    | error why => simp [placeForFile, found] at placed
    | ok pair =>
        obtain ⟨above, name⟩ := pair
        obtain ⟨leads, _⟩ := lookAbove_eq_ok_iff.mp found
        rw [placeForFile_of_leads leads] at placed
        refine ⟨above, leads, ?_⟩
        cases refused : fileRefusal? tree above (segments.getLastD "") with
        | some why =>
            rw [refused] at placed
            cases placed
        | none =>
            rw [refused] at placed
            exact ⟨rfl, (Except.ok.inj placed).symm⟩
  · rintro ⟨above, leads, free, rfl⟩
    rw [placeForFile_of_leads leads, free]

theorem fileRefusal?_congr {tree other : FileTree}
    (same : ∀ p, tree.isDirectory p = other.isDirectory p) (above : Place) (name : String) :
    fileRefusal? tree above name = fileRefusal? other above name := by
  simp only [fileRefusal?, same]

end EntityScribe.Workspace
