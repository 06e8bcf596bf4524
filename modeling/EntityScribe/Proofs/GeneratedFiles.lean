import EntityScribe.Proofs.FileTrees
import EntityScribe.Target

/-!
# Generated files below a place

A generated file is stale that stands below a place and is not locked. Sweeping a tree takes out of
it what is stale, and nothing else. A tree with some of that taken out has all its directories, and
all files besides.
-/

namespace EntityScribe

theorem Place.below?_eq_some_iff {p q rest : Place} :
    Place.below? p q = some rest ↔ q = p ++ rest ∧ rest ≠ [] := by
  induction p generalizing q with
  | nil =>
      by_cases empty : q = []
      · subst empty
        simp [Place.below?]
      · simp only [Place.below?, empty, if_false, Option.some.injEq, List.nil_append]
        constructor
        · rintro rfl
          exact ⟨rfl, empty⟩
        · exact And.left
  | cons a p ih =>
      cases q with
      | nil => simp [Place.below?]
      | cons b q =>
          by_cases same : a = b
          · simp [Place.below?, same, ih]
          · simp [Place.below?, same, Ne.symm same]

namespace Target

/-- Whether an entry goes when the directory at `top` is cleaned. -/
def stale (locked : List Place) (top place : Place) (e : Entry) : Bool :=
  match Place.below? top place with
  | some rest => isGenerated rest e && !locked.contains place
  | none => false

theorem stale_iff {locked : List Place} {top place : Place} {e : Entry} :
    stale locked top place e = true ↔
      ∃ rest, place = top ++ rest ∧ rest ≠ [] ∧ isGenerated rest e = true ∧ place ∉ locked := by
  unfold stale
  cases found : Place.below? top place with
  | none =>
      simp only [Bool.false_eq_true, false_iff, not_exists]
      rintro rest ⟨split, deeper, _⟩
      rw [Place.below?_eq_some_iff.mpr ⟨split, deeper⟩] at found
      cases found
  | some rest =>
      obtain ⟨split, deeper⟩ := Place.below?_eq_some_iff.mp found
      simp only [Bool.and_eq_true, Bool.not_eq_true', List.contains_eq_mem, decide_eq_false_iff_not]
      constructor
      · exact fun both => ⟨rest, split, deeper, both⟩
      · rintro ⟨other, again, _, both⟩
        obtain rfl : rest = other := List.append_cancel_left (split.symm.trans again)
        exact both

/-- The tree without the generated files below a place, the locked ones excepted. -/
def swept (locked : List Place) (top : Place) (t : FileTree) : FileTree :=
  ⟨t.entries.filter fun entry => !stale locked top entry.1 entry.2, t.distinct.filter _⟩

theorem entries_swept (locked : List Place) (top : Place) (t : FileTree) :
    (swept locked top t).entries =
      t.entries.filter fun entry => !stale locked top entry.1 entry.2 := rfl

theorem get?_swept {locked : List Place} {top q : Place} {t : FileTree} {e : Entry} :
    (swept locked top t).get? q = some e ↔
      t.get? q = some e ∧ stale locked top q e = false := by
  by_cases below : q = []
  · subst below
    have kept : stale locked top [] e = false := by
      cases top <;> rfl
    simp [kept]
  · rw [← FileTree.mem_entries_iff below, ← FileTree.mem_entries_iff below, swept, List.mem_filter,
      Bool.not_eq_true']

theorem file?_swept {locked : List Place} {top q : Place} {t : FileTree} {content : ByteArray} :
    (swept locked top t).file? q = some content ↔
      t.file? q = some content ∧ stale locked top q (.file content) = false := by
  rw [FileTree.file?_eq_some, FileTree.file?_eq_some, get?_swept]

/-- The second tree is the first without some of the generated files below a place, the locked ones
excepted. -/
structure Thinned (locked : List Place) (top : Place) (t u : FileTree) : Prop where
  before : ∀ p e, u.get? p = some e → t.get? p = some e
  kept : ∀ p e, t.get? p = some e → stale locked top p e = false → u.get? p = some e

theorem thinned_swept (locked : List Place) (top : Place) (t : FileTree) :
    Thinned locked top t (swept locked top t) where
  before _ _ there := (get?_swept.mp there).1
  kept _ _ there stays := get?_swept.mpr ⟨there, stays⟩

namespace Thinned

variable {locked : List Place} {top p : Place} {t u : FileTree}

theorem refl (locked : List Place) (top : Place) (t : FileTree) : Thinned locked top t t :=
  ⟨fun _ _ => id, fun _ _ there _ => there⟩

theorem isDirectory (thinned : Thinned locked top t u) (p : Place) :
    u.isDirectory p = t.isDirectory p := by
  have stays : stale locked top p .directory = false := by
    unfold stale
    split <;> rfl
  rw [Bool.eq_iff_iff, FileTree.isDirectory_iff, FileTree.isDirectory_iff]
  exact ⟨thinned.before p _, fun there => thinned.kept p _ there stays⟩

/-- A file is as it was, or it is stale and gone. -/
theorem file?_cases (thinned : Thinned locked top t u) (p : Place) :
    u.file? p = t.file? p ∨
      u.file? p = none ∧ ∃ content, stale locked top p (.file content) = true := by
  cases found : t.file? p with
  | none =>
      left
      rw [Option.eq_none_iff_forall_ne_some] at found ⊢
      intro content there
      exact found content
        (FileTree.file?_eq_some.mpr (thinned.before p _ (FileTree.file?_eq_some.mp there)))
  | some content =>
      have there := FileTree.file?_eq_some.mp found
      cases goes : stale locked top p (.file content) with
      | false => exact .inl (FileTree.file?_eq_some.mpr (thinned.kept p _ there goes))
      | true =>
          cases after : u.file? p with
          | none => exact .inr ⟨rfl, content, goes⟩
          | some other =>
              have same := thinned.before p _ (FileTree.file?_eq_some.mp after)
              cases there.symm.trans same
              exact .inl rfl

theorem rooted (thinned : Thinned locked top t u) (rooted : t.Rooted) : u.Rooted := by
  intro p name present
  obtain ⟨e, there⟩ := Option.isSome_iff_exists.mp present
  rw [thinned.isDirectory]
  exact rooted p name (Option.isSome_iff_exists.mpr ⟨e, thinned.before _ _ there⟩)

end Thinned

/-- No directory goes. -/
theorem isDirectory_swept (locked : List Place) (top : Place) (t : FileTree) (q : Place) :
    (swept locked top t).isDirectory q = t.isDirectory q :=
  (thinned_swept locked top t).isDirectory q

/-- Whether a file is stale does not depend on what it holds. -/
theorem stale_file_congr (locked : List Place) (top place : Place) (a b : ByteArray) :
    stale locked top place (.file a) = stale locked top place (.file b) := rfl

/-- A file that goes with the others can as well be put in before. -/
theorem swept_put {locked : List Place} {top p : Place} {t : FileTree} {content : ByteArray}
    (below : p ≠ []) (free : t.isDirectory p = false)
    (goes : stale locked top p (.file content) = true) :
    swept locked top (t.put p (.file content)) = swept locked top t := by
  refine FileTree.ext ?_
  rw [entries_swept, entries_swept, FileTree.entries_put, List.filter_cons_of_neg (by simp [goes]),
    List.filter_filter]
  refine List.filter_congr ?_
  rintro ⟨place, e⟩ member
  by_cases here : place = p
  · subst here
    have there := (FileTree.mem_entries_iff below).mp member
    cases e with
    | directory =>
        rw [FileTree.isDirectory_iff.mpr there] at free
        cases free
    | file other => rw [stale_file_congr locked top place other content, goes, Bool.not_true,
        Bool.false_and]
  · simp [here]

theorem swept_putFiles {locked : List Place} {top : Place} {t : FileTree}
    {files : List (Place × ByteArray)} (placeable : t.Placeable files)
    (go : ∀ file ∈ files, stale locked top file.1 (.file file.2) = true) :
    swept locked top (t.putFiles files) = swept locked top t := by
  induction files generalizing t with
  | nil => rfl
  | cons file rest ih =>
      obtain ⟨⟨below, free⟩, _⟩ := List.forall_mem_cons.mp placeable
      obtain ⟨goes, goRest⟩ := List.forall_mem_cons.mp go
      exact (ih (placeable.tail) goRest).trans (swept_put below free goes)

/-! ## What stands below a directory -/

theorem mem_below {t : FileTree} {top rest : Place} {e : Entry} :
    (rest, e) ∈ t.below top ↔ rest ≠ [] ∧ t.get? (top ++ rest) = some e := by
  rw [FileTree.below, List.mem_filterMap]
  constructor
  · rintro ⟨⟨place, d⟩, member, split⟩
    obtain ⟨found, same, split⟩ := Option.map_eq_some_iff.mp split
    obtain ⟨rfl, rfl⟩ := Prod.mk.inj split
    obtain ⟨rfl, deeper⟩ := Place.below?_eq_some_iff.mp same
    exact ⟨deeper, (FileTree.mem_entries_iff (by simp [deeper])).mp member⟩
  · rintro ⟨deeper, there⟩
    refine ⟨(top ++ rest, e), (FileTree.mem_entries_iff (by simp [deeper])).mpr there, ?_⟩
    dsimp only
    rw [Place.below?_eq_some_iff.mpr ⟨rfl, deeper⟩]
    rfl

theorem mem_placesBelow {t : FileTree} {top rest : Place} {chosen : Place → Entry → Bool} :
    rest ∈ placesBelow t top chosen ↔
      rest ≠ [] ∧ ∃ e, t.get? (top ++ rest) = some e ∧ chosen rest e = true := by
  rw [placesBelow, mem_sortBy, List.mem_filterMap]
  constructor
  · rintro ⟨⟨other, e⟩, listed, taken⟩
    obtain ⟨deeper, there⟩ := mem_below.mp listed
    dsimp only at taken
    split at taken
    · next isChosen =>
        cases taken
        exact ⟨deeper, e, there, isChosen⟩
    · cases taken
  · rintro ⟨deeper, e, there, isChosen⟩
    exact ⟨(rest, e), mem_below.mpr ⟨deeper, there⟩, by simp [isChosen]⟩

theorem mem_generatedBelow {t : FileTree} {top rest : Place} :
    rest ∈ generatedBelow t top ↔
      rest ≠ [] ∧ ∃ e, t.get? (top ++ rest) = some e ∧ isGenerated rest e = true :=
  mem_placesBelow

theorem mem_directoriesBelow {t : FileTree} {top rest : Place} :
    rest ∈ directoriesBelow t top ↔ rest ≠ [] ∧ t.isDirectory (top ++ rest) = true := by
  rw [directoriesBelow, mem_placesBelow, FileTree.isDirectory_iff]
  refine and_congr_right fun _ => ⟨?_, fun there => ⟨.directory, there, rfl⟩⟩
  rintro ⟨_ | content, there, isDirectory⟩
  · exact there
  · cases isDirectory

/-- A regular file with the ending of generated files stands below a place. -/
def GeneratedAt (t : FileTree) (top rest : Place) : Prop :=
  rest ≠ [] ∧ Artifact.fileEnding.toList <:+ (rest.getLastD "").toList ∧
    ∃ content, t.get? (top ++ rest) = some (.file content)

theorem mem_generatedBelow_iff {t : FileTree} {top rest : Place} :
    rest ∈ generatedBelow t top ↔ GeneratedAt t top rest := by
  simp only [mem_generatedBelow, GeneratedAt, isGenerated, Bool.and_eq_true,
    List.isSuffixOf_iff_suffix]
  constructor
  · rintro ⟨deeper, e, there, isFile, ends⟩
    cases e with
    | directory => cases isFile
    | file content => exact ⟨deeper, ends, content, there⟩
  · rintro ⟨deeper, ends, content, there⟩
    exact ⟨deeper, .file content, there, rfl, ends⟩

/-- What is gone of the generated files stood below the place, unless it is locked. -/
theorem stale_iff_generatedAt {locked : List Place} {t : FileTree} {top place : Place} {e : Entry}
    (there : t.get? place = some e) :
    stale locked top place e = true ↔
      ∃ rest, place = top ++ rest ∧ GeneratedAt t top rest ∧ place ∉ locked := by
  rw [stale_iff]
  constructor
  · rintro ⟨rest, rfl, deeper, generated, free⟩
    exact ⟨rest, rfl, mem_generatedBelow_iff.mp
      (mem_generatedBelow.mpr ⟨deeper, e, there, generated⟩), free⟩
  · rintro ⟨rest, rfl, generated, free⟩
    obtain ⟨deeper, other, same, ends⟩ :=
      mem_generatedBelow.mp (mem_generatedBelow_iff.mpr generated)
    cases there.symm.trans same
    exact ⟨rest, rfl, deeper, ends, free⟩

/-- Sweeping changes nothing just where no generated file stands below the place, if none is
locked. -/
theorem swept_eq_self_iff {top : Place} {t : FileTree} :
    swept [] top t = t ↔ ∀ rest, ¬ GeneratedAt t top rest := by
  constructor
  · rintro same rest ⟨deeper, ends, content, there⟩
    have goes : stale [] top (top ++ rest) (.file content) = true :=
      (stale_iff_generatedAt there).mpr
        ⟨rest, rfl, ⟨deeper, ends, content, there⟩, List.not_mem_nil⟩
    rw [← same, get?_swept, goes] at there
    cases there.2
  · intro none
    refine FileTree.ext (List.filter_eq_self.mpr ?_)
    rintro ⟨place, e⟩ member
    rw [Bool.not_eq_true', Bool.eq_false_iff]
    dsimp only
    intro goes
    obtain ⟨rest, rfl, deeper, _⟩ := stale_iff.mp goes
    have there := (FileTree.mem_entries_iff (by simp [deeper])).mp member
    obtain ⟨other, _, generated, _⟩ := (stale_iff_generatedAt there).mp goes
    exact none other generated

/-! ## Taking out some places -/

/-- The tree without what stands at some places below another, the locked ones excepted. -/
def without (locked : List Place) (top : Place) (places : List Place) (t : FileTree) : FileTree :=
  ⟨t.entries.filter fun entry =>
      !(places.any fun rest => entry.1 == top ++ rest && !locked.contains entry.1),
    t.distinct.filter _⟩

theorem entries_without (locked : List Place) (top : Place) (places : List Place) (t : FileTree) :
    (without locked top places t).entries = t.entries.filter fun entry =>
      !(places.any fun rest => entry.1 == top ++ rest && !locked.contains entry.1) := rfl

theorem without_nil (locked : List Place) (top : Place) (t : FileTree) :
    without locked top [] t = t :=
  FileTree.ext (List.filter_eq_self.mpr fun _ _ => rfl)

/-- A locked file stays. -/
theorem without_cons_of_locked {locked : List Place} {top rest : Place} {places : List Place}
    {t : FileTree} (isLocked : top ++ rest ∈ locked) :
    without locked top (rest :: places) t = without locked top places t := by
  refine FileTree.ext (List.filter_congr fun entry _ => ?_)
  rw [List.any_cons]
  by_cases here : entry.1 = top ++ rest
  · simp [here, isLocked]
  · simp [beq_false_of_ne here]

theorem without_erase {locked : List Place} {top rest : Place} {places : List Place}
    {t : FileTree} (free : top ++ rest ∉ locked) :
    without locked top places (t.erase (top ++ rest)) = without locked top (rest :: places) t := by
  refine FileTree.ext ?_
  rw [entries_without, entries_without, FileTree.erase, List.filter_filter]
  refine List.filter_congr fun entry _ => ?_
  rw [List.any_cons]
  by_cases here : entry.1 = top ++ rest
  · simp [here, free]
  · simp [here, beq_false_of_ne here]

theorem get?_without {locked : List Place} {top p : Place} {places : List Place} {t : FileTree}
    {e : Entry} (below : p ≠ []) :
    (without locked top places t).get? p = some e ↔
      t.get? p = some e ∧ ¬ ∃ rest ∈ places, p = top ++ rest ∧ p ∉ locked := by
  rw [← FileTree.mem_entries_iff below, ← FileTree.mem_entries_iff below, entries_without,
    List.mem_filter]
  simp only [Bool.not_eq_true', Bool.eq_false_iff, ne_eq, List.any_eq_true, Bool.and_eq_true,
    beq_iff_eq, List.contains_eq_mem, decide_eq_true_iff]

theorem without_generatedBelow (locked : List Place) (top : Place) (t : FileTree) :
    without locked top (generatedBelow t top) t = swept locked top t := by
  refine FileTree.ext (List.filter_congr ?_)
  rintro ⟨place, e⟩ member
  rw [Bool.not_inj_iff, Bool.eq_iff_iff, List.any_eq_true, stale_iff]
  simp only [Bool.and_eq_true, beq_iff_eq, Bool.not_eq_true', List.contains_eq_mem,
    decide_eq_false_iff_not]
  constructor
  · rintro ⟨rest, listed, rfl, isFree⟩
    obtain ⟨deeper, found, there, generated⟩ := mem_generatedBelow.mp listed
    have below : top ++ rest ≠ [] := by simp [deeper]
    rw [(FileTree.mem_entries_iff below).mp member] at there
    cases there
    exact ⟨rest, rfl, deeper, generated, isFree⟩
  · rintro ⟨rest, rfl, deeper, generated, isFree⟩
    have below : top ++ rest ≠ [] := by simp [deeper]
    exact ⟨rest, mem_generatedBelow.mpr
      ⟨deeper, e, (FileTree.mem_entries_iff below).mp member, generated⟩, rfl, isFree⟩

/-- Taking out some of the generated files thins a tree. -/
theorem thinned_without (locked : List Place) {top : Place} {places : List Place} {t : FileTree}
    (generated : places ⊆ generatedBelow t top) :
    Thinned locked top t (without locked top places t) := by
  refine ⟨fun p e there => ?_, fun p e there stays => ?_⟩
  · by_cases below : p = []
    · subst below
      exact there
    · exact ((get?_without below).mp there).1
  · by_cases below : p = []
    · subst below
      exact there
    · refine (get?_without below).mpr ⟨there, ?_⟩
      rintro ⟨rest, member, split, free⟩
      have goes := (stale_iff_generatedAt there).mpr
        ⟨rest, split, mem_generatedBelow_iff.mp (generated member), free⟩
      cases stays.symm.trans goes

end Target

end EntityScribe
