import EntityScribe.FileTree

/-!
# Facts about file trees

What stands at a place after entries have been put into a tree or taken out of it, read once as
directories and once as files.
-/

namespace EntityScribe.FileTree

/-- The content of the file at a place. -/
def file? (t : FileTree) (p : Place) : Option ByteArray :=
  match t.get? p with
  | some (.file content) => some content
  | _ => none

/-- Every entry stands in a directory, as it does in any file system. -/
def Rooted (t : FileTree) : Prop :=
  ∀ (p : Place) (name : String), (t.get? (p ++ [name])).isSome → t.isDirectory p = true

variable {t : FileTree} {p q : Place}

theorem isDirectory_iff : t.isDirectory p = true ↔ t.get? p = some .directory := by
  simp [isDirectory]

theorem file?_eq_some {content : ByteArray} :
    t.file? p = some content ↔ t.get? p = some (.file content) := by
  unfold file?
  split <;> simp_all

theorem isSome_of_isDirectory (directory : t.isDirectory p = true) : (t.get? p).isSome := by
  rw [isDirectory_iff.mp directory]
  rfl

/-- Below the root, the entries of a tree are just what stands at its places. -/
theorem mem_entries_iff {e : Entry} (below : p ≠ []) : (p, e) ∈ t.entries ↔ t.get? p = some e := by
  rw [get?, if_neg below]
  obtain ⟨entries, distinct⟩ := t
  induction entries with
  | nil => simp
  | cons first rest ih =>
      obtain ⟨r, d⟩ := first
      obtain ⟨apart, restDistinct⟩ := List.pairwise_cons.mp distinct
      by_cases here : p = r
      · subst here
        have notLater : (p, e) ∉ rest := fun later => apart _ later rfl
        simp [notLater, eq_comm]
      · have other : (p == r) = false := beq_false_of_ne here
        simp [List.lookup_cons, other, here, ih restDistinct]

/-! ## Putting in and taking out -/

theorem file?_put_directory (below : p ≠ []) (absent : t.get? p = none) (q : Place) :
    (t.put p .directory).file? q = t.file? q := by
  rw [file?, get?_put t below]
  by_cases same : q = p
  · subst same
    simp [file?, absent]
  · simp [same, file?]

theorem isDirectory_put_directory (below : p ≠ []) (q : Place) :
    (t.put p .directory).isDirectory q = (decide (q = p) || t.isDirectory q) := by
  rw [isDirectory, get?_put t below]
  by_cases same : q = p <;> simp [same, isDirectory]

/-- A file takes no directory's place. -/
theorem isDirectory_put_file (below : p ≠ []) (free : t.isDirectory p = false)
    (content : ByteArray) (q : Place) :
    (t.put p (.file content)).isDirectory q = t.isDirectory q := by
  rw [isDirectory, get?_put t below]
  by_cases same : q = p
  · subst same
    simp [free]
  · simp [same, isDirectory]

theorem entries_put (t : FileTree) (p : Place) (e : Entry) :
    (t.put p e).entries = (p, e) :: t.entries.filter (·.1 != p) := rfl

/-! ## Many files -/

/-- The tree with files put in one after the other, so that later ones win. -/
def putFiles (t : FileTree) (files : List (Place × ByteArray)) : FileTree :=
  files.foldl (fun tree file => tree.put file.1 (.file file.2)) t

theorem putFiles_append (t : FileTree) (first second : List (Place × ByteArray)) :
    t.putFiles (first ++ second) = (t.putFiles first).putFiles second :=
  List.foldl_append

/-- Files that may be put into a tree: below its root, and none in a directory's place. -/
def Placeable (t : FileTree) (files : List (Place × ByteArray)) : Prop :=
  ∀ file ∈ files, file.1 ≠ [] ∧ t.isDirectory file.1 = false

theorem Placeable.tail {file : Place × ByteArray} {rest : List (Place × ByteArray)}
    (placeable : t.Placeable (file :: rest)) : (t.put file.1 (.file file.2)).Placeable rest := by
  obtain ⟨⟨below, free⟩, others⟩ := List.forall_mem_cons.mp placeable
  intro other member
  rw [isDirectory_put_file below free]
  exact others other member

theorem isDirectory_putFiles {files : List (Place × ByteArray)} (placeable : t.Placeable files)
    (q : Place) : (t.putFiles files).isDirectory q = t.isDirectory q := by
  induction files generalizing t with
  | nil => rfl
  | cons file rest ih =>
      obtain ⟨below, free⟩ := placeable file List.mem_cons_self
      exact (ih placeable.tail).trans (isDirectory_put_file below free file.2 q)

/-- Where files have been put in, the one that was put there last stands; every other place is as
before. -/
theorem get?_putFiles {files : List (Place × ByteArray)} (below : ∀ file ∈ files, file.1 ≠ [])
    (q : Place) :
    (t.putFiles files).get? q = ((files.reverse.lookup q).map Entry.file).or (t.get? q) := by
  induction files generalizing t with
  | nil => rfl
  | cons file rest ih =>
      obtain ⟨place, content⟩ := file
      obtain ⟨belowFile, belowRest⟩ := List.forall_mem_cons.mp below
      rw [putFiles, List.foldl_cons, ← putFiles, ih belowRest, get?_put t belowFile,
        List.reverse_cons, List.lookup_append, Option.map_or, Option.or_assoc]
      congr 1
      by_cases same : q = place
      · simp [same]
      · simp [List.lookup_cons, same, beq_false_of_ne same]

/-- A file that has been put in holds what was put there last. -/
theorem file?_putFiles {files : List (Place × ByteArray)} (below : ∀ file ∈ files, file.1 ≠ [])
    (q : Place) : (t.putFiles files).file? q = (files.reverse.lookup q).or (t.file? q) := by
  rw [file?, file?, get?_putFiles below]
  cases files.reverse.lookup q <;> rfl

/-- Files that are put in come to stand in front of what is left of the tree. -/
theorem entries_putFiles (t : FileTree) (files : List (Place × ByteArray)) :
    (t.putFiles files).entries = (empty.putFiles files).entries ++
      t.entries.filter fun entry => !(files.map (·.1)).contains entry.1 := by
  induction files generalizing t with
  | nil => exact (List.filter_eq_self.mpr fun _ _ => rfl).symm
  | cons file rest ih =>
      have others : (t.entries.filter (·.1 != file.1)).filter
            (fun entry => !(rest.map (·.1)).contains entry.1) =
          t.entries.filter fun entry => !((file :: rest).map (·.1)).contains entry.1 := by
        rw [List.filter_filter]
        refine List.filter_congr fun entry _ => ?_
        rw [List.map_cons, List.contains_cons, Bool.not_or, Bool.and_comm]
        rfl
      have step := ih (t.put file.1 (.file file.2))
      have alone := ih (empty.put file.1 (.file file.2))
      rw [entries_put, ← List.singleton_append, List.filter_append] at step alone
      rw [putFiles, putFiles, List.foldl_cons, List.foldl_cons, ← putFiles, ← putFiles, step, alone,
        others, show empty.entries = [] from rfl, List.filter_nil, List.filter_nil, List.append_nil,
        List.append_assoc]

theorem fst_mem_of_mem_putFiles {files : List (Place × ByteArray)} {entry : Place × Entry}
    (member : entry ∈ (t.putFiles files).entries) :
    entry.1 ∈ files.map (·.1) ∨ entry ∈ t.entries := by
  induction files generalizing t with
  | nil => exact .inr member
  | cons file rest ih =>
      rw [List.map_cons, List.mem_cons]
      rcases ih (t := t.put file.1 (.file file.2)) member with later | before
      · exact .inl (.inr later)
      · rw [entries_put, List.mem_cons, List.mem_filter] at before
        rcases before with rfl | ⟨there, _⟩
        · exact .inl (.inl rfl)
        · exact .inr there

/-! ## Rooted trees -/

theorem rooted_empty : Rooted empty := by
  intro p name present
  simp [get?, empty] at present

theorem Rooted.put {name : String} (rooted : t.Rooted) (above : t.isDirectory p = true) (e : Entry)
    (free : e = .directory ∨ t.isDirectory (p ++ [name]) = false) :
    (t.put (p ++ [name]) e).Rooted := by
  have below : p ++ [name] ≠ [] := by simp
  have keeps : ∀ r, t.isDirectory r = true → (t.put (p ++ [name]) e).isDirectory r = true := by
    intro r directory
    cases e with
    | directory => rw [isDirectory_put_directory below, directory, Bool.or_true]
    | file content =>
        have free := free.resolve_left Entry.noConfusion
        rw [isDirectory_put_file below free, directory]
  intro r other present
  rw [get?_put t below] at present
  by_cases same : r ++ [other] = p ++ [name]
  · obtain ⟨rfl, _⟩ := List.append_inj' same rfl
    exact keeps _ above
  · rw [if_neg same] at present
    exact keeps _ (rooted r other present)

/-- Files that are put into directories leave a rooted tree rooted. -/
theorem Rooted.putFiles {files : List (Place × ByteArray)} (rooted : t.Rooted)
    (placeable : t.Placeable files)
    (inside : ∀ file ∈ files, ∃ above name, file.1 = above ++ [name] ∧ t.isDirectory above = true) :
    (t.putFiles files).Rooted := by
  induction files generalizing t with
  | nil => exact rooted
  | cons file rest ih =>
      obtain ⟨place, content⟩ := file
      obtain ⟨⟨below, free⟩, _⟩ := List.forall_mem_cons.mp placeable
      obtain ⟨⟨above, name, rfl, there⟩, insideRest⟩ := List.forall_mem_cons.mp inside
      refine ih ?_ placeable.tail ?_
      · exact rooted.put there (.file content) (.inr free)
      · intro other member
        obtain ⟨p, last, split, stands⟩ := insideRest other member
        exact ⟨p, last, split, by rwa [isDirectory_put_file below free]⟩

/-- Below a place where no directory stands there is nothing. -/
theorem Rooted.get?_append (rooted : t.Rooted) (missing : t.isDirectory p = false)
    {rest : Place} (deeper : rest ≠ []) : t.get? (p ++ rest) = none := by
  obtain ⟨first, more, rfl⟩ := List.exists_cons_of_ne_nil deeper
  clear deeper
  induction more generalizing p first with
  | nil =>
      cases found : t.get? (p ++ [first]) with
      | none => rfl
      | some e => rw [rooted p first (by simp [found])] at missing; cases missing
  | cons second more ih =>
      have missingFirst : t.isDirectory (p ++ [first]) = false := by
        cases directory : t.isDirectory (p ++ [first]) with
        | false => rfl
        | true => rw [rooted p first (isSome_of_isDirectory directory)] at missing; cases missing
      have inner := ih missingFirst second
      rwa [List.append_assoc] at inner

end EntityScribe.FileTree
