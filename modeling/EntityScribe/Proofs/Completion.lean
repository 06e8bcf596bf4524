import EntityScribe.Proofs.Resolution
import Mathlib.Data.List.DropRight

/-!
# The completion of a target directory

A target directory is cut into segments at slashes and at backslashes. What is added to it is the
least that makes it end in a slash and in the name of the directory for generated files. Separators
at its end are no segments, but only slashes are left aside where the last segment is looked for: a
backslash behind the name hides it, and the name is added once more.
-/

namespace EntityScribe.Target

/-- A slash or a backslash. -/
def IsSeparator (c : Char) : Prop :=
  c = '/' ∨ c = '\\'

instance : DecidablePred IsSeparator :=
  fun c => inferInstanceAs (Decidable (c = '/' ∨ c = '\\'))

/-- The parts of a text between separators. -/
def parts (cs : List Char) : List (List Char) :=
  cs.splitOnP fun c => decide (IsSeparator c)

/-- The parts that are not empty. -/
def filledParts (cs : List Char) : List (List Char) :=
  (parts cs).filter (· ≠ [])

/-- The segments of a path, without the empty ones. -/
def segments (path : String) : List String :=
  (filledParts path.toList).map String.ofList

/-- The last part is the name of the directory for generated files, slashes behind it left aside. -/
def Named (cs : List Char) : Prop :=
  (parts (cs.rdropWhile (· == '/'))).getLast? = some directoryName.toList

instance (cs : List Char) : Decidable (Named cs) :=
  inferInstanceAs (Decidable (_ = _))

/-- The path ends in a slash. -/
def Closed (path : String) : Prop :=
  ∃ front, path = front ++ "/"

/-! ## Parts -/

variable {cs trail : List Char} {path : String}

theorem parts_append_cons {c : Char} (separates : IsSeparator c) (front rest : List Char) :
    parts (front ++ c :: rest) = parts front ++ parts rest :=
  List.splitOnP_append_cons front rest (by simpa using separates)

theorem filledParts_append_cons {c : Char} (separates : IsSeparator c) (front rest : List Char) :
    filledParts (front ++ c :: rest) = filledParts front ++ filledParts rest := by
  rw [filledParts, parts_append_cons separates, List.filter_append, filledParts, filledParts]

theorem filledParts_of_separators (separators : ∀ c ∈ trail, IsSeparator c) :
    filledParts trail = [] := by
  induction trail with
  | nil => rfl
  | cons c rest ih =>
      have split := filledParts_append_cons (separators c List.mem_cons_self) [] rest
      rw [ih fun d member => separators d (List.mem_cons_of_mem c member)] at split
      exact split

/-- Separators at the end add no segment. -/
theorem filledParts_append_separators (cs : List Char) (separators : ∀ c ∈ trail, IsSeparator c) :
    filledParts (cs ++ trail) = filledParts cs := by
  cases trail with
  | nil => rw [List.append_nil]
  | cons c rest =>
      rw [filledParts_append_cons (separators c List.mem_cons_self),
        filledParts_of_separators fun d member => separators d (List.mem_cons_of_mem c member),
        List.append_nil]

theorem segments_append_separators (path : String) {trail : String}
    (separators : ∀ c ∈ trail.toList, IsSeparator c) :
    segments (path ++ trail) = segments path := by
  rw [segments, String.toList_append, filledParts_append_separators _ separators, segments]

/-- To cut at both separators is to cut at slashes once backslashes have become slashes. -/
theorem splitChars_unifySeparators (cs : List Char) :
    Text.splitChars '/' (unifySeparators cs) = parts cs := by
  induction cs with
  | nil => rfl
  | cons c rest ih =>
      have cut := List.splitOnP_cons_eq_if_modifyHead (p := fun c => decide (IsSeparator c)) c rest
      rw [parts, cut, ← parts, ← ih, unifySeparators, List.map_cons, ← unifySeparators,
        Text.splitChars]
      obtain ⟨first, more, split⟩ := List.exists_cons_of_ne_nil
        (Text.splitChars_ne_nil '/' (unifySeparators rest))
      by_cases back : c = '\\'
      · simp [IsSeparator, back]
      · by_cases slash : c = '/' <;> simp [IsSeparator, back, slash, split]

/-! ## The last segment -/

theorem lastSegment_eq_iff : lastSegment path = directoryName ↔ Named path.toList := by
  have some : parts (withoutSeparators path.toList) ≠ [] := List.splitOnP_ne_nil _ _
  rw [lastSegment, splitChars_unifySeparators, List.getLastD_eq_getLast?, Named]
  change _ ↔ (parts (withoutSeparators path.toList)).getLast? = _
  rw [List.getLast?_eq_some_getLast some, Option.getD_some, Option.some_inj, ← String.toList_inj,
    String.toList_ofList]

/-- Behind the name, slashes can stand but no backslash. -/
theorem named_append_iff (separators : ∀ c ∈ trail, IsSeparator c) :
    Named (cs ++ trail) ↔ Named cs ∧ '\\' ∉ trail := by
  induction trail using List.reverseRecOn with
  | nil => simp
  | append_singleton lead c ih =>
      have leading := ih fun d member => separators d (List.mem_append_left _ member)
      rw [← List.append_assoc]
      rcases separators c (List.mem_append_right _ List.mem_cons_self) with rfl | rfl
      · rw [Named, List.rdropWhile_concat_pos _ _ _ (by decide), ← Named, leading]
        simp
      -- Behind the backslash there is nothing but an empty part.
      · have last : (parts (cs ++ lead ++ ['\\'])).getLast? = some [] := by
          rw [parts_append_cons (.inr rfl)]
          exact List.getLast?_concat
        rw [Named, List.rdropWhile_concat_neg _ _ _ (by decide), last]
        simp [directoryName]

/-! ## Completion -/

theorem closed_eq_append (path : String) :
    ∃ slashes : String, closed path = path ++ slashes ∧ ∀ c ∈ slashes.toList, c = '/' := by
  unfold closed
  split
  · exact ⟨"", String.append_empty.symm, by simp⟩
  · exact ⟨"/", rfl, by simp⟩

theorem closed_eq_self_iff : closed path = path ↔ Closed path := by
  constructor
  · intro same
    obtain ⟨front, isClosed⟩ := closed_eq path
    exact ⟨front, same.symm.trans isClosed⟩
  · rintro ⟨front, rfl⟩
    exact closed_append_separator front

theorem named_closed_iff : Named (closed path).toList ↔ Named path.toList := by
  obtain ⟨slashes, same, only⟩ := closed_eq_append path
  have noBackslash : '\\' ∉ slashes.toList := fun member => absurd (only _ member) (by decide)
  rw [same, String.toList_append, named_append_iff fun c member => .inl (only c member),
    and_iff_left noBackslash]

theorem complete_of_named (named : Named path.toList) : complete path = closed path := by
  rw [complete, if_pos (lastSegment_eq_iff.mpr (named_closed_iff.mpr named))]

theorem complete_of_not_named (other : ¬Named path.toList) :
    complete path = closed path ++ directoryName ++ "/" := by
  rw [complete, if_neg fun last => other (named_closed_iff.mp (lastSegment_eq_iff.mp last))]

theorem complete_eq_self_iff : complete path = path ↔ Closed path ∧ Named path.toList := by
  by_cases named : Named path.toList
  · rw [complete_of_named named, closed_eq_self_iff, and_iff_left named]
  · refine ⟨fun same => ?_, fun both => absurd both.2 named⟩
    obtain ⟨slashes, closing, _⟩ := closed_eq_append path
    rw [complete_of_not_named named, closing, String.append_assoc, String.append_assoc] at same
    have longer := congrArg String.length (String.append_eq_left_iff.mp same)
    simp [directoryName] at longer

/-- The name is added to the segments of a path that does not end with it. -/
theorem segments_complete_of_not_named (other : ¬Named path.toList) :
    segments (complete path) = segments path ++ [directoryName] := by
  obtain ⟨front, isClosed⟩ := closed_eq path
  obtain ⟨slashes, same, only⟩ := closed_eq_append path
  have kept : segments (front ++ "/") = segments path := by
    rw [← isClosed, same, segments_append_separators path fun c member => .inl (only c member)]
  have bare : segments (front ++ "/") = segments front :=
    segments_append_separators front (by simp [IsSeparator])
  have chars : (front ++ "/" ++ directoryName ++ "/").toList =
      front.toList ++ '/' :: (directoryName ++ "/").toList := by
    simp
  have name : (filledParts (directoryName ++ "/").toList).map String.ofList = [directoryName] := by
    decide
  rw [complete_of_not_named other, isClosed, segments, chars, filledParts_append_cons (.inl rfl),
    List.map_append, name, ← segments, ← bare, kept]

theorem segments_complete_of_named (named : Named path.toList) :
    segments (complete path) = segments path := by
  obtain ⟨slashes, same, only⟩ := closed_eq_append path
  rw [complete_of_named named, same,
    segments_append_separators path fun c member => .inl (only c member)]

/-! ## Resolving -/

/-- A resolved path is the least completion of a path. -/
structure Completes (path resolved : String) : Prop where
  extended : ∃ rest ∈ ["", "/", "Generated/", "/Generated/"], resolved = path ++ rest
  closed : Closed resolved
  named : Named resolved.toList
  settled : resolve (.text resolved) = .ok resolved
  unchanged_iff : resolved = path ↔ Closed path ∧ Named path.toList

theorem exists_completion (path : String) :
    ∃ rest ∈ ["", "/", "Generated/", "/Generated/"], complete path = path ++ rest := by
  by_cases named : Named path.toList
  · rw [complete_of_named named, closed]
    split
    · exact ⟨"", by simp, String.append_empty.symm⟩
    · exact ⟨"/", by simp, rfl⟩
  · rw [complete_of_not_named named, closed]
    split
    · exact ⟨"Generated/", by simp, String.append_assoc ..⟩
    · exact ⟨"/Generated/", by simp, by simp only [String.append_assoc]; rfl⟩

theorem completes_complete (filled : Text.allBlank path = false) :
    Completes path (complete path) := by
  obtain ⟨front, completed, named⟩ := complete_eq path
  refine ⟨exists_completion path, ⟨front, completed⟩, ?_, ?_, complete_eq_self_iff⟩
  · rw [completed]
    exact lastSegment_eq_iff.mp named
  · rw [resolve_text, allBlank_complete filled, complete_complete, if_neg Bool.false_ne_true]

theorem allBlank_eq_false_iff :
    Text.allBlank path = false ↔ ∃ c ∈ path.toList, Text.isBlank c = false := by
  rw [Text.allBlank, List.all_eq_false]
  simp only [Bool.not_eq_true]

/-- Null and a blank path are no directory. Any other path, given as a text or as a path, resolves
to its least completion, which resolves to itself. -/
theorem resolve_completes (path : String) :
    resolve .null = .error (.configuration .emptyTarget) ∧
      ∀ directory, directory = .text path ∨ directory = .scalar (.path path) →
        ((∀ c ∈ path.toList, Text.isBlank c = true) →
          resolve directory = .error (.configuration .emptyTarget)) ∧
        ((∃ c ∈ path.toList, Text.isBlank c = false) →
          ∃ resolved, resolve directory = .ok resolved ∧ Completes path resolved) := by
  refine ⟨rfl, fun directory given => ?_⟩
  have read : resolve directory = resolve (.text path) := by
    rcases given with rfl | rfl <;> rfl
  rw [read, resolve_text]
  constructor
  · intro blank
    exact if_pos (List.all_eq_true.mpr blank)
  · intro filled
    have notBlank := allBlank_eq_false_iff.mpr filled
    exact ⟨complete path, if_neg (Bool.not_eq_true _ ▸ notBlank), completes_complete notBlank⟩

/-- The name behind a backslash is not added again. -/
theorem resolve_completes_backslash :
    ∃ resolved, resolve (.scalar (.path "Assets\\Generated")) = .ok resolved ∧
      resolved = "Assets\\Generated/" ∧ Completes "Assets\\Generated" resolved := by
  obtain ⟨resolved, given, completes⟩ :=
    ((resolve_completes "Assets\\Generated").2 _ (.inr rfl)).2 ⟨'A', by decide, by decide⟩
  exact ⟨resolved, given, Except.ok.inj (given.symm.trans (by rfl)), completes⟩

/-- Separators behind a path change the segments of the directory that it resolves to exactly if
there is a backslash among them and the path ends with the name of the directory. Then the name is
there once more. -/
theorem segments_resolve_trailing {path trail : String}
    (filled : ∃ c ∈ path.toList, Text.isBlank c = false)
    (separators : ∀ c ∈ trail.toList, IsSeparator c) :
    ∃ bare trailed, resolve (.text path) = .ok bare ∧
      resolve (.text (path ++ trail)) = .ok trailed ∧
      (segments trailed = segments bare ↔ ¬(Named path.toList ∧ '\\' ∈ trail.toList)) ∧
      (Named path.toList → '\\' ∈ trail.toList →
        segments trailed = segments bare ++ [directoryName]) := by
  have filledTrailed : ∃ c ∈ (path ++ trail).toList, Text.isBlank c = false := by
    obtain ⟨c, member, visible⟩ := filled
    exact ⟨c, String.toList_append ▸ List.mem_append_left _ member, visible⟩
  have resolves : ∀ s : String, (∃ c ∈ s.toList, Text.isBlank c = false) →
      resolve (.text s) = .ok (complete s) := fun s visible =>
    if_neg (Bool.not_eq_true _ ▸ allBlank_eq_false_iff.mpr visible)
  have kept := segments_append_separators path separators
  have namedTrailed : Named (path ++ trail).toList ↔ Named path.toList ∧ '\\' ∉ trail.toList := by
    rw [String.toList_append]
    exact named_append_iff separators
  refine ⟨_, _, resolves path filled, resolves _ filledTrailed, ?_⟩
  by_cases named : Named path.toList
  · by_cases back : '\\' ∈ trail.toList
    -- The backslash hides the name.
    · have added : segments (complete (path ++ trail)) =
          segments (complete path) ++ [directoryName] := by
        rw [segments_complete_of_not_named fun both => (namedTrailed.mp both).2 back, kept,
          segments_complete_of_named named]
      refine ⟨iff_of_false (fun same => ?_) (not_not_intro ⟨named, back⟩), fun _ _ => added⟩
      rw [added] at same
      exact List.cons_ne_nil _ _ (List.append_right_eq_self.mp same)
    · have same : segments (complete (path ++ trail)) = segments (complete path) := by
        rw [segments_complete_of_named (namedTrailed.mpr ⟨named, back⟩), kept,
          segments_complete_of_named named]
      exact ⟨iff_of_true same fun both => back both.2, fun _ there => absurd there back⟩
  · have same : segments (complete (path ++ trail)) = segments (complete path) := by
      rw [segments_complete_of_not_named fun both => named (namedTrailed.mp both).1, kept,
        segments_complete_of_not_named named]
    exact ⟨iff_of_true same fun both => named both.1, fun own => absurd own named⟩

/-- A path that has the name in the middle, with separators of both kinds behind it. -/
theorem segments_resolve_trailing_mixed :
    ∃ bare trailed, resolve (.text "Generated/Code") = .ok bare ∧
      resolve (.text ("Generated/Code" ++ "\\/\\")) = .ok trailed ∧
      segments trailed = segments bare ∧ segments bare = ["Generated", "Code", "Generated"] := by
  have filled : ∃ c ∈ "Generated/Code".toList, Text.isBlank c = false :=
    ⟨'G', by decide, by decide⟩
  have separators : ∀ c ∈ "\\/\\".toList, IsSeparator c := by
    simp [IsSeparator]
  obtain ⟨bare, trailed, isBare, isTrailed, same, _⟩ := segments_resolve_trailing filled separators
  obtain rfl : "Generated/Code/Generated/" = bare := Except.ok.inj (Eq.trans (by rfl) isBare)
  have other : ¬Named "Generated/Code".toList := by
    decide
  exact ⟨_, trailed, isBare, isTrailed, same.mpr fun both => other both.1, by decide⟩

/-- A backslash behind the name of the directory changes the segments. -/
theorem segments_resolve_hidden :
    (∃ c ∈ "Generated".toList, Text.isBlank c = false) ∧ (∀ c ∈ "\\".toList, IsSeparator c) ∧
      ∃ bare trailed, resolve (.text "Generated") = .ok bare ∧
        resolve (.text ("Generated" ++ "\\")) = .ok trailed ∧ segments trailed ≠ segments bare :=
  ⟨⟨'G', by decide, by decide⟩, by simp [IsSeparator], "Generated/", "Generated\\/Generated/",
    by rfl, by rfl, by decide⟩

end EntityScribe.Target
