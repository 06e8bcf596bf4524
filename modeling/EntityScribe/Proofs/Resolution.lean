import EntityScribe.Proofs.Paths
import EntityScribe.Target

/-!
# Resolving a target directory

A resolved directory ends in a separator and stands for itself, so it makes no difference whether a
path has been resolved before.
-/

namespace EntityScribe.Target

theorem closed_eq (path : String) : ∃ front, closed path = front ++ "/" := by
  unfold closed
  split
  · next ends =>
      obtain ⟨front, chars⟩ := List.isSuffixOf_iff_suffix.mp ends
      refine ⟨String.ofList front, String.toList_inj.mp ?_⟩
      rw [String.toList_append, String.toList_ofList, chars]
  · exact ⟨path, rfl⟩

theorem closed_append_separator (front : String) : closed (front ++ "/") = front ++ "/" := by
  have ends : "/".toList.isSuffixOf (front ++ "/").toList = true := by
    rw [String.toList_append]
    exact List.isSuffixOf_iff_suffix.mpr (List.suffix_append _ _)
  rw [closed, if_pos ends]

theorem lastSegment_directoryName (front : String) :
    lastSegment (front ++ "/" ++ directoryName ++ "/") = directoryName := by
  have chars : (front ++ "/" ++ directoryName ++ "/").toList =
      front.toList ++ '/' :: directoryName.toList ++ ['/'] := by
    simp
  have trimmed : withoutSeparators (front.toList ++ '/' :: directoryName.toList ++ ['/']) =
      front.toList ++ '/' :: directoryName.toList := by
    simp [withoutSeparators, directoryName]
  have unified : unifySeparators (front.toList ++ '/' :: directoryName.toList) =
      unifySeparators front.toList ++ '/' :: directoryName.toList := by
    rw [unifySeparators, List.map_append]
    rfl
  have whole : List.splitOn '/' directoryName.toList = [directoryName.toList] :=
    List.splitOn_eq_singleton (by decide)
  rw [lastSegment, chars, trimmed, unified, Text.splitChars_eq_splitOn,
    List.splitOn_append_cons_self, whole, List.getLastD_concat, String.ofList_toList]

/-- A completed path ends in a separator and has the last segment that was wanted. -/
theorem complete_eq (path : String) :
    ∃ front, complete path = front ++ "/" ∧ lastSegment (front ++ "/") = directoryName := by
  obtain ⟨front, isClosed⟩ := closed_eq path
  by_cases named : lastSegment (front ++ "/") = directoryName
  · exact ⟨front, by rw [complete, isClosed, if_pos named], named⟩
  · exact ⟨front ++ "/" ++ directoryName, by rw [complete, isClosed, if_neg named],
      lastSegment_directoryName front⟩

theorem complete_complete (path : String) : complete (complete path) = complete path := by
  obtain ⟨front, completed, named⟩ := complete_eq path
  rw [completed, complete, closed_append_separator, if_pos named]

/-- Completing a path only adds to its end, and no null character. -/
theorem exists_complete_eq_append (path : String) :
    ∃ rest, complete path = path ++ rest ∧ '\x00' ∉ rest.toList := by
  unfold complete closed
  dsimp only
  split <;> split
  · exact ⟨"", by simp, by simp⟩
  · exact ⟨directoryName ++ "/", by rw [String.append_assoc], by decide⟩
  · exact ⟨"/", rfl, by decide⟩
  · exact ⟨"/" ++ directoryName ++ "/", by simp only [String.append_assoc], by decide⟩

theorem allBlank_complete {path : String} (notBlank : Text.allBlank path = false) :
    Text.allBlank (complete path) = false := by
  obtain ⟨rest, completed, _⟩ := exists_complete_eq_append path
  unfold Text.allBlank at notBlank ⊢
  rw [completed, String.toList_append, List.all_append, notBlank, Bool.false_and]

theorem null_mem_complete_iff {path : String} :
    '\x00' ∈ (complete path).toList ↔ '\x00' ∈ path.toList := by
  obtain ⟨rest, completed, noNull⟩ := exists_complete_eq_append path
  rw [completed, String.toList_append, List.mem_append, or_iff_left noNull]

theorem mem_of_mem_lastSegment {c : Char} (notSlash : c ≠ '/') {path : String}
    (member : c ∈ (lastSegment path).toList) : c ∈ path.toList := by
  have parts := Text.splitChars_ne_nil '/' (unifySeparators (withoutSeparators path.toList))
  rw [lastSegment, String.toList_ofList, List.getLastD_eq_getLast?,
    List.getLast?_eq_some_getLast parts, Option.getD_some] at member
  have unified := (Text.exists_mem_splitChars_iff notSlash).mp ⟨_, List.getLast_mem parts, member⟩
  obtain ⟨d, inside, same⟩ := List.mem_map.mp unified
  have kept : d ∈ path.toList := by
    have reversed := (List.dropWhile_sublist (· == '/')).subset (List.mem_reverse.mp inside)
    exact List.mem_reverse.mp reversed
  split at same
  · exact absurd same.symm notSlash
  · exact same ▸ kept

theorem resolve_text (path : String) :
    resolve (.text path) =
      if Text.allBlank path then .error (.configuration .emptyTarget) else .ok (complete path) :=
  rfl

/-- What a document resolves to is the completion of a text that is not blank. -/
theorem resolve_eq_ok {directory : Document} {resolved : String}
    (result : resolve directory = .ok resolved) :
    ∃ path, Text.allBlank path = false ∧ resolved = complete path := by
  have ofText : ∀ path, (if Text.allBlank path then
      .error (.configuration .emptyTarget) else Except.ok (complete path)) =
        (Except.ok resolved : Except Failure String) →
      Text.allBlank path = false ∧ resolved = complete path := by
    intro path result
    split at result
    · cases result
    · next notBlank =>
        exact ⟨by simpa using notBlank, (Except.ok.inj result).symm⟩
  unfold resolve at result
  split at result
  · cases result
  · next path => exact ⟨path, ofText path result⟩
  · next path => exact ⟨path, ofText path result⟩
  · split at result <;> cases result
  · cases result

theorem resolved_eq {directory : Document} {resolved : String}
    (result : resolve directory = .ok resolved) : ∃ front, resolved = front ++ "/" := by
  obtain ⟨path, _, same⟩ := resolve_eq_ok result
  obtain ⟨front, completed, _⟩ := complete_eq path
  exact ⟨front, same.trans completed⟩

/-- A resolved directory leads somewhere from where it starts. -/
theorem segments_ne_nil_of_resolve {directory : Document} {resolved : String}
    (result : resolve directory = .ok resolved) : (Path.ofString resolved).segments ≠ [] := by
  obtain ⟨path, _, same⟩ := resolve_eq_ok result
  obtain ⟨front, completed, named⟩ := complete_eq path
  rw [same]
  have inside : 'G' ∈ (complete path).toList := by
    rw [completed]
    refine mem_of_mem_lastSegment (by decide) ?_
    rw [named]
    decide
  obtain ⟨segment, member, _⟩ := (Path.exists_mem_segments_iff (by decide) (by decide)).mpr inside
  exact List.ne_nil_of_mem member

/-- Resolving a resolved directory gives it back. -/
theorem resolve_resolved {directory : Document} {resolved : String}
    (result : resolve directory = .ok resolved) : resolve (.text resolved) = .ok resolved := by
  obtain ⟨path, notBlank, same⟩ := resolve_eq_ok result
  rw [same, resolve_text, allBlank_complete notBlank, complete_complete,
    if_neg Bool.false_ne_true]

theorem clean_resolved {directory : Document} {resolved : String} (w : Workspace)
    (result : resolve directory = .ok resolved) :
    clean w (.text resolved) = clean w directory := by
  rw [clean, clean, result, resolve_resolved result]

end EntityScribe.Target
