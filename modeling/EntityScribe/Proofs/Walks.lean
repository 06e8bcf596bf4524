import EntityScribe.Proofs.Writing

/-!
# Walking to what has been written

A file is opened by a path that holds all segments of the path by which a cleanup comes to it. So
the files that have been written into a target do not keep it from being walked through.
-/

namespace EntityScribe.Target

variable {w : Workspace} {resolved : String} {top place rest : Place} {a : Artifact}

/-- Below the target, a file stands under names out of its own. -/
theorem sublist_of_site {front : String} (leads : w.LeadsTo (front ++ "/") top)
    (goes : site w (front ++ "/") a = .ok (top ++ rest)) :
    rest.Sublist (Text.splitAt '/' (fileName a)) := by
  obtain ⟨_, above, through, _, split⟩ := (site_of_leadsTo leads).mp goes
  obtain ⟨n, more, rfl, sublist⟩ := through.eq_take_append
  have whole : folders a ++ [lastName a] = Text.splitAt '/' (fileName a) :=
    dropLast_append_getLastD (Text.splitAt_ne_nil _)
  have behind : top.drop n ++ rest = more ++ [lastName a] := by
    have joined : top.take n ++ (top.drop n ++ rest) = top.take n ++ (more ++ [lastName a]) := by
      rw [← List.append_assoc, List.take_append_drop, split, List.append_assoc]
    exact List.append_cancel_left joined
  rw [← whole]
  exact ((List.sublist_append_right (top.drop n) rest).trans (behind ▸ .refl _)).trans
    (sublist.append (.refl _))

/-- The path by which a cleanup comes to a file is no longer than the one by which it was opened. -/
theorem utf8ByteSize_pathBelow_le {front : String}
    (some : (Path.ofString (front ++ "/")).segments ≠ []) (deeper : rest ≠ [])
    (leads : w.LeadsTo (front ++ "/") top)
    (goes : site w (front ++ "/") a = .ok (top ++ rest)) :
    (pathBelow (Path.ofString (front ++ "/")) rest).utf8ByteSize ≤
      (a.fileIn (front ++ "/")).utf8ByteSize := by
  have normal := Path.normal_ofString (front ++ "/")
  have names := sublist_of_site leads goes
  have cut : Text.splitAt '/' (front ++ "/") = Text.splitAt '/' front ++ [""] := by
    have joined := Text.splitAt_append front ""
    rwa [String.append_empty] at joined
  -- The last segment of the path moves, so it is not the empty one behind the last separator.
  have shown : (Text.splitAt '/' (Path.ofString (front ++ "/")).text).Sublist
      (Text.splitAt '/' front) := by
    have sublist := Path.splitAt_text_sublist some
    obtain ⟨lead, parts, _⟩ := normal.splitAt_text some
    rw [cut, List.sublist_append_iff] at sublist
    obtain ⟨first, second, split, before, last⟩ := sublist
    rcases List.sublist_cons_iff.mp last with none | ⟨others, rfl, none⟩
    · rwa [split, List.sublist_nil.mp none, List.append_nil]
    · rw [parts, List.sublist_nil.mp none] at split
      have ends := congrArg List.getLast? split
      rw [List.getLast?_append, List.getLast?_eq_some_getLast some, List.getLast?_concat] at ends
      have moving := normal.moving _ (List.getLast_mem some)
      rw [Option.some.inj ends] at moving
      cases moving
  refine Text.utf8ByteSize_le_of_sublist ?_
  rw [pathBelow, Path.text_append some deeper, ← String.append_assoc, Text.splitAt_append,
    Text.splitAt_intercalate deeper fun name member =>
      Text.not_mem_of_mem_splitAt (names.subset member), fileIn_eq, Text.splitAt_append]
  exact shown.append names

theorem generatedAt_iff {t : FileTree} :
    GeneratedAt t top rest ↔
      rest ≠ [] ∧ Artifact.fileEnding.toList <:+ (rest.getLastD "").toList ∧
        ∃ content, t.file? (top ++ rest) = some content := by
  simp only [GeneratedAt, FileTree.file?_eq_some]

/-- Artifacts that have been written do not keep a target from being walked through. -/
theorem walkable_overlay_iff {directory : Document} (isResolved : resolve directory = .ok resolved)
    (leads : w.LeadsTo resolved top) (artifacts : List Artifact) :
    Walkable (overlay w resolved artifacts) (Path.ofString resolved) top ↔
      Walkable w (Path.ofString resolved) top := by
  have some := segments_ne_nil_of_resolve isResolved
  obtain ⟨front, rfl⟩ := resolved_eq isResolved
  constructor
  · refine fun walkable => walkable.of_subset
      (fun p there => (isDirectory_overlay w _ artifacts p).trans there) fun rest generated => ?_
    obtain ⟨deeper, ends, content, there⟩ := generatedAt_iff.mp generated
    refine generatedAt_iff.mpr ⟨deeper, ends, ?_⟩
    rw [file?_overlay, there]
    cases (artifacts.filterMap (fileOf w (front ++ "/"))).reverse.lookup (top ++ rest) with
    | none => exact ⟨content, rfl⟩
    | some other => exact ⟨other, rfl⟩
  · intro walkable
    refine ⟨fun rest deeper there => walkable.directories rest deeper
      ((isDirectory_overlay w _ artifacts _).symm.trans there), fun rest generated => ?_⟩
    obtain ⟨deeper, ends, content, there⟩ := generatedAt_iff.mp generated
    rw [file?_overlay] at there
    cases found : (artifacts.filterMap (fileOf w (front ++ "/"))).reverse.lookup (top ++ rest) with
    | none =>
        rw [found, Option.none_or] at there
        exact walkable.files rest (generatedAt_iff.mpr ⟨deeper, ends, content, there⟩)
    | some other =>
        -- The file has been written, so the path by which it was opened is short enough.
        obtain ⟨a, _, goes⟩ := site_of_lookup found
        exact Nat.lt_of_le_of_lt (utf8ByteSize_pathBelow_le some deeper leads goes)
          (site_eq_ok_iff.mp goes).1.short

end EntityScribe.Target
