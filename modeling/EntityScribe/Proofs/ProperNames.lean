import EntityScribe.Proofs.Writing

/-!
# Artifacts with proper names

In a target that is there, the file of an artifact with a proper name goes directly into it, and
what the system may have against the file can be told from the length of its path, the length of its
name and the directories there.
-/

namespace EntityScribe

namespace BuiltIn

/-- A name without separators and null characters. -/
def Proper (name : String) : Prop :=
  '/' ∉ name.toList ∧ '\x00' ∉ name.toList

instance (name : String) : Decidable (Proper name) :=
  inferInstanceAs (Decidable (_ ∧ _))

end BuiltIn

namespace Target

open BuiltIn

variable {w : Workspace} {top : Place} {a : Artifact} {front : String}

/-- A name with the ending of generated files is the name of something. -/
theorem isName_fileName (a : Artifact) : Workspace.isName (fileName a) = true := by
  have long : 2 < (fileName a).toList.length := by
    rw [fileName, String.toList_append, List.length_append]
    exact Nat.lt_of_lt_of_le (by decide) (Nat.le_add_left Artifact.fileEnding.toList.length _)
  simp only [Workspace.isName, Bool.and_eq_true, bne_iff_ne]
  refine ⟨⟨?_, ?_⟩, ?_⟩ <;>
    · intro same
      rw [same] at long
      exact absurd long (by decide)

theorem fileIn_ne_empty (a : Artifact) (directory : String) : a.fileIn directory ≠ "" := by
  intro empty
  have size := congrArg String.utf8ByteSize empty
  rw [Artifact.fileIn, String.utf8ByteSize_append] at size
  have ending : 0 < Artifact.fileEnding.utf8ByteSize := by decide
  rw [String.utf8ByteSize_empty] at size
  omega

theorem null_not_mem_fileIn (leads : w.LeadsTo (front ++ "/") top)
    (noNull : '\x00' ∉ a.name.toList) :
    (a.fileIn (front ++ "/")).toList.contains '\x00' = false := by
  have clear := (Workspace.leadsTo_iff.mp leads).1.noNull
  have absent : '\x00' ∉ (front ++ "/").toList := by
    intro inside
    rw [List.contains_iff_mem.mpr ((Path.mem_text_iff (by decide) (by decide)).mpr inside)] at clear
    cases clear
  rw [← Bool.not_eq_true, List.contains_iff_mem, Artifact.fileIn, String.toList_append,
    String.toList_append, List.mem_append, List.mem_append, not_or, not_or]
  exact ⟨⟨absent, noNull⟩, by decide⟩

/-- Why the file of an artifact with a proper name cannot be written into a target, if it cannot. -/
def obstacle? (w : Workspace) (directory : String) (top : Place) (a : Artifact) : Option Refusal :=
  if Workspace.pathLimit ≤ (a.fileIn directory).utf8ByteSize ∨
      Workspace.longestName < (fileName a).utf8ByteSize then some .nameTooLong
  else if w.tree.isDirectory (top ++ [fileName a]) then some .isDirectory
  else none

theorem obstacle?_eq_none_iff {directory : String} :
    obstacle? w directory top a = none ↔
      (a.fileIn directory).utf8ByteSize < Workspace.pathLimit ∧
        (fileName a).utf8ByteSize ≤ Workspace.longestName ∧
        w.tree.isDirectory (top ++ [fileName a]) = false := by
  unfold obstacle?
  split
  · next long =>
      simp only [reduceCtorEq, false_iff]
      omega
  · next short =>
      obtain ⟨path, name⟩ := not_or.mp short
      cases w.tree.isDirectory (top ++ [fileName a]) <;> simp_all

/-- In a target that is there, the file of an artifact with a proper name goes directly into it,
unless something is in its way. -/
theorem site_eq_of_proper (leads : w.LeadsTo (front ++ "/") top) (proper : Proper a.name) :
    site w (front ++ "/") a =
      match obstacle? w (front ++ "/") top a with
      | none => .ok (top ++ [fileName a])
      | some why => .error (.refused why (a.fileIn (front ++ "/"))) := by
  have segments : Text.splitAt '/' (a.fileIn (front ++ "/")) =
      Text.splitAt '/' front ++ [fileName a] := by
    rw [fileIn_eq, Text.splitAt_append, splitAt_fileName_of_plain proper.1]
  have above : Workspace.Leads w.tree (w.origin (a.fileIn (front ++ "/")))
      (Text.splitAt '/' (a.fileIn (front ++ "/"))).dropLast top := by
    rw [segments, List.dropLast_concat, fileIn_eq, origin_append,
      ← List.append_nil (Text.splitAt _ _)]
    exact (leads_front_iff leads).mpr (Workspace.Leads.nil_iff.mpr ⟨rfl, leads.2⟩)
  have last : (Text.splitAt '/' (a.fileIn (front ++ "/"))).getLastD "" = fileName a := by
    rw [segments, List.getLastD_concat]
  have named : (!Workspace.isName (fileName a)) = false := by rw [isName_fileName, Bool.not_true]
  rw [site, Workspace.ask, null_not_mem_fileIn leads proper.2, if_neg Bool.false_ne_true,
    if_neg (fileIn_ne_empty a _), obstacle?, Workspace.placeForFile_of_leads above, last,
    Workspace.fileRefusal?, named, if_neg Bool.false_ne_true]
  by_cases path : Workspace.pathLimit ≤ (a.fileIn (front ++ "/")).utf8ByteSize
  · rw [if_pos path, if_pos (.inl path)]
  · by_cases name : Workspace.longestName < (fileName a).utf8ByteSize
    · rw [if_neg path, if_pos name, if_pos (.inr name)]
    · rw [if_neg path, if_neg name, if_neg (not_or.mpr ⟨path, name⟩)]
      cases w.tree.isDirectory (top ++ [fileName a]) <;> rfl

/-- In a target that is there, the file of an artifact with a name that the system takes can be
written unless its path is too long or a directory stands in its place. -/
theorem fits_of_proper (leads : w.LeadsTo (front ++ "/") top) (proper : Proper a.name)
    (short : (fileName a).utf8ByteSize ≤ Workspace.longestName) :
    fits w (front ++ "/") a = true ↔
      (a.fileIn (front ++ "/")).utf8ByteSize < Workspace.pathLimit ∧
        w.tree.isDirectory (top ++ [fileName a]) = false := by
  rw [fits, fileOf, site_eq_of_proper leads proper]
  cases free : obstacle? w (front ++ "/") top a with
  | none =>
      obtain ⟨path, _, vacant⟩ := obstacle?_eq_none_iff.mp free
      exact iff_of_true rfl ⟨path, vacant⟩
  | some why =>
      refine iff_of_false Bool.false_ne_true fun both => ?_
      rw [obstacle?_eq_none_iff.mpr ⟨both.1, short, both.2⟩] at free
      cases free

/-! ## Targets with long paths -/

/-- The target with separators at its end. -/
def stretched (n : Nat) : String :=
  directoryName ++ String.ofList (List.replicate n '/')

theorem stretched_succ (n : Nat) : stretched (n + 1) = stretched n ++ "/" := by
  rw [stretched, stretched, List.replicate_succ', String.append_assoc, ← String.toList_inj]
  simp only [String.toList_append, String.toList_ofList]
  rfl

theorem utf8ByteSize_stretched (n : Nat) : (stretched n).utf8ByteSize = 9 + n := by
  induction n with
  | zero => decide
  | succ n ih =>
      rw [stretched_succ, String.utf8ByteSize_append, ih]
      rfl

theorem ofString_stretched (n : Nat) : Path.ofString (stretched n) = ⟨"", [directoryName]⟩ := by
  have root : Path.rootOf (stretched n).toList = "" := by
    simp [Path.rootOf, stretched, directoryName]
  have segments : (Path.ofString (stretched n)).segments = [directoryName] := by
    induction n with
    | zero => decide
    | succ n ih =>
        have ends : stretched (n + 1) = stretched n ++ "/" ++ "" := by
          rw [stretched_succ, String.append_empty]
        rw [Path.segments_ofString, ends, Text.splitAt_append, List.filter_append,
          ← Path.segments_ofString, ih (by simp [Path.rootOf, stretched, directoryName])]
        decide
  calc
    Path.ofString (stretched n) =
        ⟨Path.rootOf (stretched n).toList, (Path.ofString (stretched n)).segments⟩ := rfl
    _ = ⟨"", [directoryName]⟩ := by rw [root, segments]

end Target

end EntityScribe
