import EntityScribe.Proofs.Preparation

/-!
# What a run never touches

Whatever plugins give and however a run ends, a file whose name does not have the ending of
generated files stays as it is, and none is made. No directory goes, and those that are made are the
target and what its path leads through.
-/

namespace EntityScribe

namespace Workspace

/-! ## Directories that are made -/

/-- The first segments of a path lead to a directory. -/
def OnWay (w : Workspace) (path : Path) (p : Place) : Prop :=
  ∃ n, Leads w.tree (w.start path) (path.segments.take n) p

variable {w : Workspace} {path : Path} {p : Place}

theorem OnWay.mono {tree : FileTree} (onWay : w.OnWay path p)
    (kept : ∀ q, w.tree.isDirectory q = true → tree.isDirectory q = true) :
    { w with tree := tree }.OnWay path p := by
  obtain ⟨n, leads⟩ := onWay
  exact ⟨n, leads.mono kept⟩

/-- What is on the way to the parent of a path is on the way of the path. -/
theorem OnWay.of_parent (onWay : w.OnWay path.parent p) : w.OnWay path p := by
  obtain ⟨n, leads⟩ := onWay
  refine ⟨min n (path.segments.length - 1), ?_⟩
  rwa [← List.take_take, ← List.dropLast_eq_take]

/-- A directory is where the segments of a path lead. -/
theorem leads_of_locate (normal : path.Normal) (found : w.locate path.text = .ok p)
    (directory : w.tree.isDirectory p = true) : Leads w.tree (w.start path) path.segments p := by
  obtain ⟨_, followed⟩ := ask_eq_ok_iff.mp found
  have leads : Leads w.tree (w.origin path.text) (Text.splitAt '/' path.text) p :=
    ⟨followed, directory⟩
  rwa [← Leads.filter_moves_iff, normal.filter_splitAt_text, origin_text w normal] at leads

theorem onWay_of_locate (normal : path.Normal) (found : w.locate path.text = .ok p)
    (directory : w.tree.isDirectory p = true) : w.OnWay path p := by
  refine ⟨path.segments.length, ?_⟩
  rw [List.take_length]
  exact leads_of_locate normal found directory

/-- A directory that has not been there is made where the path leads. -/
theorem onWay_of_makeDirectory {made : Workspace} (normal : path.Normal)
    (result : w.makeDirectory path.text = .ok made) (there : made.tree.isDirectory p = true) :
    w.tree.isDirectory p = true ∨ made.OnWay path p := by
  obtain ⟨top, found, directories⟩ := isDirectory_of_makeDirectory result
  rcases (directories p).mp there with rfl | before
  · exact .inr (onWay_of_locate normal found there)
  · exact .inl before

theorem onWay_of_ensureDirectory (normal : path.Normal)
    (there : (w.ensureDirectory path).2.tree.isDirectory p = true) :
    w.tree.isDirectory p = true ∨ (w.ensureDirectory path).2.OnWay path p := by
  unfold ensureDirectory at there ⊢
  split at there
  · next made result => exact onWay_of_makeDirectory normal result there
  · exact .inl there
  · exact .inl there

/-- Directories are made on the way of the path only, also where the making fails. -/
theorem onWay_of_makeDirectories {room : Nat} (normal : path.Normal)
    (there : (w.makeDirectoriesWithin room path).2.tree.isDirectory p = true) :
    w.tree.isDirectory p = true ∨ (w.makeDirectoriesWithin room path).2.OnWay path p := by
  fun_induction makeDirectoriesWithin room w path with
  | case1 room path made result => exact onWay_of_makeDirectory normal result there
  | case2 room path q result none => exact .inl there
  | case3 path q result some => exact .inl there
  | case4 path q result some room halt w' failed ih =>
      rw [failed] at ih
      exact (ih normal.parent there).imp_right OnWay.of_parent
  | case5 path q result some room w' succeeded ih =>
      rw [succeeded] at ih
      rcases onWay_of_ensureDirectory normal there with before | onWay
      · -- The directory comes from the making of the parent, and is still there.
        obtain ⟨tree, grown, ended⟩ := ensureDirectory_grows w' path
        rw [ended]
        exact (ih normal.parent before).imp_right fun above =>
          above.of_parent.mono fun _ => grown.isDirectory
      · exact .inr onWay
  | case6 room path e notAbsent result => exact .inl there

end Workspace

namespace Target

/-! ## Footprints -/

/-- The name at a place has the ending of generated files. -/
def HasEnding (p : Place) : Prop :=
  Artifact.fileEnding.toList <:+ (p.getLastD "").toList

/-- From one workspace to another, only files with the ending have been touched, and at most
directories on the way to the target have been added. -/
structure Footprint (directory : Document) (w final : Workspace) : Prop where
  files : ∀ p, ¬HasEnding p → final.tree.file? p = w.tree.file? p
  kept : ∀ p, w.tree.isDirectory p = true → final.tree.isDirectory p = true
  made : ∀ p, final.tree.isDirectory p = true → w.tree.isDirectory p = true ∨
    ∃ resolved, resolve directory = .ok resolved ∧ final.OnWay (Path.ofString resolved) p

variable {w final : Workspace} {directory : Document} {resolved : String} {top p : Place}

theorem Footprint.refl (directory : Document) (w : Workspace) : Footprint directory w w :=
  ⟨fun _ _ => rfl, fun _ => id, fun _ => .inl⟩

/-- What is swept away has the ending. -/
theorem hasEnding_of_stale {locked : List Place} {e : Entry}
    (goes : stale locked top p e = true) : HasEnding p := by
  obtain ⟨rest, rfl, deeper, generated, _⟩ := stale_iff.mp goes
  rw [HasEnding, getLastD_append top deeper]
  exact List.isSuffixOf_iff_suffix.mp (Bool.and_eq_true_iff.mp generated).2

theorem footprint_of_thinned (directory : Document) {locked : List Place} {tree : FileTree}
    (thinned : Thinned locked top w.tree tree) :
    Footprint directory w { w with tree := tree } := by
  refine ⟨fun p other => ?_, fun p stands => ?_, fun p stands => .inl ?_⟩
  · refine (thinned.file?_cases p).resolve_right ?_
    rintro ⟨_, content, goes⟩
    exact other (hasEnding_of_stale goes)
  · rwa [thinned.isDirectory]
  · rwa [thinned.isDirectory] at stands

theorem footprint_makeDirectories (isResolved : resolve directory = .ok resolved) :
    Footprint directory w (w.makeDirectories (Path.ofString resolved)).2 := by
  obtain ⟨tree, grown, same⟩ := Workspace.makeDirectories_grows w (Path.ofString resolved)
  refine ⟨fun p _ => ?_, fun p stands => ?_, fun p there => ?_⟩
  · rw [same]
    exact grown.file? p
  · rw [same]
    exact grown.isDirectory stands
  · exact (Workspace.onWay_of_makeDirectories (Path.normal_ofString resolved) there).imp_right
      fun onWay => ⟨resolved, isResolved, onWay⟩

theorem footprint_clean (w : Workspace) (directory : Document) :
    Footprint directory w (clean w directory).workspace := by
  cases isResolved : resolve directory with
  | error failure =>
      rw [clean_of_refused isResolved]
      exact .refl directory w
  | ok resolved =>
      cases found : w.locate (Path.ofString resolved).text with
      | ok top =>
          cases stands : w.tree.isDirectory top with
          | true =>
              obtain ⟨tree, thinned, same⟩ := sweep_thins w (Path.ofString resolved) top
              rw [clean_of_leadsTo isResolved ⟨found, stands⟩, same]
              exact footprint_of_thinned directory thinned
          | false =>
              rw [clean_of_occupied isResolved found stands]
              exact .refl directory w
      | error e =>
          by_cases long : ∃ q, e = .refused .nameTooLong q
          · obtain ⟨q, rfl⟩ := long
            rw [clean_of_tooLong isResolved found]
            exact .refl directory w
          · rw [clean_of_unfound isResolved found (not_exists.mp long), create_workspace]
            exact footprint_makeDirectories isResolved

/-- Below a target that stood before, or that is not reached by going up, the cleaning makes no
directory. -/
theorem isDirectory_clean (isResolved : resolve directory = .ok resolved)
    (leads : (clean w directory).workspace.LeadsTo resolved top)
    (direct : w.LeadsTo resolved top ∨ ∀ segment ∈ Text.splitAt '/' resolved, segment ≠ "..")
    {rest : Place} (deeper : rest ≠ []) :
    (clean w directory).workspace.tree.isDirectory (top ++ rest) =
      w.tree.isDirectory (top ++ rest) := by
  rcases direct with stood | descends
  · obtain ⟨tree, thinned, same⟩ := sweep_thins w (Path.ofString resolved) top
    rw [clean_of_leadsTo isResolved stood, same]
    exact thinned.isDirectory _
  · rw [Bool.eq_iff_iff]
    refine ⟨fun there => ?_, (footprint_clean w directory).kept _⟩
    rcases (footprint_clean w directory).made _ there with before | ⟨other, again, n, onWay⟩
    · exact before
    · obtain rfl : resolved = other := Except.ok.inj (isResolved.symm.trans again)
      have names : ∀ segment ∈ (Path.ofString resolved).segments,
          Workspace.isName segment = true := by
        intro segment member
        obtain ⟨inside, moving⟩ := List.mem_filter.mp member
        exact Workspace.isName_iff.mpr ⟨moving, descends segment inside⟩
      have normal := Path.normal_ofString resolved
      have whole := (Workspace.leads_of_locate normal leads.1 leads.2).eq_append names
      have part := onWay.eq_append fun segment member =>
        names segment (List.take_subset _ _ member)
      -- What is on the way is not longer than the whole way.
      have lengths := congrArg List.length part
      have longer := List.length_pos_iff.mpr deeper
      rw [whole] at lengths
      simp only [List.length_append, List.length_take] at lengths
      omega

/-- The place of an artifact's file has the ending, whatever the artifact's name. -/
theorem hasEnding_of_site {a : Artifact} (goes : site w resolved a = .ok p) : HasEnding p := by
  obtain ⟨_, above, _, _, rfl⟩ := site_eq_ok_iff.mp goes
  rw [HasEnding, getLastD_append above (List.cons_ne_nil _ _)]
  exact Text.suffix_getLastD_splitAt (resolved ++ a.name) (by decide)

/-- Writing artifacts goes on with a footprint, whatever directory they are written to. -/
theorem Footprint.overlay (footprint : Footprint directory w final) (resolved : String)
    (artifacts : List Artifact) : Footprint directory w (overlay final resolved artifacts) := by
  have same := isDirectory_overlay final resolved artifacts
  refine ⟨fun p other => ?_, fun p stands => ?_, fun p there => ?_⟩
  · rw [file?_overlay, ← footprint.files p other]
    cases found : (artifacts.filterMap (fileOf final resolved)).reverse.lookup p with
    | none => rfl
    | some content =>
        obtain ⟨a, _, goes⟩ := site_of_lookup found
        exact absurd (hasEnding_of_site goes) other
  · rw [same]
    exact footprint.kept p stands
  · rw [same] at there
    refine (footprint.made p there).imp_right ?_
    rintro ⟨own, isResolved, onWay⟩
    exact ⟨own, isResolved, onWay.mono fun q stands => (same q).trans stands⟩

end Target

namespace Generation

open Target

variable {σ : Type}

/-- However a run ends, and whatever its plugins give, files without the ending of generated files
are as before, no directory is gone, and new directories are on the way to the target. -/
theorem generate_footprint (w : Workspace) (m : Model) (directory : Document)
    (plugins : List (Plugin σ)) (memory : σ) :
    Footprint directory w (generate w m directory plugins memory).workspace := by
  have cleaned := footprint_clean w directory
  cases ended : (clean w directory).outcome with
  | error failure =>
      rw [(generate_of_failed m plugins memory ended).2.1]
      exact cleaned
  | ok leftovers =>
      obtain ⟨resolved, _, isResolved, _⟩ := leadsTo_of_clean ended
      rw [generate_workspace m plugins memory isResolved ended]
      exact cleaned.overlay resolved _

end Generation

end EntityScribe
