import EntityScribe.Proofs.Following

/-!
# Directories that are there and directories that are made

Making the directories of a path does nothing where the path leads to one already. Otherwise it only
adds directories, each in one that was there before; and if it ends well, the path leads to a
directory from then on.
-/

namespace EntityScribe

namespace Workspace

/-! ## Paths before the system -/

/-- A path that the system looks at. -/
structure Askable (path : String) : Prop where
  noNull : path.toList.contains '\x00' = false
  nonempty : path ≠ ""
  short : path.utf8ByteSize < pathLimit

theorem ask_of_askable {α : Type} {path : String} (askable : Askable path) (w : Workspace)
    (look : Place → List String → Except Refusal α) :
    w.ask path look =
      match look (w.origin path) (Text.splitAt '/' path) with
      | .ok a => .ok a
      | .error why => .error (.refused why path) := by
  have noNull : ¬ path.toList.contains '\x00' = true := by
    rw [askable.noNull]
    exact Bool.false_ne_true
  have short : ¬ path.utf8ByteSize ≥ pathLimit := Nat.not_le.mpr askable.short
  cases found : look (w.origin path) (Text.splitAt '/' path) with
  | ok a => rw [ask, if_neg noNull, if_neg askable.nonempty, if_neg short, found]
  | error why => rw [ask, if_neg noNull, if_neg askable.nonempty, if_neg short, found]

/-- A path that never gets before the system has the same error in every workspace. -/
theorem ask_of_not_askable {path : String} (refused : ¬ Askable path) :
    ∃ e, ∀ {α : Type} (w : Workspace) (look : Place → List String → Except Refusal α),
      w.ask path look = .error e := by
  by_cases null : path.toList.contains '\x00' = true
  · exact ⟨.nullInPath, fun w look => by rw [ask, if_pos null]⟩
  · by_cases empty : path = ""
    · exact ⟨.refused .absent path, fun w look => by rw [ask, if_neg null, if_pos empty]⟩
    · have long : path.utf8ByteSize ≥ pathLimit := by
        by_cases short : path.utf8ByteSize < pathLimit
        · exact absurd ⟨by simpa using null, empty, short⟩ refused
        · omega
      exact ⟨.refused .nameTooLong path,
        fun w look => by rw [ask, if_neg null, if_neg empty, if_pos long]⟩

theorem ask_eq_ok_iff {α : Type} {w : Workspace} {path : String} {a : α}
    {look : Place → List String → Except Refusal α} :
    w.ask path look = .ok a ↔
      Askable path ∧ look (w.origin path) (Text.splitAt '/' path) = .ok a := by
  by_cases askable : Askable path
  · rw [ask_of_askable askable]
    cases look (w.origin path) (Text.splitAt '/' path) with
    | ok b => simp [askable]
    | error why => simp
  · obtain ⟨e, refused⟩ := ask_of_not_askable askable
    simp [refused, askable]

/-- The path leads to a directory, as the system finds it by the normal form of the path. -/
def LeadsTo (w : Workspace) (path : String) (top : Place) : Prop :=
  w.locate (Path.ofString path).text = .ok top ∧ w.tree.isDirectory top = true

theorem leadsTo_iff {w : Workspace} {path : String} {top : Place} :
    w.LeadsTo path top ↔
      Askable (Path.ofString path).text ∧
        Leads w.tree (w.origin path) (Text.splitAt '/' path) top := by
  have origin : w.origin (Path.ofString path).text = w.origin path :=
    congrArg (fun absolute : Bool => if absolute then [] else w.home)
      (Path.startsAtRoot_text path)
  have shown : Leads w.tree (w.origin path) (Text.splitAt '/' (Path.ofString path).text) top ↔
      Leads w.tree (w.origin path) (Text.splitAt '/' path) top := by
    rw [← Leads.filter_moves_iff, (Path.normal_ofString path).filter_splitAt_text]
    exact Leads.filter_moves_iff
  rw [LeadsTo, locate, ask_eq_ok_iff, origin, and_assoc]
  exact and_congr_right fun _ => shown

/-- Where a path leads, it still leads when other directories have been added or files changed. -/
theorem LeadsTo.mono {w : Workspace} {path : String} {top : Place} (leads : w.LeadsTo path top)
    {tree : FileTree} (kept : ∀ p, w.tree.isDirectory p = true → tree.isDirectory p = true) :
    { w with tree := tree }.LeadsTo path top := by
  obtain ⟨askable, followed⟩ := leadsTo_iff.mp leads
  exact leadsTo_iff.mpr ⟨askable, followed.mono kept⟩

theorem LeadsTo.unique {w : Workspace} {path : String} {top other : Place}
    (leads : w.LeadsTo path top) (again : w.LeadsTo path other) : top = other :=
  Except.ok.inj (leads.1.symm.trans again.1)

end Workspace

/-! ## Added directories -/

namespace FileTree

/-- The second tree is the first with directories added one after the other. -/
inductive Grown (t : FileTree) : FileTree → Prop where
  | refl : Grown t t
  | made {u : FileTree} {above : Place} {name : String} (grown : Grown t u)
      (inside : u.isDirectory above = true) (absent : u.get? (above ++ [name]) = none) :
      Grown t (u.put (above ++ [name]) .directory)

namespace Grown

variable {t u v : FileTree}

theorem trans (first : Grown t u) (second : Grown u v) : Grown t v := by
  induction second with
  | refl => exact first
  | made _ inside absent ih => exact ih.made inside absent

theorem isDirectory (grown : Grown t u) {p : Place} (directory : t.isDirectory p = true) :
    u.isDirectory p = true := by
  induction grown with
  | refl => exact directory
  | made _ _ _ ih => rw [isDirectory_put_directory (by simp), ih, Bool.or_true]

/-- No file is touched. -/
theorem file? (grown : Grown t u) (p : Place) : u.file? p = t.file? p := by
  induction grown with
  | refl => rfl
  | made _ _ absent ih => rw [file?_put_directory (by simp) absent, ih]

/-- Whatever is new is a directory. -/
theorem get?_cases (grown : Grown t u) (p : Place) :
    u.get? p = t.get? p ∨ t.get? p = none ∧ u.get? p = some .directory := by
  induction grown with
  | refl => exact .inl rfl
  | @made u above name _ _ absent ih =>
      rw [get?_put u (by simp)]
      by_cases here : p = above ++ [name]
      · subst here
        rw [absent] at ih
        rcases ih with same | ⟨_, impossible⟩
        · exact .inr ⟨same.symm, if_pos rfl⟩
        · cases impossible
      · rw [if_neg here]
        exact ih

theorem rooted (grown : Grown t u) (rooted : t.Rooted) : u.Rooted := by
  induction grown with
  | refl => exact rooted
  | made _ inside _ ih => exact ih.put inside .directory (.inl rfl)

end Grown

end FileTree

namespace Workspace

/-! ## Making directories -/

theorem placeForDirectory_of_leads {tree : FileTree} {start top : Place} {segments : List String}
    (some : segments ≠ []) (leads : Leads tree start segments top) :
    placeForDirectory tree start segments = .error .present := by
  rw [← dropLast_append_getLastD some, Leads.append_iff] at leads
  obtain ⟨above, before, last⟩ := leads
  rw [placeForDirectory, lookAbove_eq_ok_iff.mpr ⟨before, rfl⟩]
  obtain ⟨_, step⟩ := Leads.cons_iff.mp last
  dsimp only
  by_cases name : isName (segments.getLastD "") = true
  · have proper := name
    simp only [isName, Bool.and_eq_true, bne_iff_ne] at proper
    rw [if_neg (not_or.mpr proper.1), if_neg proper.2] at step
    have present := FileTree.isSome_of_isDirectory step.2.start
    rw [name, if_neg (by decide), if_neg (Nat.not_lt.mpr step.1), if_pos present]
  · rw [Bool.eq_false_iff.mpr name, if_pos (by decide)]

theorem placeForDirectory_eq_ok {tree : FileTree} {start place : Place} {segments : List String}
    (placed : placeForDirectory tree start segments = .ok place) :
    ∃ above, Leads tree start segments.dropLast above ∧
      isName (segments.getLastD "") = true ∧
      (segments.getLastD "").utf8ByteSize ≤ longestName ∧
      tree.get? place = none ∧ place = above ++ [segments.getLastD ""] := by
  unfold placeForDirectory at placed
  split at placed
  · cases placed
  · next above name found =>
      obtain ⟨leads, rfl⟩ := lookAbove_eq_ok_iff.mp found
      split at placed
      · cases placed
      · next isProper =>
          split at placed
          · cases placed
          · next short =>
              split at placed
              · cases placed
              · next absent =>
                  cases placed
                  exact ⟨above, leads, by simpa using isProper, Nat.not_lt.mp short,
                    by simpa using absent, rfl⟩

/-- A directory that is made is new, stands in another, and is where the path leads. -/
theorem makeDirectory_eq_ok {w made : Workspace} {path : String}
    (result : w.makeDirectory path = .ok made) :
    ∃ above name, w.tree.isDirectory above = true ∧ w.tree.get? (above ++ [name]) = none ∧
      made = { w with tree := w.tree.put (above ++ [name]) .directory } ∧
      made.locate path = .ok (above ++ [name]) := by
  unfold makeDirectory at result
  split at result
  · cases result
  · next place asked =>
      cases result
      obtain ⟨askable, placed⟩ := ask_eq_ok_iff.mp asked
      obtain ⟨above, leads, name, short, absent, rfl⟩ := placeForDirectory_eq_ok placed
      have grown := FileTree.Grown.refl.made leads.2 absent
      refine ⟨above, _, leads.2, absent, rfl, ?_⟩
      have below : above ++ [(Text.splitAt '/' path).getLastD ""] ≠ [] := by simp
      have there : (w.tree.put (above ++ [(Text.splitAt '/' path).getLastD ""])
          .directory).isDirectory (above ++ [(Text.splitAt '/' path).getLastD ""]) = true := by
        rw [FileTree.isDirectory_put_directory below, decide_eq_true rfl, Bool.true_or]
      have followed := Leads.append_name (leads.mono fun _ => grown.isDirectory) name short there
      rw [dropLast_append_getLastD (Text.splitAt_ne_nil path)] at followed
      exact ask_eq_ok_iff.mpr ⟨askable, followed.1⟩

theorem makeDirectory_grows {w made : Workspace} {path : String}
    (result : w.makeDirectory path = .ok made) :
    ∃ tree, FileTree.Grown w.tree tree ∧ made = { w with tree := tree } := by
  obtain ⟨above, name, inside, absent, same, _⟩ := makeDirectory_eq_ok result
  exact ⟨_, FileTree.Grown.refl.made inside absent, same⟩

/-- The directory that the path leads to is the only new one. -/
theorem isDirectory_of_makeDirectory {w made : Workspace} {path : String}
    (result : w.makeDirectory path = .ok made) :
    ∃ top, made.locate path = .ok top ∧
      ∀ p, made.tree.isDirectory p = true ↔ p = top ∨ w.tree.isDirectory p = true := by
  obtain ⟨above, name, _, _, rfl, found⟩ := makeDirectory_eq_ok result
  refine ⟨_, found, fun p => ?_⟩
  rw [FileTree.isDirectory_put_directory (by simp), Bool.or_eq_true, decide_eq_true_iff]

theorem locate_of_makeDirectory {w made : Workspace} {path : String}
    (result : w.makeDirectory path = .ok made) :
    ∃ top, made.locate path = .ok top ∧ made.tree.isDirectory top = true := by
  obtain ⟨top, found, directories⟩ := isDirectory_of_makeDirectory result
  exact ⟨top, found, (directories top).mpr (.inl rfl)⟩

theorem makeDirectory_of_locate {w : Workspace} {path : String} {top : Place}
    (found : w.locate path = .ok top) (directory : w.tree.isDirectory top = true) :
    w.makeDirectory path = .error (.refused .present path) := by
  obtain ⟨askable, followed⟩ := ask_eq_ok_iff.mp found
  have present := placeForDirectory_of_leads (Text.splitAt_ne_nil path) ⟨followed, directory⟩
  rw [makeDirectory, ask_of_askable askable, present]

theorem tolerate_of_locate {w : Workspace} {path : Path} {top : Place}
    (found : w.locate path.text = .ok top) (directory : w.tree.isDirectory top = true)
    {e : FileError} (system : e.isSystem = true) : w.tolerate path e = .ok () := by
  rw [tolerate, if_pos system, isDirectory, found]
  dsimp only
  rw [directory]

/-- Where the path leads to a directory, there is nothing to make. -/
theorem makeDirectories_of_locate {w : Workspace} {path : Path} {top : Place}
    (found : w.locate path.text = .ok top) (directory : w.tree.isDirectory top = true) :
    w.makeDirectories path = (.ok (), w) := by
  unfold makeDirectories makeDirectoriesWithin
  rw [makeDirectory_of_locate found directory]
  exact congrArg (·, w) (tolerate_of_locate found directory rfl)

theorem ensureDirectory_of_locate {w : Workspace} {path : Path} {top : Place}
    (found : w.locate path.text = .ok top) (directory : w.tree.isDirectory top = true) :
    w.ensureDirectory path = (.ok (), w) := by
  rw [ensureDirectory, makeDirectory_of_locate found directory]
  exact congrArg (·, w) (tolerate_of_locate found directory rfl)

theorem locate_of_isDirectory {w : Workspace} {path : String}
    (there : w.isDirectory path = .ok true) :
    ∃ top, w.locate path = .ok top ∧ w.tree.isDirectory top = true := by
  unfold isDirectory at there
  split at there
  · next top found => exact ⟨top, found, Except.ok.inj there⟩
  · cases there
  · cases there

theorem locate_of_tolerate {w : Workspace} {path : Path} {e : FileError}
    (tolerated : w.tolerate path e = .ok ()) :
    ∃ top, w.locate path.text = .ok top ∧ w.tree.isDirectory top = true := by
  unfold tolerate at tolerated
  split at tolerated
  · split at tolerated
    · next there => exact locate_of_isDirectory there
    · cases tolerated
    · cases tolerated
  · cases tolerated

theorem ensureDirectory_grows (w : Workspace) (path : Path) :
    ∃ tree, FileTree.Grown w.tree tree ∧ (w.ensureDirectory path).2 = { w with tree := tree } := by
  unfold ensureDirectory
  split
  · next made result => exact makeDirectory_grows result
  · exact ⟨w.tree, .refl, rfl⟩
  · exact ⟨w.tree, .refl, rfl⟩

theorem locate_of_ensureDirectory {w w' : Workspace} {path : Path}
    (ensured : w.ensureDirectory path = (.ok (), w')) :
    ∃ top, w'.locate path.text = .ok top ∧ w'.tree.isDirectory top = true := by
  unfold ensureDirectory at ensured
  split at ensured
  · next made result =>
      cases ensured
      exact locate_of_makeDirectory result
  · cases ensured
  · next e _ _ =>
      obtain ⟨tolerated, rfl⟩ := Prod.mk.inj ensured
      exact locate_of_tolerate tolerated

/-- Making directories only adds directories, however it ends. -/
theorem makeDirectoriesWithin_grows (room : Nat) (w : Workspace) (path : Path) :
    ∃ tree, FileTree.Grown w.tree tree ∧
      (w.makeDirectoriesWithin room path).2 = { w with tree := tree } := by
  fun_induction makeDirectoriesWithin room w path with
  | case1 room path made result => exact makeDirectory_grows result
  | case2 room path p result none => exact ⟨w.tree, .refl, rfl⟩
  | case3 path p result some => exact ⟨w.tree, .refl, rfl⟩
  | case4 path p result some room halt w' failed ih =>
      rw [failed] at ih
      exact ih
  | case5 path p result some room w' succeeded ih =>
      rw [succeeded] at ih
      obtain ⟨tree, grown, rfl⟩ := ih
      obtain ⟨last, grownLast, ended⟩ := ensureDirectory_grows { w with tree := tree } path
      exact ⟨last, grown.trans grownLast, ended⟩
  | case6 room path e notAbsent result => exact ⟨w.tree, .refl, rfl⟩

theorem makeDirectories_grows (w : Workspace) (path : Path) :
    ∃ tree, FileTree.Grown w.tree tree ∧
      (w.makeDirectories path).2 = { w with tree := tree } :=
  makeDirectoriesWithin_grows w.room w path

/-- If making the directories of a path ends well, the path leads to a directory. -/
theorem locate_of_makeDirectoriesWithin {room : Nat} {w w' : Workspace} {path : Path}
    (succeeded : w.makeDirectoriesWithin room path = (.ok (), w')) :
    ∃ top, w'.locate path.text = .ok top ∧ w'.tree.isDirectory top = true := by
  unfold makeDirectoriesWithin at succeeded
  split at succeeded
  · next made result =>
      cases succeeded
      exact locate_of_makeDirectory result
  · split at succeeded
    · cases succeeded
    · split at succeeded
      · cases succeeded
      · split at succeeded
        · cases succeeded
        · exact locate_of_ensureDirectory succeeded
  · obtain ⟨tolerated, rfl⟩ := Prod.mk.inj succeeded
    exact locate_of_tolerate tolerated

theorem locate_of_makeDirectories {w w' : Workspace} {path : Path}
    (succeeded : w.makeDirectories path = (.ok (), w')) :
    ∃ top, w'.locate path.text = .ok top ∧ w'.tree.isDirectory top = true :=
  locate_of_makeDirectoriesWithin succeeded

end Workspace

end EntityScribe
