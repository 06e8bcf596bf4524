import EntityScribe.Proofs.Directories
import EntityScribe.Proofs.GeneratedFiles
import EntityScribe.Proofs.Resolution
import Mathlib.Data.List.TakeWhile

/-!
# What a cleanup leaves

Cleaning a directory that is there takes out of the tree the generated files below it that are not
locked, and nothing else, if all below it can be walked through. If not, the cleaning is broken off,
and some of these files may stay. Cleaning a directory that is not there makes it. Either way, if
the cleaning ends well, the target leads to a directory.
-/

namespace EntityScribe

namespace Target

/-! ## Walking through a directory -/

/-- Nothing below the directory at a place keeps a cleanup from coming to its end: there is room for
all directories, and no path is too long. -/
structure Walkable (w : Workspace) (path : Path) (top : Place) : Prop where
  directories : ∀ rest, rest ≠ [] → w.tree.isDirectory (top ++ rest) = true →
    rest.length ≤ w.room ∧ (pathBelow path rest).utf8ByteSize < Workspace.pathLimit
  files : ∀ rest, GeneratedAt w.tree top rest →
    (pathBelow path rest).utf8ByteSize < Workspace.pathLimit

/-- Where no directories and no generated files have come, it stays so. -/
theorem Walkable.of_subset {w : Workspace} {path : Path} {top : Place} {tree : FileTree}
    (walkable : Walkable w path top)
    (directories : ∀ p, tree.isDirectory p = true → w.tree.isDirectory p = true)
    (files : ∀ rest, GeneratedAt tree top rest → GeneratedAt w.tree top rest) :
    Walkable { w with tree := tree } path top :=
  ⟨fun rest deeper there => walkable.directories rest deeper (directories _ there),
    fun rest generated => walkable.files rest (files rest generated)⟩

theorem overlong?_eq_none_iff {path : String} :
    Workspace.overlong? path = none ↔ path.utf8ByteSize < Workspace.pathLimit := by
  rw [Workspace.overlong?]
  split
  · next long => exact iff_of_false (fun none => nomatch none) (Nat.not_lt.mpr long)
  · next short => exact iff_of_true rfl (Nat.not_le.mp short)

theorem barrier?_eq_none_iff {room : Nat} {path : Path} {rest : Place} :
    barrier? room path rest = none ↔
      rest.length ≤ room ∧ (pathBelow path rest).utf8ByteSize < Workspace.pathLimit := by
  rw [barrier?, ← overlong?_eq_none_iff]
  split
  · next deep => exact iff_of_false (fun none => nomatch none) fun both =>
      Nat.not_le.mpr deep both.1
  · next shallow => rw [Option.map_eq_none_iff, and_iff_right (Nat.not_lt.mp shallow)]

theorem walkHalt?_eq_none_iff {w : Workspace} {path : Path} {top : Place} :
    walkHalt? w path top = none ↔ ∀ rest, rest ≠ [] → w.tree.isDirectory (top ++ rest) = true →
      rest.length ≤ w.room ∧ (pathBelow path rest).utf8ByteSize < Workspace.pathLimit := by
  simp only [walkHalt?, List.findSome?_eq_none_iff, mem_directoriesBelow, barrier?_eq_none_iff,
    and_imp]

/-! ## Deleting one file after the other -/

/-- How a file below a path is reported that cannot be deleted. -/
def leftover (path : Path) (rest : Place) : Leftover :=
  ⟨pathBelow path rest, FileError.locked.message⟩

def leftoverWarning (left : Leftover) : LogRecord :=
  ⟨.warning, .directory, "Could not delete file " ++ left.path ++ ": " ++ left.reason⟩

/-- The files below a path that are asked for before a path is too long. -/
def asked (path : Path) (places : List Place) : List Place :=
  places.takeWhile fun rest => (Workspace.overlong? (pathBelow path rest)).isNone

/-- What breaks off the deleting of files below a path. -/
def deleteHalt? (path : Path) (places : List Place) : Option FileError :=
  places.findSome? fun rest => Workspace.overlong? (pathBelow path rest)

/-- Of the files that are asked for, the locked ones are reported in the order in which they come,
and the others are gone. -/
theorem deleteAll_eq (path : Path) (top : Place) (w : Workspace) (places : List Place) :
    deleteAll path top w places =
      let reported := ((asked path places).filter fun rest =>
        w.locked.contains (top ++ rest)).map (leftover path)
      ⟨deleteHalt? path places,
        { w with tree := without w.locked top (asked path places) w.tree }, reported,
        reported.map leftoverWarning⟩ := by
  induction places generalizing w with
  | nil =>
      rw [deleteAll, asked, List.takeWhile_nil, without_nil]
      rfl
  | cons rest more ih =>
      cases long : Workspace.overlong? (pathBelow path rest) with
      | some e =>
          have none : asked path (rest :: more) = [] := by
            rw [asked, List.takeWhile_cons_of_neg (by simp [long])]
          have halts : deleteHalt? path (rest :: more) = some e := by
            rw [deleteHalt?, List.findSome?_cons, long]
          rw [deleteAll, none, halts, without_nil]
          dsimp only
          rw [long]
          rfl
      | none =>
          have first : asked path (rest :: more) = rest :: asked path more := by
            rw [asked, List.takeWhile_cons_of_pos (by simp [long])]
            rfl
          have halts : deleteHalt? path (rest :: more) = deleteHalt? path more := by
            rw [deleteHalt?, List.findSome?_cons, long]
            rfl
          rw [deleteAll, first, halts]
          dsimp only
          rw [long]
          dsimp only
          by_cases isLocked : w.locked.contains (top ++ rest) = true
          · have refused : w.delete (top ++ rest) = .error .locked := by
              rw [Workspace.delete, if_pos isLocked]
            rw [refused, without_cons_of_locked (by simpa using isLocked),
              List.filter_cons_of_pos (p := fun rest => w.locked.contains (top ++ rest)) isLocked]
            dsimp only
            rw [ih w]
            rfl
          · have deleted : w.delete (top ++ rest) =
                .ok { w with tree := w.tree.erase (top ++ rest) } := by
              rw [Workspace.delete, if_neg isLocked]
            rw [deleted, ← without_erase (by simpa using isLocked),
              List.filter_cons_of_neg (p := fun rest => w.locked.contains (top ++ rest)) isLocked]
            exact ih { w with tree := w.tree.erase (top ++ rest) }

/-- Where no path is too long, all files are asked for. -/
theorem asked_of_short {path : Path} {places : List Place}
    (short : ∀ rest ∈ places, (pathBelow path rest).utf8ByteSize < Workspace.pathLimit) :
    asked path places = places :=
  List.takeWhile_eq_self_iff.mpr fun rest member => by
    rw [overlong?_eq_none_iff.mpr (short rest member), Option.isNone_none]

theorem deleteHalt?_eq_none_iff {path : Path} {places : List Place} :
    deleteHalt? path places = none ↔
      ∀ rest ∈ places, (pathBelow path rest).utf8ByteSize < Workspace.pathLimit := by
  simp only [deleteHalt?, List.findSome?_eq_none_iff, overlong?_eq_none_iff]

/-! ## Sweeping a directory -/

/-- The generated files below a place that cannot be deleted, in their order. -/
def stuck (w : Workspace) (top : Place) : List Place :=
  (generatedBelow w.tree top).filter fun rest => w.locked.contains (top ++ rest)

section Sweeping

variable {w : Workspace} {path : Path} {top : Place}

theorem sweep_of_walkHalt {halt : Halt} (halts : walkHalt? w path top = some halt) :
    sweep w path top = ⟨.error (.ofHalt .file halt), w, [], []⟩ := by
  rw [sweep, halts]

theorem sweep_of_deleteHalt {e : FileError} (walks : walkHalt? w path top = none)
    (halts : deleteHalt? path (generatedBelow w.tree top) = some e) :
    sweep w path top =
      let asked := asked path (generatedBelow w.tree top)
      ⟨.error (.file e), { w with tree := without w.locked top asked w.tree }, [],
        ((asked.filter fun rest => w.locked.contains (top ++ rest)).map (leftover path)).map
          leftoverWarning⟩ := by
  rw [sweep, walks]
  dsimp only
  rw [deleteAll_eq, halts]

/-- A directory that can be walked through loses just its stale files. -/
theorem sweep_of_walkable (walkable : Walkable w path top) :
    sweep w path top =
      let reported := (stuck w top).map (leftover path)
      ⟨.ok reported, { w with tree := swept w.locked top w.tree }, reported,
        reported.map leftoverWarning⟩ := by
  have short : ∀ rest ∈ generatedBelow w.tree top,
      (pathBelow path rest).utf8ByteSize < Workspace.pathLimit := fun rest member =>
    walkable.files rest (mem_generatedBelow_iff.mp member)
  rw [sweep, walkHalt?_eq_none_iff.mpr walkable.directories]
  dsimp only
  rw [deleteAll_eq, deleteHalt?_eq_none_iff.mpr short, asked_of_short short,
    without_generatedBelow]
  rfl

/-- A directory that cannot be walked through has something below it that breaks off the
sweeping. -/
theorem halts_of_not_walkable (barred : ¬ Walkable w path top) :
    (∃ halt, walkHalt? w path top = some halt) ∨
      walkHalt? w path top = none ∧
        ∃ e, deleteHalt? path (generatedBelow w.tree top) = some e := by
  cases walks : walkHalt? w path top with
  | some halt => exact .inl ⟨halt, rfl⟩
  | none =>
      refine .inr ⟨rfl, Option.ne_none_iff_exists'.mp fun none => barred ?_⟩
      exact ⟨walkHalt?_eq_none_iff.mp walks, fun rest generated =>
        deleteHalt?_eq_none_iff.mp none rest (mem_generatedBelow_iff.mpr generated)⟩

/-- A halt that something below a path brings about: there is no room for it, or its path is too
long. -/
def HaltBelow (path : Path) (halt : Halt) : Prop :=
  halt = .tooDeep ∨
    ∃ rest, rest ≠ [] ∧ halt = .failed (.refused .nameTooLong (pathBelow path rest))

theorem haltBelow_of_overlong {e : FileError} {rest : Place} (deeper : rest ≠ [])
    (long : Workspace.overlong? (pathBelow path rest) = some e) : HaltBelow path (.failed e) := by
  unfold Workspace.overlong? at long
  split at long
  · cases long
    exact .inr ⟨rest, deeper, rfl⟩
  · cases long

theorem haltBelow_of_walkHalt {halt : Halt} (halts : walkHalt? w path top = some halt) :
    HaltBelow path halt := by
  obtain ⟨rest, member, stops⟩ := List.exists_of_findSome?_eq_some halts
  unfold barrier? at stops
  split at stops
  · cases stops
    exact .inl rfl
  · obtain ⟨e, long, rfl⟩ := Option.map_eq_some_iff.mp stops
    exact haltBelow_of_overlong (mem_directoriesBelow.mp member).1 long

theorem haltBelow_of_deleteHalt {e : FileError}
    (halts : deleteHalt? path (generatedBelow w.tree top) = some e) :
    HaltBelow path (.failed e) := by
  obtain ⟨rest, member, long⟩ := List.exists_of_findSome?_eq_some halts
  exact haltBelow_of_overlong (mem_generatedBelow.mp member).1 long

/-- A sweeping that is broken off fails by what lies below the directory. -/
theorem sweep_outcome_of_not_walkable (barred : ¬ Walkable w path top) :
    ∃ halt, HaltBelow path halt ∧ (sweep w path top).outcome = .error (.ofHalt .file halt) := by
  rcases halts_of_not_walkable barred with ⟨halt, halts⟩ | ⟨walks, e, halts⟩
  · exact ⟨halt, haltBelow_of_walkHalt halts, by rw [sweep_of_walkHalt halts]⟩
  · exact ⟨.failed e, haltBelow_of_deleteHalt halts, by rw [sweep_of_deleteHalt walks halts]; rfl⟩

/-- A sweeping that is broken off reports nothing. -/
theorem sweep_diagnostics_of_failed {failure : Failure}
    (failed : (sweep w path top).outcome = .error failure) :
    (sweep w path top).diagnostics = [] := by
  unfold sweep at failed ⊢
  split
  · rfl
  · next walks =>
      dsimp only
      split
      · rfl
      · next whole =>
          rw [walks] at failed
          dsimp only at failed
          rw [whole] at failed
          cases failed

theorem walkable_of_sweep {leftovers : List Leftover}
    (ended : (sweep w path top).outcome = .ok leftovers) : Walkable w path top := by
  by_contra barred
  obtain ⟨halt, _, failed⟩ := sweep_outcome_of_not_walkable barred
  cases failed.symm.trans ended

/-- However a sweeping ends, only stale files are gone. -/
theorem sweep_thins (w : Workspace) (path : Path) (top : Place) :
    ∃ tree, Thinned w.locked top w.tree tree ∧
      (sweep w path top).workspace = { w with tree := tree } := by
  by_cases walkable : Walkable w path top
  · exact ⟨_, thinned_swept w.locked top w.tree, by rw [sweep_of_walkable walkable]⟩
  · rcases halts_of_not_walkable walkable with ⟨halt, halts⟩ | ⟨walks, e, halts⟩
    · exact ⟨w.tree, .refl w.locked top w.tree, by rw [sweep_of_walkHalt halts]⟩
    · refine ⟨_, thinned_without w.locked ?_, by rw [sweep_of_deleteHalt walks halts]⟩
      exact (List.takeWhile_sublist _).subset

end Sweeping

/-! ## Cleaning the target -/

variable {w : Workspace} {directory : Document} {resolved : String} {top : Place}

theorem clean_of_refused {failure : Failure} (refused : resolve directory = .error failure) :
    clean w directory = ⟨.error failure, w, [], []⟩ := by
  rw [clean, refused]

/-- Cleaning a directory that is there sweeps it. -/
theorem clean_of_leadsTo (isResolved : resolve directory = .ok resolved)
    (leads : w.LeadsTo resolved top) :
    clean w directory = sweep w (Path.ofString resolved) top := by
  rw [clean, isResolved]
  dsimp only
  rw [leads.1]
  dsimp only
  rw [if_pos leads.2]

theorem clean_of_walkable (isResolved : resolve directory = .ok resolved)
    (leads : w.LeadsTo resolved top) (walkable : Walkable w (Path.ofString resolved) top) :
    clean w directory =
      let reported := (stuck w top).map (leftover (Path.ofString resolved))
      ⟨.ok reported, { w with tree := swept w.locked top w.tree }, reported,
        reported.map leftoverWarning⟩ :=
  (clean_of_leadsTo isResolved leads).trans (sweep_of_walkable walkable)

/-- Without locked files nothing is reported. -/
theorem clean_of_walkable_unlocked (isResolved : resolve directory = .ok resolved)
    (leads : w.LeadsTo resolved top) (walkable : Walkable w (Path.ofString resolved) top)
    (unlocked : w.locked = []) :
    clean w directory = ⟨.ok [], { w with tree := swept [] top w.tree }, [], []⟩ := by
  have none : stuck w top = [] := by
    rw [stuck, unlocked]
    exact List.filter_eq_nil_iff.mpr fun rest _ => Bool.false_ne_true
  rw [clean_of_walkable isResolved leads walkable, none, unlocked]
  rfl

/-- A directory whose cleaning ends well can be walked through. -/
theorem walkable_of_clean {leftovers : List Leftover}
    (isResolved : resolve directory = .ok resolved) (leads : w.LeadsTo resolved top)
    (ended : (clean w directory).outcome = .ok leftovers) :
    Walkable w (Path.ofString resolved) top :=
  walkable_of_sweep (by rwa [clean_of_leadsTo isResolved leads] at ended)

/-- Cleaning where no directory is fails and leaves the files alone, or makes the directory. -/
theorem clean_of_not_leadsTo (missing : ∀ resolved top, resolve directory = .ok resolved →
      ¬ w.LeadsTo resolved top) :
    (∃ tree, FileTree.Grown w.tree tree ∧ (clean w directory).workspace = { w with tree := tree }) ∧
      ∀ leftovers, (clean w directory).outcome = .ok leftovers →
        clean w directory = ⟨.ok [], (clean w directory).workspace, [], []⟩ ∧
        ∃ resolved top, resolve directory = .ok resolved ∧
          (clean w directory).workspace.LeadsTo resolved top := by
  unfold clean
  split
  · exact ⟨⟨w.tree, .refl, rfl⟩, fun _ ended => nomatch ended⟩
  · next resolved isResolved =>
      dsimp only
      split
      · next top found =>
          have notDirectory : ¬ w.tree.isDirectory top = true :=
            fun there => missing resolved top isResolved ⟨found, there⟩
          rw [if_neg notDirectory]
          exact ⟨⟨w.tree, .refl, rfl⟩, fun _ ended => nomatch ended⟩
      · exact ⟨⟨w.tree, .refl, rfl⟩, fun _ ended => nomatch ended⟩
      · have grows := Workspace.makeDirectories_grows w (Path.ofString resolved)
        unfold create
        split
        · next w' made =>
            rw [made] at grows
            refine ⟨grows, fun _ _ => ⟨rfl, resolved, ?_⟩⟩
            obtain ⟨top, found, there⟩ := Workspace.locate_of_makeDirectories made
            exact ⟨top, isResolved, found, there⟩
        · next e w' made =>
            rw [made] at grows
            exact ⟨grows, fun _ ended => nomatch ended⟩

/-- A cleaning changes nothing of a workspace but its tree: it adds directories, or takes out stale
files below the target. -/
theorem clean_workspace_cases (w : Workspace) (directory : Document) :
    (∃ tree, FileTree.Grown w.tree tree ∧
      (clean w directory).workspace = { w with tree := tree }) ∨
    ∃ resolved top tree, resolve directory = .ok resolved ∧ w.LeadsTo resolved top ∧
      Thinned w.locked top w.tree tree ∧
      (clean w directory).workspace = { w with tree := tree } := by
  by_cases there : ∃ resolved top, resolve directory = .ok resolved ∧ w.LeadsTo resolved top
  · obtain ⟨resolved, top, isResolved, leads⟩ := there
    obtain ⟨tree, thinned, same⟩ := sweep_thins w (Path.ofString resolved) top
    exact .inr ⟨resolved, top, tree, isResolved, leads, thinned,
      by rw [clean_of_leadsTo isResolved leads, same]⟩
  · exact .inl (clean_of_not_leadsTo fun resolved top isResolved leads =>
      there ⟨resolved, top, isResolved, leads⟩).1

/-- In a tree without stray entries, a target that is made, and is not reached by going up, has no
file below it. -/
theorem file?_clean_of_made (rooted : w.tree.Rooted) (isResolved : resolve directory = .ok resolved)
    (descends : ∀ segment ∈ Text.splitAt '/' resolved, segment ≠ "..")
    (missing : ∀ place, ¬ w.LeadsTo resolved place)
    (leads : (clean w directory).workspace.LeadsTo resolved top) {rest : Place}
    (deeper : rest ≠ []) :
    (clean w directory).workspace.tree.file? (top ++ rest) = none := by
  have nowhere : ∀ other place, resolve directory = .ok other → ¬ w.LeadsTo other place := by
    intro other place again
    obtain rfl : resolved = other := Except.ok.inj (isResolved.symm.trans again)
    exact missing place
  obtain ⟨⟨tree, grown, made⟩, _⟩ := clean_of_not_leadsTo nowhere
  rw [made] at leads ⊢
  obtain ⟨askable, followed⟩ := Workspace.leadsTo_iff.mp leads
  have noDirectory : w.tree.isDirectory top = false := by
    rw [Bool.eq_false_iff]
    intro stood
    exact missing top (Workspace.leadsTo_iff.mpr
      ⟨askable, followed.of_rooted rooted descends stood⟩)
  rw [grown.file?, Option.eq_none_iff_forall_ne_some]
  intro content there
  rw [FileTree.file?_eq_some, rooted.get?_append noDirectory deeper] at there
  cases there

/-- If the cleaning ends well, the target leads to a directory. -/
theorem leadsTo_of_clean {leftovers : List Leftover}
    (ended : (clean w directory).outcome = .ok leftovers) :
    ∃ resolved top, resolve directory = .ok resolved ∧
      (clean w directory).workspace.LeadsTo resolved top := by
  by_cases there : ∃ resolved top, resolve directory = .ok resolved ∧ w.LeadsTo resolved top
  · obtain ⟨resolved, top, isResolved, leads⟩ := there
    rw [clean_of_walkable isResolved leads (walkable_of_clean isResolved leads ended)]
    exact ⟨resolved, top, isResolved, leads.mono fun p stands => by rw [isDirectory_swept, stands]⟩
  · exact ((clean_of_not_leadsTo fun resolved top isResolved leads =>
      there ⟨resolved, top, isResolved, leads⟩).2 leftovers ended).2

theorem rooted_clean (rooted : w.tree.Rooted) (directory : Document) :
    (clean w directory).workspace.tree.Rooted := by
  rcases clean_workspace_cases w directory with
    ⟨tree, grown, same⟩ | ⟨_, _, tree, _, _, thinned, same⟩
  · rw [same]
    exact grown.rooted rooted
  · rw [same]
    exact thinned.rooted rooted

/-- A cleaning changes nothing of a workspace but its tree. -/
theorem clean_workspace (w : Workspace) (directory : Document) :
    ∃ tree, (clean w directory).workspace = { w with tree := tree } := by
  rcases clean_workspace_cases w directory with
    ⟨tree, _, same⟩ | ⟨_, _, tree, _, _, _, same⟩ <;> exact ⟨tree, same⟩

end Target

end EntityScribe
