import EntityScribe.Generation
import EntityScribe.Loading
import EntityScribe.Proofs.Sweeping

/-!
# Runs do not look into files

A run asks where directories and files stand, and never what is in a file. Two workspaces that
differ in the content of one file at most give runs that end in the same way, log the same, and
leave workspaces that differ in the content of that file at most.
-/

namespace EntityScribe

namespace FileTree

/-- Two trees differ at most in the content of the file at one place. -/
structure AlikeBut (p : Place) (t u : FileTree) : Prop where
  kind : ∀ q, (u.get? q).map Entry.isFile = (t.get? q).map Entry.isFile
  elsewhere : ∀ q, q ≠ p → u.get? q = t.get? q

variable {p : Place} {t u : FileTree}

theorem AlikeBut.refl (p : Place) (t : FileTree) : AlikeBut p t t :=
  ⟨fun _ => rfl, fun _ _ => rfl⟩

theorem map_isFile_eq_some_false {q : Place} :
    (t.get? q).map Entry.isFile = some false ↔ t.isDirectory q = true := by
  rw [isDirectory_iff, Option.map_eq_some_iff]
  constructor
  · rintro ⟨_ | content, there, isFile⟩
    · exact there
    · cases isFile
  · intro there
    exact ⟨_, there, rfl⟩

/-- Taking something out of a tree shows at its place only, and not at the root. -/
theorem get?_erase_eq (t : FileTree) (place q : Place) :
    (t.erase place).get? q = if q = place ∧ q ≠ [] then none else t.get? q := by
  by_cases root : q = [] <;> simp [get?, erase, lookup_filter_ne, root]

/-- Putting something into a tree shows at its place only, and not at the root. -/
theorem get?_put_eq (t : FileTree) (place : Place) (e : Entry) (q : Place) :
    (t.put place e).get? q = if q = place ∧ q ≠ [] then some e else t.get? q := by
  by_cases root : q = []
  · simp [root]
  · by_cases below : place = []
    · have others : (t.put place e).get? q = (t.erase place).get? q := by
        simp [get?, put, root, below, List.lookup_cons, beq_false_of_ne root]
      rw [others, get?_erase_eq, below, if_neg (by simp [root]), if_neg (by simp [root])]
    · simp [get?_put t below, root]

/-- Whatever the content of a file is, the tree is the same otherwise. -/
theorem alikeBut_put (t : FileTree) (p : Place) (first second : ByteArray) :
    AlikeBut p (t.put p (.file first)) (t.put p (.file second)) := by
  refine ⟨fun q => ?_, fun q other => ?_⟩
  · rw [get?_put_eq, get?_put_eq, apply_ite (Option.map _), apply_ite (Option.map _)]
    rfl
  · rw [get?_put_eq, get?_put_eq, if_neg fun here => other here.1, if_neg fun here => other here.1]

namespace AlikeBut

variable (alike : AlikeBut p t u)

include alike

theorem isDirectory (q : Place) : u.isDirectory q = t.isDirectory q := by
  rw [Bool.eq_iff_iff, ← map_isFile_eq_some_false, ← map_isFile_eq_some_false, alike.kind]

theorem isNone_get? (q : Place) : (u.get? q).isNone = (t.get? q).isNone := by
  rw [← Option.isNone_map, alike.kind, Option.isNone_map]

theorem erase (place : Place) : AlikeBut p (t.erase place) (u.erase place) := by
  refine ⟨fun q => ?_, fun q other => ?_⟩
  · rw [get?_erase_eq, get?_erase_eq, apply_ite (Option.map _), alike.kind, ← apply_ite]
  · rw [get?_erase_eq, get?_erase_eq, alike.elsewhere q other]

theorem put (place : Place) (e : Entry) : AlikeBut p (t.put place e) (u.put place e) := by
  refine ⟨fun q => ?_, fun q other => ?_⟩
  · rw [get?_put_eq, get?_put_eq, apply_ite (Option.map _), alike.kind, ← apply_ite]
  · rw [get?_put_eq, get?_put_eq, alike.elsewhere q other]

end AlikeBut

end FileTree

/-! ## Requests -/

namespace Workspace

/-- Two workspaces differ at most in the content of the file at one place. -/
structure AlikeBut (p : Place) (v w : Workspace) : Prop where
  tree : v.tree.AlikeBut p w.tree
  home : w.home = v.home
  locked : w.locked = v.locked
  lineEnd : w.lineEnd = v.lineEnd
  room : w.room = v.room

/-- Two requests end with the same error, or both leave workspaces in a relation. -/
inductive Agree (R : Workspace → Workspace → Prop) :
    Except FileError Workspace → Except FileError Workspace → Prop where
  | error (e : FileError) : Agree R (.error e) (.error e)
  | ok {v w : Workspace} (related : R v w) : Agree R (.ok v) (.ok w)

section Agree

variable {R : Workspace → Workspace → Prop} {v : Workspace} {e : FileError}
  {result : Except FileError Workspace}

theorem Agree.eq_error (agree : Agree R (.error e) result) : result = .error e := by
  cases agree
  rfl

theorem Agree.exists_ok (agree : Agree R (.ok v) result) : ∃ w, result = .ok w ∧ R v w := by
  cases agree with
  | ok related => exact ⟨_, rfl, related⟩

end Agree

theorem AlikeBut.refl (p : Place) (w : Workspace) : AlikeBut p w w :=
  ⟨.refl p w.tree, rfl, rfl, rfl, rfl⟩

namespace AlikeBut

variable {p : Place} {v w : Workspace} (alike : AlikeBut p v w)

include alike

theorem withTree {t u : FileTree} (trees : t.AlikeBut p u) :
    AlikeBut p { v with tree := t } { w with tree := u } :=
  ⟨trees, alike.home, alike.locked, alike.lineEnd, alike.room⟩

theorem follow (here : Place) (segments : List String) :
    Workspace.follow w.tree here segments = Workspace.follow v.tree here segments := by
  induction segments generalizing here with
  | nil => rfl
  | cons segment rest ih =>
      rw [Workspace.follow, Workspace.follow, alike.tree.isDirectory, alike.tree.isNone_get?]
      simp only [ih]

theorem lookAbove (start : Place) (segments : List String) :
    Workspace.lookAbove w.tree start segments = Workspace.lookAbove v.tree start segments := by
  simp only [Workspace.lookAbove, alike.follow, alike.tree.isDirectory]

theorem placeForDirectory (start : Place) (segments : List String) :
    Workspace.placeForDirectory w.tree start segments =
      Workspace.placeForDirectory v.tree start segments := by
  simp only [Workspace.placeForDirectory, alike.lookAbove, ← Option.not_isNone,
    alike.tree.isNone_get?]

theorem placeForFile (start : Place) (segments : List String) :
    Workspace.placeForFile w.tree start segments =
      Workspace.placeForFile v.tree start segments := by
  simp only [Workspace.placeForFile, alike.lookAbove, alike.tree.isDirectory]

/-- Looks that agree on every start give the same answer. -/
theorem ask {α : Type} (path : String) {look other : Place → List String → Except Refusal α}
    (same : ∀ start segments, other start segments = look start segments) :
    w.ask path other = v.ask path look := by
  obtain rfl : other = look := funext₂ same
  simp only [Workspace.ask, origin, alike.home]

theorem locate (path : String) : w.locate path = v.locate path :=
  alike.ask path alike.follow

/-- The bytes of the other files are the same. -/
theorem readBytes {path : String} (elsewhere : v.locate path ≠ .ok p) :
    w.readBytes path = v.readBytes path := by
  unfold Workspace.readBytes
  rw [alike.locate]
  cases found : v.locate path with
  | error e => rfl
  | ok place =>
      have other : place ≠ p := fun here => elsewhere (here ▸ found)
      dsimp only
      rw [alike.tree.elsewhere place other]

theorem isDirectory (path : String) : w.isDirectory path = v.isDirectory path := by
  simp only [Workspace.isDirectory, alike.locate, alike.tree.isDirectory]

theorem makeDirectory (path : String) :
    Agree (AlikeBut p) (v.makeDirectory path) (w.makeDirectory path) := by
  rw [Workspace.makeDirectory, Workspace.makeDirectory, alike.ask path alike.placeForDirectory]
  cases v.ask path (Workspace.placeForDirectory v.tree) with
  | error e => exact .error e
  | ok place => exact .ok (alike.withTree (alike.tree.put place .directory))

theorem tolerate (path : Path) (e : FileError) : w.tolerate path e = v.tolerate path e := by
  simp only [Workspace.tolerate, alike.isDirectory]

theorem ensureDirectory (path : Path) :
    (w.ensureDirectory path).1 = (v.ensureDirectory path).1 ∧
      AlikeBut p (v.ensureDirectory path).2 (w.ensureDirectory path).2 := by
  have agree := alike.makeDirectory path.text
  unfold Workspace.ensureDirectory
  generalize v.makeDirectory path.text = first at agree ⊢
  generalize w.makeDirectory path.text = second at agree ⊢
  cases agree with
  | ok made => exact ⟨rfl, made⟩
  | error e =>
      simp only [alike.tolerate]
      split
      · next here => cases here
      · exact ⟨rfl, alike⟩
      · exact ⟨rfl, alike⟩

theorem makeDirectoriesWithin (room : Nat) (path : Path) :
    (w.makeDirectoriesWithin room path).1 = (v.makeDirectoriesWithin room path).1 ∧
      AlikeBut p (v.makeDirectoriesWithin room path).2 (w.makeDirectoriesWithin room path).2 := by
  have agree := alike.makeDirectory path.text
  fun_induction Workspace.makeDirectoriesWithin room v path with
  | case1 room path made result =>
      rw [result] at agree
      obtain ⟨other, again, related⟩ := agree.exists_ok
      unfold Workspace.makeDirectoriesWithin
      rw [again]
      exact ⟨rfl, related⟩
  | case2 room path q result none =>
      rw [result] at agree
      unfold Workspace.makeDirectoriesWithin
      rw [agree.eq_error]
      simp only [none, if_true]
      exact ⟨trivial, alike⟩
  | case3 path q result some =>
      rw [result] at agree
      unfold Workspace.makeDirectoriesWithin
      rw [agree.eq_error]
      simp only [some, if_false]
      exact ⟨trivial, alike⟩
  | case4 path q result some room halt made failed ih =>
      have above := ih (alike.makeDirectory path.parent.text)
      rw [result] at agree
      unfold Workspace.makeDirectoriesWithin
      rw [agree.eq_error]
      simp only [some, if_false]
      generalize w.makeDirectoriesWithin room path.parent = ended at above ⊢
      obtain ⟨outcome, other⟩ := ended
      rw [failed] at above
      obtain ⟨rfl, related⟩ := above
      exact ⟨rfl, related⟩
  | case5 path q result some room made succeeded ih =>
      have above := ih (alike.makeDirectory path.parent.text)
      rw [result] at agree
      unfold Workspace.makeDirectoriesWithin
      rw [agree.eq_error]
      simp only [some, if_false]
      generalize w.makeDirectoriesWithin room path.parent = ended at above ⊢
      obtain ⟨outcome, other⟩ := ended
      rw [succeeded] at above
      obtain ⟨rfl, related⟩ := above
      exact related.ensureDirectory path
  | case6 room path e notAbsent result =>
      rw [result] at agree
      unfold Workspace.makeDirectoriesWithin
      rw [agree.eq_error]
      split
      · next here => cases here
      · next q here => exact absurd (Except.error.inj here) (notAbsent q)
      · next here =>
          cases here
          exact ⟨alike.tolerate path e, alike⟩

theorem makeDirectories (path : Path) :
    (w.makeDirectories path).1 = (v.makeDirectories path).1 ∧
      AlikeBut p (v.makeDirectories path).2 (w.makeDirectories path).2 := by
  rw [Workspace.makeDirectories, Workspace.makeDirectories, alike.room]
  exact alike.makeDirectoriesWithin v.room path

theorem writeFile (path content : String) :
    Agree (AlikeBut p) (v.writeFile path content) (w.writeFile path content) := by
  rw [Workspace.writeFile, Workspace.writeFile, alike.ask path alike.placeForFile]
  cases v.ask path (Workspace.placeForFile v.tree) with
  | error e => exact .error e
  | ok place => exact .ok (alike.withTree (alike.tree.put place _))

theorem delete (place : Place) : Agree (AlikeBut p) (v.delete place) (w.delete place) := by
  unfold Workspace.delete
  by_cases locked : v.locked.contains place = true
  · rw [if_pos locked, if_pos (alike.locked ▸ locked)]
    exact .error .locked
  · rw [if_neg locked, if_neg (alike.locked ▸ locked)]
    exact .ok (alike.withTree (alike.tree.erase place))

end AlikeBut

end Workspace

/-- A model comes from its own file. -/
theorem Model.load_congr {p : Place} {v w : Workspace} (alike : v.AlikeBut p w) {path : String}
    (elsewhere : v.locate path ≠ .ok p) (read : DocumentReader) :
    load read w path = load read v path := by
  rw [load, load, alike.readBytes elsewhere]

/-! ## Target directories

What is done to a target ends in the same way in both workspaces, logs the same, and leaves them
alike. -/

namespace Target

/-- What is chosen by names and kinds is at the same places. -/
theorem placesBelow_congr {p : Place} {t u : FileTree} (alike : t.AlikeBut p u) (top : Place)
    {chosen : Place → Entry → Bool}
    (byKind : ∀ rest d e, Entry.isFile d = e.isFile → chosen rest d = chosen rest e) :
    placesBelow u top chosen = placesBelow t top chosen := by
  refine (pairwise_placesBelow u top chosen).eq_of_mem_iff (pairwise_placesBelow t top chosen)
    fun rest => ?_
  rw [mem_placesBelow, mem_placesBelow]
  have kinds := alike.kind (top ++ rest)
  refine and_congr_right fun _ => ?_
  cases here : u.get? (top ++ rest) with
  | none =>
      cases there : t.get? (top ++ rest) with
      | none => rfl
      | some e =>
          rw [here, there] at kinds
          cases kinds
  | some d =>
      cases there : t.get? (top ++ rest) with
      | none =>
          rw [here, there] at kinds
          cases kinds
      | some e =>
          rw [here, there] at kinds
          have same := byKind rest d e (Option.some.inj kinds)
          simp [same]

theorem generatedBelow_congr {p : Place} {t u : FileTree} (alike : t.AlikeBut p u) (top : Place) :
    generatedBelow u top = generatedBelow t top :=
  placesBelow_congr alike top fun rest d e kinds => by rw [isGenerated, isGenerated, kinds]

theorem directoriesBelow_congr {p : Place} {t u : FileTree} (alike : t.AlikeBut p u)
    (top : Place) : directoriesBelow u top = directoriesBelow t top :=
  placesBelow_congr alike top fun _ _ _ kinds => congrArg Bool.not kinds

structure Cleanup.AlikeBut (p : Place) (c d : Cleanup) : Prop where
  halt : d.halt = c.halt
  workspace : c.workspace.AlikeBut p d.workspace
  leftovers : d.leftovers = c.leftovers
  log : d.log = c.log

structure Cleaned.AlikeBut (p : Place) (c d : Cleaned) : Prop where
  outcome : d.outcome = c.outcome
  workspace : c.workspace.AlikeBut p d.workspace
  diagnostics : d.diagnostics = c.diagnostics
  log : d.log = c.log

structure Written.AlikeBut (p : Place) (c d : Written) : Prop where
  outcome : d.outcome = c.outcome
  workspace : c.workspace.AlikeBut p d.workspace
  log : d.log = c.log

variable {p : Place} {v w : Workspace}

theorem deleteAll_alike (alike : v.AlikeBut p w) (path : Path) (top : Place) (places : List Place) :
    (deleteAll path top v places).AlikeBut p (deleteAll path top w places) := by
  induction places generalizing v w with
  | nil => exact ⟨rfl, alike, rfl, rfl⟩
  | cons rest more ih =>
      have agree := alike.delete (top ++ rest)
      unfold deleteAll
      dsimp only
      cases Workspace.overlong? (pathBelow path rest) with
      | some e => exact ⟨rfl, alike, rfl, rfl⟩
      | none =>
          dsimp only
          generalize v.delete (top ++ rest) = first at agree ⊢
          generalize w.delete (top ++ rest) = second at agree ⊢
          cases agree with
          | ok related => exact ih related
          | error e =>
              have others := ih alike
              exact ⟨others.halt, others.workspace, congrArg (_ :: ·) others.leftovers,
                congrArg (_ :: ·) others.log⟩

theorem sweep_alike (alike : v.AlikeBut p w) (path : Path) (top : Place) :
    (sweep v path top).AlikeBut p (sweep w path top) := by
  have walk : walkHalt? w path top = walkHalt? v path top := by
    rw [walkHalt?, walkHalt?, directoriesBelow_congr alike.tree, alike.room]
  have cleanup := deleteAll_alike alike path top (generatedBelow v.tree top)
  unfold sweep
  rw [walk, generatedBelow_congr alike.tree]
  cases walkHalt? v path top with
  | some halt => exact ⟨rfl, alike, rfl, rfl⟩
  | none =>
      dsimp only
      rw [cleanup.halt]
      cases (deleteAll path top v (generatedBelow v.tree top)).halt with
      | some e => exact ⟨rfl, cleanup.workspace, rfl, cleanup.log⟩
      | none =>
          exact ⟨congrArg Except.ok cleanup.leftovers, cleanup.workspace, cleanup.leftovers,
            cleanup.log⟩

theorem create_alike (alike : v.AlikeBut p w) (path : Path) :
    (create v path).AlikeBut p (create w path) := by
  obtain ⟨same, related⟩ := alike.makeDirectories path
  unfold create
  generalize v.makeDirectories path = first at same related ⊢
  generalize w.makeDirectories path = second at same related ⊢
  obtain ⟨outcome, made⟩ := first
  obtain ⟨again, other⟩ := second
  obtain rfl : again = outcome := same
  cases again with
  | ok => exact ⟨rfl, related, rfl, rfl⟩
  | error halt => exact ⟨rfl, related, rfl, rfl⟩

theorem clean_alike (alike : v.AlikeBut p w) (directory : Document) :
    (clean v directory).AlikeBut p (clean w directory) := by
  unfold clean
  cases resolve directory with
  | error failure => exact ⟨rfl, alike, rfl, rfl⟩
  | ok resolved =>
      simp only [alike.locate, alike.tree.isDirectory]
      cases v.locate (Path.ofString resolved).text with
      | ok top =>
          dsimp only
          cases v.tree.isDirectory top with
          | true => exact sweep_alike alike (Path.ofString resolved) top
          | false => exact ⟨rfl, alike, rfl, rfl⟩
      | error e =>
          split
          · next here => cases here
          · exact ⟨rfl, alike, rfl, rfl⟩
          · exact create_alike alike _

theorem writeEach_alike (alike : v.AlikeBut p w) (directory : String) (artifacts : List Artifact) :
    (writeEach directory v artifacts).AlikeBut p (writeEach directory w artifacts) := by
  induction artifacts generalizing v w with
  | nil => exact ⟨rfl, alike, rfl⟩
  | cons a more ih =>
      have agree := alike.writeFile (a.fileIn directory) (Newline.toPlatform v.lineEnd a.text)
      unfold writeEach
      dsimp only
      rw [alike.lineEnd]
      generalize v.writeFile _ _ = first at agree ⊢
      generalize w.writeFile _ _ = second at agree ⊢
      cases agree with
      | error e => exact ⟨rfl, alike, rfl⟩
      | ok related =>
          have rest := ih related
          exact ⟨rest.outcome, rest.workspace, congrArg (_ :: ·) rest.log⟩

theorem write_alike (alike : v.AlikeBut p w) (directory : String) (artifacts : List Artifact) :
    (write v directory artifacts).AlikeBut p (write w directory artifacts) := by
  obtain ⟨same, related⟩ := alike.makeDirectories (Path.ofString directory)
  unfold write
  generalize v.makeDirectories (Path.ofString directory) = first at same related ⊢
  generalize w.makeDirectories (Path.ofString directory) = second at same related ⊢
  obtain ⟨outcome, made⟩ := first
  obtain ⟨again, other⟩ := second
  obtain rfl : again = outcome := same
  cases again with
  | error e => exact ⟨rfl, related, rfl⟩
  | ok => exact writeEach_alike related directory artifacts

end Target

/-! ## Runs -/

/-- What two runs show is the same, and their workspaces differ in the content of the file at one
place at most. -/
structure Run.AlikeBut {σ : Type} (p : Place) (first second : Run σ) : Prop where
  outcome : second.outcome = first.outcome
  workspace : first.workspace.AlikeBut p second.workspace
  memory : second.memory = first.memory
  log : second.log = first.log
  diagnostics : second.diagnostics = first.diagnostics

namespace Generation

variable {σ : Type} {p : Place} {v w : Workspace}

theorem performAll_alike (alike : v.AlikeBut p w) (directory : String) (memory : σ)
    (ts : List (Task σ)) :
    (performAll directory v memory ts).AlikeBut p (performAll directory w memory ts) := by
  induction ts generalizing v w memory with
  | nil => exact ⟨rfl, alike, rfl, rfl, rfl⟩
  | cons t more ih =>
      unfold performAll
      dsimp only
      cases (t.perform memory).answer.outcome with
      | error failure => exact ⟨rfl, alike, rfl, rfl, rfl⟩
      | ok artifacts =>
          have written := Target.write_alike alike directory artifacts
          dsimp only
          generalize Target.write v directory artifacts = first at written ⊢
          generalize Target.write w directory artifacts = second at written ⊢
          obtain ⟨outcome, related, log⟩ := written
          rw [outcome, log]
          cases first.outcome with
          | error failure => exact ⟨rfl, related, rfl, rfl, rfl⟩
          | ok =>
              have rest := ih related (t.perform memory).memory
              dsimp only
              rw [rest.outcome, rest.log]
              exact ⟨rfl, rest.workspace, rest.memory, rfl, rest.diagnostics⟩

theorem runIn_alike (alike : v.AlikeBut p w) (directory : String) (memory : σ) (m : Model)
    (plugins : List (Plugin σ)) :
    (runIn directory v memory m plugins).AlikeBut p (runIn directory w memory m plugins) := by
  obtain ⟨outcome, workspace, after, log, diagnostics⟩ :=
    performAll_alike alike directory memory (tasks m plugins)
  refine ⟨outcome, workspace, after, ?_, diagnostics⟩
  simp only [runIn, outcome, log]

/-- A run does not depend on what is in a file. -/
theorem generate_alike (alike : v.AlikeBut p w) (m : Model) (directory : Document)
    (plugins : List (Plugin σ)) (memory : σ) :
    (generate v m directory plugins memory).AlikeBut p (generate w m directory plugins memory) := by
  unfold generate
  cases Target.resolve directory with
  | error failure => exact ⟨rfl, alike, rfl, rfl, rfl⟩
  | ok resolved =>
      obtain ⟨outcome, related, diagnostics, log⟩ := Target.clean_alike alike (.text resolved)
      dsimp only
      rw [outcome, log, diagnostics]
      cases (Target.clean v (.text resolved)).outcome with
      | error failure => exact ⟨rfl, related, rfl, rfl, rfl⟩
      | ok =>
          have run := runIn_alike related resolved memory m plugins
          exact ⟨run.outcome, run.workspace, run.memory, congrArg (_ ++ ·) run.log, rfl⟩

end Generation

end EntityScribe
