import EntityScribe.Proofs.Calls

/-!
# Artifacts are written as the plugins are called

A whole run is a cleaning and then the calls. Under plain names every file goes directly into the
target, so what a run has persisted at any moment can be told from what the handlers gave alone.
-/

namespace EntityScribe

namespace Target

/-- The workspace with the files of artifacts put directly into a directory. -/
def filed (w : Workspace) (top : Place) (artifacts : List Artifact) : Workspace :=
  { w with
    tree := w.tree.putFiles (artifacts.map fun a => (top ++ [fileName a], bytes w.lineEnd a)) }

variable {w : Workspace} {top : Place} {artifacts : List Artifact}

/-- Files of artifacts with plain names are laid directly into the target. -/
theorem overlay_eq_filed {front : String} (leads : w.LeadsTo (front ++ "/") top)
    (plain : ∀ a ∈ artifacts, '/' ∉ a.name.toList)
    (fit : ∀ a ∈ artifacts, fits w (front ++ "/") a = true) :
    overlay w (front ++ "/") artifacts = filed w top artifacts := by
  have files : artifacts.filterMap (fileOf w (front ++ "/")) =
      artifacts.map fun a => (top ++ [fileName a], bytes w.lineEnd a) := by
    induction artifacts with
    | nil => rfl
    | cons a more ih =>
        obtain ⟨plainFirst, plainRest⟩ := List.forall_mem_cons.mp plain
        obtain ⟨fitsFirst, fitRest⟩ := List.forall_mem_cons.mp fit
        obtain ⟨place, goes⟩ := fits_iff.mp fitsFirst
        have file := fileOf_of_site goes
        rw [site_of_plain leads plainFirst goes] at file
        rw [List.filterMap_cons_some file, ih plainRest fitRest, List.map_cons]
  rw [overlay, filed, files]

theorem lookup_map_place {α : Type} (place : Artifact → Place) (f : Artifact → α)
    (artifacts : List Artifact) (q : Place) :
    (artifacts.map fun a => (place a, f a)).lookup q =
      (artifacts.find? (place · == q)).map f := by
  induction artifacts with
  | nil => rfl
  | cons a more ih =>
      rw [List.map_cons, List.lookup_cons, List.find?_cons, ih]
      by_cases same : place a = q
      · simp [same]
      · rw [beq_false_of_ne same, beq_false_of_ne (Ne.symm same)]

/-- The artifact whose file is put last at a place of a directory's tree. -/
def lastAt (top : Place) (artifacts : List Artifact) (q : Place) : Option Artifact :=
  artifacts.reverse.find? fun a => top ++ [fileName a] == q

/-- A place holds the file of the last artifact that goes there, or what was there before. -/
theorem get?_filed (w : Workspace) (top : Place) (artifacts : List Artifact) (q : Place) :
    (filed w top artifacts).tree.get? q =
      ((lastAt top artifacts q).map fun a => .file (bytes w.lineEnd a)).or (w.tree.get? q) := by
  have below : ∀ file ∈ artifacts.map fun a => (top ++ [fileName a], bytes w.lineEnd a),
      file.1 ≠ [] := by
    intro file member
    obtain ⟨a, _, rfl⟩ := List.mem_map.mp member
    simp
  rw [filed, FileTree.get?_putFiles below, ← List.map_reverse, lookup_map_place, Option.map_map]
  rfl

/-- A file in the directory is that of the last artifact with its name, or what was there before. -/
theorem file?_filed (w : Workspace) (top : Place) (artifacts : List Artifact) (name : String) :
    (filed w top artifacts).tree.file? (top ++ [name]) =
      ((artifacts.reverse.find? (fileName · == name)).map (bytes w.lineEnd)).or
        (w.tree.file? (top ++ [name])) := by
  have byName : lastAt top artifacts (top ++ [name]) =
      artifacts.reverse.find? (fileName · == name) := by
    refine congrArg (artifacts.reverse.find? ·) (funext fun a => ?_)
    simp
  rw [FileTree.file?, FileTree.file?, get?_filed, byName]
  cases artifacts.reverse.find? (fileName · == name) <;> rfl

end Target

namespace Generation

open Target

variable {σ : Type}

/-! ## Whole runs -/

variable {w : Workspace} {directory : Document} {resolved : String} {top : Place}
  {leftovers : List Leftover}

/-- A run whose cleaning fails does nothing else. -/
theorem generate_of_failed (m : Model) (plugins : List (Plugin σ)) (memory : σ) {failure : Failure}
    (failed : (clean w directory).outcome = .error failure) :
    let run := generate w m directory plugins memory
    run.outcome = .error failure ∧ run.workspace = (clean w directory).workspace ∧
      run.calls = [] := by
  unfold generate
  split
  · next refused isRefused =>
      rw [clean_of_refused isRefused] at failed ⊢
      cases failed
      exact ⟨rfl, rfl, rfl⟩
  · next resolved isResolved =>
      dsimp only
      rw [clean_resolved w isResolved, failed]
      exact ⟨rfl, rfl, rfl⟩

/-- After a cleaning that ends well, a run is the performing of its tasks. -/
theorem generate_of_clean (m : Model) (plugins : List (Plugin σ)) (memory : σ)
    (isResolved : resolve directory = .ok resolved)
    (cleaned : (clean w directory).outcome = .ok leftovers) :
    let run := generate w m directory plugins memory
    let tail := performAll resolved (clean w directory).workspace memory (tasks m plugins)
    run.outcome = tail.outcome ∧ run.workspace = tail.workspace ∧ run.calls = tail.calls := by
  rw [generate, isResolved]
  dsimp only
  rw [clean_resolved w isResolved, cleaned]
  exact ⟨rfl, rfl, rfl⟩

/-- Whatever ends a run after the cleaning, it leaves what it has persisted. -/
theorem generate_workspace (m : Model) (plugins : List (Plugin σ)) (memory : σ)
    (isResolved : resolve directory = .ok resolved)
    (cleaned : (clean w directory).outcome = .ok leftovers) :
    (generate w m directory plugins memory).workspace =
      overlay (clean w directory).workspace resolved
        (persisted (clean w directory).workspace resolved (replies memory (tasks m plugins))) := by
  obtain ⟨other, top, again, leads⟩ := leadsTo_of_clean cleaned
  obtain rfl : resolved = other := Except.ok.inj (isResolved.symm.trans again)
  obtain ⟨_, workspace, _⟩ := generate_of_clean m plugins memory isResolved cleaned
  obtain ⟨_, ending⟩ := performAll_persists leads memory (tasks m plugins)
  exact workspace.trans ending.final_eq

/-- However a run ends, it leaves no entry outside of a directory. -/
theorem rooted_generate (rooted : w.tree.Rooted) (m : Model) (directory : Document)
    (plugins : List (Plugin σ)) (memory : σ) :
    (generate w m directory plugins memory).workspace.tree.Rooted := by
  have cleanRooted := rooted_clean rooted directory
  cases ended : (clean w directory).outcome with
  | error failure =>
      rw [(generate_of_failed m plugins memory ended).2.1]
      exact cleanRooted
  | ok leftovers =>
      obtain ⟨resolved, _, isResolved, _⟩ := leadsTo_of_clean ended
      rw [generate_workspace m plugins memory isResolved ended]
      exact rooted_overlay cleanRooted resolved _

/-- A run without a failure performs all its tasks and gives what they give. -/
theorem performed_of_generate {m : Model} {plugins : List (Plugin σ)} {memory : σ}
    {artifacts : List Artifact}
    (succeeded : (generate w m directory plugins memory).outcome = .ok artifacts) :
    artifacts = given (replies memory (tasks m plugins)) ∧
      ∀ r ∈ replies memory (tasks m plugins), r.answer.outcome.isOk = true := by
  cases ended : (clean w directory).outcome with
  | error failure =>
      rw [(generate_of_failed m plugins memory ended).1] at succeeded
      cases succeeded
  | ok leftovers =>
      obtain ⟨resolved, top, isResolved, leads⟩ := leadsTo_of_clean ended
      obtain ⟨outcome, _, _⟩ := generate_of_clean m plugins memory isResolved ended
      obtain ⟨_, ending⟩ := performAll_persists leads memory (tasks m plugins)
      have ok := outcome.symm.trans succeeded
      exact ⟨(ending.of_ok ok).1, (ending.all_of_ok ok).1⟩

theorem given_of_generate {m : Model} {plugins : List (Plugin σ)} {memory : σ}
    {artifacts : List Artifact}
    (succeeded : (generate w m directory plugins memory).outcome = .ok artifacts) :
    artifacts = given (replies memory (tasks m plugins)) :=
  (performed_of_generate succeeded).1

theorem generate_of_fits {m : Model} {plugins : List (Plugin σ)} {memory : σ}
    (isResolved : resolve directory = .ok resolved)
    (cleaned : (clean w directory).outcome = .ok leftovers)
    (performed : ∀ r ∈ replies memory (tasks m plugins), r.answer.outcome.isOk = true)
    (fit : ∀ a ∈ given (replies memory (tasks m plugins)),
      fits (clean w directory).workspace resolved a = true) :
    (generate w m directory plugins memory).outcome =
      .ok (given (replies memory (tasks m plugins))) := by
  obtain ⟨other, top, again, leads⟩ := leadsTo_of_clean cleaned
  obtain rfl : resolved = other := Except.ok.inj (isResolved.symm.trans again)
  obtain ⟨outcome, _, _⟩ := generate_of_clean m plugins memory isResolved cleaned
  obtain ⟨_, ending⟩ := performAll_persists leads memory (tasks m plugins)
  exact outcome.trans (ending.of_fits performed fit)

/-- Of the generated files in a target that is there, a cleaning leaves the locked ones. -/
theorem file?_clean (isResolved : resolve directory = .ok resolved)
    (leads : w.LeadsTo resolved top) (cleaned : (clean w directory).outcome = .ok leftovers)
    {name : String}
    (generated : Artifact.fileEnding.toList.isSuffixOf name.toList = true) (content : ByteArray) :
    (clean w directory).workspace.tree.file? (top ++ [name]) = some content ↔
      w.tree.file? (top ++ [name]) = some content ∧ top ++ [name] ∈ w.locked := by
  rw [clean_of_walkable isResolved leads (walkable_of_clean isResolved leads cleaned)]
  dsimp only
  rw [file?_swept, Bool.eq_false_iff, ne_eq, stale_iff]
  apply and_congr_right
  intro _
  constructor
  · intro kept
    by_cases isLocked : top ++ [name] ∈ w.locked
    · exact isLocked
    · have goes : isGenerated [name] (.file content) = true := by
        simpa [isGenerated, Entry.isFile] using generated
      exact absurd ⟨[name], rfl, List.cons_ne_nil _ _, goes, isLocked⟩ kept
  · rintro isLocked ⟨_, _, _, _, isFree⟩
    exact isFree isLocked

/-- The last artifact whose file has a name. -/
def lastNamed (artifacts : List Artifact) (name : String) : Option Artifact :=
  artifacts.reverse.find? (fileName · == name)

/-- What the artifacts of a run are at every moment, by what the handlers give alone. -/
structure Persists (w : Workspace) (m : Model) (directory : Document) (plugins : List (Plugin σ))
    (memory : σ) (resolved : String) (top : Place) : Prop where
  isResolved : resolve directory = .ok resolved
  leads : (clean w directory).workspace.LeadsTo resolved top
  /-- There is at most one call for each task, in the order of the tasks, and it finds the cleaned
  tree overlaid with what the calls before it gave. -/
  see : CallsSee (filed (clean w directory).workspace top) (tasks m plugins)
    (replies memory (tasks m plugins)) (generate w m directory plugins memory).calls
  ending : Ending resolved (filed (clean w directory).workspace top)
    (replies memory (tasks m plugins)) (generate w m directory plugins memory).calls.length
    (generate w m directory plugins memory).outcome
    (generate w m directory plugins memory).workspace
  /-- After a run without a failure, a file in the target is that of the last artifact with its
  name, or what the cleaning left. -/
  lastWins : ∀ artifacts, (generate w m directory plugins memory).outcome = .ok artifacts →
    ∀ name, (generate w m directory plugins memory).workspace.tree.file? (top ++ [name]) =
      ((lastNamed artifacts name).map (bytes w.lineEnd)).or
        ((clean w directory).workspace.tree.file? (top ++ [name]))
  /-- Of the generated files in a target that was there, the cleaning leaves the locked ones. -/
  left : w.LeadsTo resolved top →
    ∀ name, Artifact.fileEnding.toList.isSuffixOf name.toList = true → ∀ content,
      ((clean w directory).workspace.tree.file? (top ++ [name]) = some content ↔
        w.tree.file? (top ++ [name]) = some content ∧ top ++ [name] ∈ w.locked)
  /-- In a tree without stray entries, a target that is made without going up is empty then. -/
  fresh : w.tree.Rooted → (∀ segment ∈ Text.splitAt '/' resolved, segment ≠ "..") →
    (∀ place, ¬ w.LeadsTo resolved place) →
    ∀ name, (clean w directory).workspace.tree.file? (top ++ [name]) = none

end Generation

end EntityScribe
