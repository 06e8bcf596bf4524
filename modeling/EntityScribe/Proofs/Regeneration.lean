import EntityScribe.BuiltIn
import EntityScribe.Proofs.Rerun

/-!
# Running once more on what a run has left

A run that ends well writes its artifacts over whatever the cleaning has left, and the same run on
the result can write every one of them again, if its cleaning can walk through the target. So it
gives the same artifacts, and it leaves the same tree unless its cleaning finds a generated file
that no artifact renews. Only a cleaning that makes the target and comes upon a directory there
leaves such files, or a target that cannot be walked through.
-/

namespace EntityScribe

namespace Target

/-- Putting files in, sweeping, and putting them in again leaves what sweeping leaves of all that
stands elsewhere. -/
theorem entries_putFiles_swept_putFiles (locked : List Place) (top : Place) (t : FileTree)
    (files : List (Place × ByteArray)) :
    ((swept locked top (t.putFiles files)).putFiles files).entries =
      (FileTree.empty.putFiles files).entries ++
        (t.entries.filter fun entry => !(files.map (·.1)).contains entry.1).filter
          fun entry => !stale locked top entry.1 entry.2 := by
  rw [FileTree.entries_putFiles, entries_swept, FileTree.entries_putFiles t, List.filter_append,
    List.filter_append]
  congr 1
  -- What is put in may be swept, and so is left out here either way: it is put in again.
  have own : ((FileTree.empty.putFiles files).entries.filter fun entry =>
      !stale locked top entry.1 entry.2).filter
        (fun entry => !(files.map (·.1)).contains entry.1) = [] := by
    refine List.filter_eq_nil_iff.mpr fun entry member => ?_
    rcases FileTree.fst_mem_of_mem_putFiles (List.mem_filter.mp member).1 with inside | nowhere
    · rw [List.contains_iff_mem.mpr inside]
      exact Bool.false_ne_true
    · cases nowhere
  rw [own, List.nil_append]
  exact List.filter_eq_self.mpr fun entry member =>
    (List.mem_filter.mp (List.mem_filter.mp member).1).2

/-- Files that have been put in make up for the sweeping when they are put in again, just if nothing
stale stands elsewhere. -/
theorem putFiles_swept_putFiles_iff (locked : List Place) (top : Place) (t : FileTree)
    (files : List (Place × ByteArray)) :
    (swept locked top (t.putFiles files)).putFiles files = t.putFiles files ↔
      ∀ place e, (place, e) ∈ t.entries → stale locked top place e = true →
        place ∈ files.map (·.1) := by
  rw [FileTree.ext_iff, entries_putFiles_swept_putFiles, FileTree.entries_putFiles t,
    List.append_cancel_left_eq, List.filter_eq_self]
  constructor
  · intro kept place e member isStale
    refine Decidable.byContradiction fun elsewhere => ?_
    have stays := kept (place, e) (List.mem_filter.mpr ⟨member, by simpa using elsewhere⟩)
    rw [isStale] at stays
    cases stays
  · rintro renewed ⟨place, e⟩ member
    obtain ⟨there, elsewhere⟩ := List.mem_filter.mp member
    cases isStale : stale locked top place e with
    | false => rfl
    | true =>
        rw [List.contains_iff_mem.mpr (renewed place e there isStale)] at elsewhere
        cases elsewhere

variable {w : Workspace} {directory : Document} {resolved : String} {top : Place}
  {artifacts : List Artifact}

/-- Cleaning a target in which artifacts have been written takes the stale files out, if it can be
walked through. -/
theorem clean_overlay_of_walkable (isResolved : resolve directory = .ok resolved)
    (leads : w.LeadsTo resolved top) (walkable : Walkable w (Path.ofString resolved) top)
    (artifacts : List Artifact) :
    ∃ leftovers, (clean (overlay w resolved artifacts) directory).outcome = .ok leftovers ∧
      (clean (overlay w resolved artifacts) directory).workspace =
        { w with tree := swept w.locked top (overlay w resolved artifacts).tree } := by
  rw [clean_of_walkable isResolved (leadsTo_overlay leads artifacts)
    ((walkable_overlay_iff isResolved leads artifacts).mpr walkable)]
  exact ⟨_, rfl, rfl⟩

theorem fileOf_swept_overlay (w : Workspace) (top : Place) (artifacts : List Artifact) :
    fileOf { w with tree := swept w.locked top (overlay w resolved artifacts).tree } resolved =
      fileOf w resolved :=
  fileOf_congr fun p => (isDirectory_swept ..).trans (isDirectory_overlay w resolved artifacts p)

theorem mem_files_iff {place : Place} :
    place ∈ (artifacts.filterMap (fileOf w resolved)).map (·.1) ↔
      ∃ a ∈ artifacts, site w resolved a = .ok place := by
  constructor
  · intro member
    obtain ⟨file, inside, rfl⟩ := List.mem_map.mp member
    obtain ⟨a, among, chosen⟩ := List.mem_filterMap.mp inside
    exact ⟨a, among, site_of_fileOf chosen⟩
  · rintro ⟨a, among, goes⟩
    exact List.mem_map.mpr ⟨_, List.mem_filterMap.mpr ⟨a, among, fileOf_of_site goes⟩, rfl⟩

theorem renewed_iff (isResolved : resolve directory = .ok resolved)
    (leads : w.LeadsTo resolved top) :
    Renewed w directory artifacts ↔
      ∀ place e, (place, e) ∈ w.tree.entries → stale w.locked top place e = true →
        ∃ a ∈ artifacts, site w resolved a = .ok place := by
  constructor
  · intro renewed place e member isStale
    obtain ⟨rest, rfl, deeper, generated, _⟩ := stale_iff.mp isStale
    have there := (FileTree.mem_entries_iff (by simp [deeper])).mp member
    cases e with
    | directory => cases generated
    | file content => exact renewed resolved top _ content isResolved leads there isStale
  · intro renewed other here place content again leadsAgain there isStale
    obtain rfl : resolved = other := Except.ok.inj (isResolved.symm.trans again)
    obtain rfl : top = here := leads.unique leadsAgain
    obtain ⟨rest, rfl, deeper, _⟩ := stale_iff.mp isStale
    exact renewed _ _ ((FileTree.mem_entries_iff (by simp [deeper])).mpr there) isStale

/-- Writing, cleaning and writing the same again comes to writing once just if nothing is left to
renew. -/
theorem overlay_swept_overlay_iff (isResolved : resolve directory = .ok resolved)
    (leads : w.LeadsTo resolved top) :
    overlay { w with tree := swept w.locked top (overlay w resolved artifacts).tree } resolved
        artifacts = overlay w resolved artifacts ↔ Renewed w directory artifacts := by
  have trees := putFiles_swept_putFiles_iff w.locked top w.tree
    (artifacts.filterMap (fileOf w resolved))
  simp only [mem_files_iff] at trees
  rw [renewed_iff isResolved leads, ← trees, overlay, fileOf_swept_overlay]
  constructor
  · exact fun same => congrArg Workspace.tree same
  · intro same
    exact congrArg (fun tree => { w with tree := tree }) same

end Target

namespace Generation

open Target

namespace Job

variable {job : Job} {w : Workspace} {directory : Document} {artifacts : List Artifact}

/-- A run that ends well leaves the cleaned workspace overlaid with its artifacts. -/
theorem run_of_ok (succeeded : (job.run w directory).outcome = .ok artifacts) :
    ∃ resolved top, resolve directory = .ok resolved ∧
      (clean w directory).workspace.LeadsTo resolved top ∧
      (∀ r ∈ replies job.memory (tasks job.model job.plugins), r.answer.outcome.isOk = true) ∧
      artifacts = given (replies job.memory (tasks job.model job.plugins)) ∧
      (∀ a ∈ artifacts, fits (clean w directory).workspace resolved a = true) ∧
      (job.run w directory).workspace =
        overlay (clean w directory).workspace resolved artifacts := by
  cases ended : (clean w directory).outcome with
  | error failure =>
      rw [run, (generate_of_failed job.model job.plugins job.memory ended).1] at succeeded
      cases succeeded
  | ok leftovers =>
      obtain ⟨resolved, top, isResolved, leads⟩ := leadsTo_of_clean ended
      obtain ⟨outcome, workspace, _⟩ :=
        generate_of_clean job.model job.plugins job.memory isResolved ended
      obtain ⟨_, ending⟩ := performAll_persists leads job.memory (tasks job.model job.plugins)
      have succeededTail := outcome.symm.trans succeeded
      obtain ⟨rfl, left⟩ := ending.of_ok succeededTail
      obtain ⟨performed, written⟩ := ending.all_of_ok succeededTail
      exact ⟨resolved, top, isResolved, leads, performed, rfl, allWritten_overlay_iff.mp written,
        workspace.trans left⟩

/-- How a run goes that repeats one on what that has left. -/
structure Repeats (job : Job) (w : Workspace) (directory : Document) (artifacts : List Artifact) :
    Prop where
  /-- It gives the same artifacts just if the target can be walked through. -/
  outcome : (job.run (job.run w directory).workspace directory).outcome = .ok artifacts ↔
    Open (clean w directory).workspace directory
  /-- Otherwise its cleaning is broken off. -/
  halted : ¬ Open (clean w directory).workspace directory → ∃ halt,
    (job.run (job.run w directory).workspace directory).outcome = .error (.ofHalt .file halt)
  /-- Then it leaves the same just if the first cleaning has left nothing to renew. -/
  workspace : Open (clean w directory).workspace directory →
    ((job.run (job.run w directory).workspace directory).workspace =
      (job.run w directory).workspace ↔ Renewed (clean w directory).workspace directory artifacts)
  /-- It gives and leaves the same if the target was there. -/
  standing : ∀ resolved top, resolve directory = .ok resolved → w.LeadsTo resolved top →
    (job.run (job.run w directory).workspace directory).outcome = .ok artifacts ∧
      (job.run (job.run w directory).workspace directory).workspace =
        (job.run w directory).workspace
  /-- So it does in a tree without stray entries if the target is not reached by going up. -/
  descending : w.tree.Rooted → (∀ resolved, resolve directory = .ok resolved →
      ∀ segment ∈ Text.splitAt '/' resolved, segment ≠ "..") →
    (job.run (job.run w directory).workspace directory).outcome = .ok artifacts ∧
      (job.run (job.run w directory).workspace directory).workspace =
        (job.run w directory).workspace

/-- What the same run gives and leaves on what a run has left whose target can be walked through. -/
theorem run_again (job : Job) (w : Workspace) (directory : Document)
    (succeeded : (job.run w directory).outcome = .ok artifacts)
    (isOpen : Open (clean w directory).workspace directory) :
    (job.run (job.run w directory).workspace directory).outcome = .ok artifacts ∧
      ((job.run (job.run w directory).workspace directory).workspace =
        (job.run w directory).workspace ↔
          Renewed (clean w directory).workspace directory artifacts) := by
  obtain ⟨resolved, top, isResolved, leads, performed, gives, fit, left⟩ := run_of_ok succeeded
  obtain ⟨leftovers, cleaned, swept⟩ := clean_overlay_of_walkable isResolved leads
    ((open_iff isResolved leads).mp isOpen) artifacts
  rw [← left] at cleaned swept
  -- The second cleaning leaves all directories, so what could be written once can be written again.
  have fitAgain : ∀ a ∈ artifacts,
      fits (clean (job.run w directory).workspace directory).workspace resolved a = true := by
    intro a member
    rw [swept, left, fits, fileOf_swept_overlay]
    exact fit a member
  have outcome : (job.run (job.run w directory).workspace directory).outcome = .ok artifacts := by
    rw [gives] at fitAgain ⊢
    exact generate_of_fits isResolved cleaned performed fitAgain
  obtain ⟨other, _, again, _, _, _, _, leftAgain⟩ := run_of_ok outcome
  obtain rfl : resolved = other := Except.ok.inj (isResolved.symm.trans again)
  refine ⟨outcome, ?_⟩
  rw [leftAgain, swept, left]
  exact overlay_swept_overlay_iff isResolved leads

/-- After a run that ends well, the same run gives the same artifacts just if it can walk through
the target, and leaves the same files and directories just if it has no stale file to delete that is
not written again. -/
theorem repeats_of_ok (job : Job) (w : Workspace) (directory : Document)
    (succeeded : (job.run w directory).outcome = .ok artifacts) :
    job.Repeats w directory artifacts := by
  obtain ⟨leftovers, cleaned⟩ := exists_cleaned_of_run job succeeded
  obtain ⟨resolved, top, isResolved, leads, _, _, _, left⟩ := run_of_ok succeeded
  have leadsThen : (job.run w directory).workspace.LeadsTo resolved top := by
    rw [left]
    exact leadsTo_overlay leads artifacts
  have open_then : Open (job.run w directory).workspace directory ↔
      Open (clean w directory).workspace directory := by
    rw [open_iff isResolved leadsThen, open_iff isResolved leads, left]
    exact walkable_overlay_iff isResolved leads artifacts
  refine ⟨⟨fun ended => ?_, fun isOpen => (run_again job w directory succeeded isOpen).1⟩,
    fun closed => ?_, fun isOpen => (run_again job w directory succeeded isOpen).2, ?_, ?_⟩
  · exact open_then.mp ((exists_cleaned_iff isResolved leadsThen).mp
      (exists_cleaned_of_run job ended))
  · have unwalkable := mt (open_iff isResolved leadsThen).mpr (mt open_then.mp closed)
    obtain ⟨halt, _, halted⟩ := sweep_outcome_of_not_walkable unwalkable
    rw [← clean_of_leadsTo isResolved leadsThen] at halted
    exact ⟨halt, (generate_of_failed job.model job.plugins job.memory halted).1⟩
  · intro other place again stood
    obtain ⟨outcome, workspace⟩ :=
      run_again job w directory succeeded (open_clean_of_leadsTo again stood cleaned)
    exact ⟨outcome, workspace.mpr (renewed_clean_of_leadsTo again stood cleaned)⟩
  · intro rooted descends
    obtain ⟨outcome, workspace⟩ := run_again job w directory succeeded
      (open_clean_of_descending rooted isResolved (descends _ isResolved) cleaned)
    exact ⟨outcome, workspace.mpr
      (renewed_clean_of_descending rooted isResolved (descends _ isResolved) cleaned)⟩

/-- A stale file is deleted, and a locked one is written over. -/
theorem repeats_of_ok_locked :
    let w : Workspace := ⟨((FileTree.empty.put ["Generated"] .directory).put
      ["Generated", "Old.cs"] (.file ⟨#[]⟩)).put ["Generated", "Pools.cs"] (.file ⟨#[]⟩), [],
      [["Generated", "Pools.cs"]], "\n", Workspace.usualRoom⟩
    let job : Job := ⟨PoolMemory, ⟨["Pool"], [], []⟩, BuiltIn.plugins [.pools], .none⟩
    ∃ artifacts, (job.run w (.text "Generated")).outcome = .ok artifacts ∧
      job.Repeats w (.text "Generated") artifacts := by
  intro w job
  have cleaned : (clean w (.text "Generated")).outcome =
      .ok [⟨"Generated/Pools.cs", "locked"⟩] := by
    rfl
  have performed : ∀ r ∈ replies job.memory (tasks job.model job.plugins),
      r.answer.outcome.isOk = true := by decide
  have fit : ∀ a ∈ given (replies job.memory (tasks job.model job.plugins)),
      fits (clean w (.text "Generated")).workspace "Generated/" a = true := by decide
  have succeeded := generate_of_fits rfl cleaned performed fit
  exact ⟨_, succeeded, repeats_of_ok job w (.text "Generated") succeeded⟩

/-- What stands in a target that is reached through a missing directory stays in the first run, and
goes in the second. -/
theorem not_repeats_climbing :
    let w : Workspace := ⟨(FileTree.empty.put ["Generated"] .directory).put
      ["Generated", "Old.cs"] (.file ⟨#[]⟩), [], [], "\n", Workspace.usualRoom⟩
    let job : Job := ⟨PoolMemory, ⟨["Pool"], [], []⟩, BuiltIn.plugins [], .none⟩
    (job.run w (.text "a/..")).outcome = .ok [] ∧
      (job.run (job.run w (.text "a/..")).workspace (.text "a/..")).workspace ≠
        (job.run w (.text "a/..")).workspace := by
  intro w job
  let made : Workspace := { w with tree := w.tree.put ["a"] .directory }
  have cleaned : clean w (.text "a/..") = ⟨.ok [], made, [], []⟩ := clean_climbing
  have ended : (clean w (.text "a/..")).outcome = .ok [] := by rw [cleaned]
  have again : (clean made (.text "a/..")).outcome = .ok [] := by rfl
  have gone : (clean made (.text "a/..")).workspace.tree.get? ["Generated", "Old.cs"] = none := by
    rfl
  obtain ⟨outcome, left⟩ := run_of_idle job rfl ended
  rw [cleaned] at left
  refine ⟨outcome, fun same => ?_⟩
  rw [left, (run_of_idle job rfl again).2] at same
  rw [same] at gone
  cases gone

end Job

end Generation

end EntityScribe
