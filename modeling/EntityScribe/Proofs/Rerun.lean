import EntityScribe.Proofs.Footprint
import EntityScribe.Proofs.Sweeping
import EntityScribe.Proofs.Walks

/-!
# Running again after another run

Whatever a run writes under plain names, the next cleaning of the target takes out again. So a run
leaves no trace in a later one into the same target, unless the cleaning of the first run made the
target and came upon generated files in it: those go with the second cleaning only, if the target
can be walked through.
-/

namespace EntityScribe

namespace Target

variable {w : Workspace} {directory : Document} {resolved : String} {top : Place}
  {leftovers : List Leftover} {artifacts : List Artifact}

/-- Every generated file below the target that can be deleted is written by one of the artifacts. -/
def Renewed (w : Workspace) (directory : Document) (artifacts : List Artifact) : Prop :=
  ∀ resolved top place content, resolve directory = .ok resolved → w.LeadsTo resolved top →
    w.tree.get? place = some (.file content) → stale w.locked top place (.file content) = true →
    ∃ a ∈ artifacts, site w resolved a = .ok place

/-- In a target that was there, the cleaning leaves nothing to renew. -/
theorem renewed_clean_of_leadsTo (isResolved : resolve directory = .ok resolved)
    (leads : w.LeadsTo resolved top) (cleaned : (clean w directory).outcome = .ok leftovers) :
    Renewed (clean w directory).workspace directory artifacts := by
  rw [clean_of_walkable isResolved leads (walkable_of_clean isResolved leads cleaned)]
  intro other here place content again leadsAgain there isStale
  obtain rfl : resolved = other := Except.ok.inj (isResolved.symm.trans again)
  obtain rfl : top = here := leads.unique
    (leadsAgain.mono fun p stands => by rwa [isDirectory_swept] at stands)
  obtain ⟨_, kept⟩ := get?_swept.mp there
  cases isStale.symm.trans kept

/-- In a tree without stray entries, nothing is left to renew if the target is not reached by going
up. -/
theorem renewed_clean_of_descending (rooted : w.tree.Rooted)
    (isResolved : resolve directory = .ok resolved)
    (descends : ∀ segment ∈ Text.splitAt '/' resolved, segment ≠ "..")
    (cleaned : (clean w directory).outcome = .ok leftovers) :
    Renewed (clean w directory).workspace directory artifacts := by
  by_cases stood : ∃ top, w.LeadsTo resolved top
  · obtain ⟨top, leads⟩ := stood
    exact renewed_clean_of_leadsTo isResolved leads cleaned
  · intro other top place content again leads there isStale
    obtain rfl : resolved = other := Except.ok.inj (isResolved.symm.trans again)
    obtain ⟨rest, rfl, deeper, _⟩ := stale_iff.mp isStale
    have none := file?_clean_of_made rooted isResolved descends (not_exists.mp stood) leads deeper
    rw [FileTree.file?_eq_some.mpr there] at none
    cases none

/-- The target, where it is there, can be walked through. -/
def Open (w : Workspace) (directory : Document) : Prop :=
  ∀ resolved top, resolve directory = .ok resolved → w.LeadsTo resolved top →
    Walkable w (Path.ofString resolved) top

theorem open_iff (isResolved : resolve directory = .ok resolved) (leads : w.LeadsTo resolved top) :
    Open w directory ↔ Walkable w (Path.ofString resolved) top := by
  constructor
  · exact fun isOpen => isOpen resolved top isResolved leads
  · intro walkable other place again leadsAgain
    obtain rfl : resolved = other := Except.ok.inj (isResolved.symm.trans again)
    obtain rfl : top = place := leads.unique leadsAgain
    exact walkable

/-- Cleaning a target that is there ends well just if it can be walked through. -/
theorem exists_cleaned_iff (isResolved : resolve directory = .ok resolved)
    (leads : w.LeadsTo resolved top) :
    (∃ leftovers, (clean w directory).outcome = .ok leftovers) ↔ Open w directory := by
  rw [open_iff isResolved leads]
  constructor
  · exact fun ⟨_, cleaned⟩ => walkable_of_clean isResolved leads cleaned
  · exact fun walkable => ⟨_, by rw [clean_of_walkable isResolved leads walkable]⟩

/-- A target that was there can be walked through after the cleaning. -/
theorem open_clean_of_leadsTo (isResolved : resolve directory = .ok resolved)
    (leads : w.LeadsTo resolved top) (cleaned : (clean w directory).outcome = .ok leftovers) :
    Open (clean w directory).workspace directory := by
  have walkable := walkable_of_clean isResolved leads cleaned
  rw [clean_of_walkable isResolved leads walkable]
  exact (open_iff isResolved (leads.mono fun p stands => by rw [isDirectory_swept, stands])).mpr
    walkable.swept

/-- In a tree without stray entries, a target that is not reached by going up can be walked through
after every cleaning. -/
theorem open_clean_of_descending (rooted : w.tree.Rooted)
    (isResolved : resolve directory = .ok resolved)
    (descends : ∀ segment ∈ Text.splitAt '/' resolved, segment ≠ "..")
    (cleaned : (clean w directory).outcome = .ok leftovers) :
    Open (clean w directory).workspace directory := by
  by_cases stood : ∃ top, w.LeadsTo resolved top
  · obtain ⟨top, leads⟩ := stood
    exact open_clean_of_leadsTo isResolved leads cleaned
  · -- Below a target that has been made there is nothing to walk through.
    intro other top again leads
    obtain rfl : resolved = other := Except.ok.inj (isResolved.symm.trans again)
    have missing := not_exists.mp stood
    have absent : w.tree.isDirectory top = false := by
      rw [Bool.eq_false_iff]
      intro there
      obtain ⟨tree, same⟩ := clean_workspace w directory
      rw [same] at leads
      obtain ⟨askable, followed⟩ := Workspace.leadsTo_iff.mp leads
      exact missing top (Workspace.leadsTo_iff.mpr
        ⟨askable, followed.of_rooted rooted descends there⟩)
    refine ⟨fun rest deeper there => ?_, fun rest generated => ?_⟩
    · rw [isDirectory_clean isResolved leads (.inr descends) deeper, FileTree.isDirectory_iff,
        rooted.get?_append absent deeper] at there
      cases there
    · obtain ⟨deeper, _, content, there⟩ := generatedAt_iff.mp generated
      rw [file?_clean_of_made rooted isResolved descends missing leads deeper] at there
      cases there

/-- The target, where it is there, can be walked through, and no generated file stands below it. -/
def Clear (w : Workspace) (directory : Document) : Prop :=
  Open w directory ∧
    ∀ resolved top rest, resolve directory = .ok resolved → w.LeadsTo resolved top →
      ¬ GeneratedAt w.tree top rest

theorem clear_iff (isResolved : resolve directory = .ok resolved) (leads : w.LeadsTo resolved top) :
    Clear w directory ↔
      Walkable w (Path.ofString resolved) top ∧ swept [] top w.tree = w.tree := by
  rw [swept_eq_self_iff, Clear, open_iff isResolved leads]
  refine and_congr_right fun _ => ?_
  constructor
  · exact fun clear rest => clear resolved top rest isResolved leads
  · intro none other place rest again leadsAgain
    obtain rfl : resolved = other := Except.ok.inj (isResolved.symm.trans again)
    obtain rfl : top = place := leads.unique leadsAgain
    exact none rest

/-- Without locked files, a target that can be walked through with nothing to renew is clear. -/
theorem clear_of_renewed (unlocked : w.locked = []) (isOpen : Open w directory)
    (renewed : Renewed w directory []) : Clear w directory := by
  refine ⟨isOpen, ?_⟩
  rintro resolved top rest isResolved leads ⟨deeper, ends, content, there⟩
  have goes : stale w.locked top (top ++ rest) (.file content) = true :=
    (stale_iff_generatedAt there).mpr
      ⟨rest, rfl, ⟨deeper, ends, content, there⟩, by simp [unlocked]⟩
  obtain ⟨_, none, _⟩ := renewed resolved top _ content isResolved leads there goes
  cases none

/-- A target that was there is clear after the cleaning. -/
theorem clear_clean_of_leadsTo (unlocked : w.locked = [])
    (isResolved : resolve directory = .ok resolved) (leads : w.LeadsTo resolved top)
    (cleaned : (clean w directory).outcome = .ok leftovers) :
    Clear (clean w directory).workspace directory := by
  obtain ⟨tree, same⟩ := clean_workspace w directory
  exact clear_of_renewed (by rw [same, unlocked]) (open_clean_of_leadsTo isResolved leads cleaned)
    (renewed_clean_of_leadsTo isResolved leads cleaned)

/-- In a tree without stray entries, a target that is not reached by going up is clear after every
cleaning. -/
theorem clear_clean_of_descending (unlocked : w.locked = []) (rooted : w.tree.Rooted)
    (isResolved : resolve directory = .ok resolved)
    (descends : ∀ segment ∈ Text.splitAt '/' resolved, segment ≠ "..")
    (cleaned : (clean w directory).outcome = .ok leftovers) :
    Clear (clean w directory).workspace directory := by
  obtain ⟨tree, same⟩ := clean_workspace w directory
  exact clear_of_renewed (by rw [same, unlocked])
    (open_clean_of_descending rooted isResolved descends cleaned)
    (renewed_clean_of_descending rooted isResolved descends cleaned)

/-- Without locked files a cleaning that ends well reports nothing. -/
theorem clean_of_unlocked (unlocked : w.locked = [])
    (cleaned : (clean w directory).outcome = .ok leftovers) :
    clean w directory = ⟨.ok [], (clean w directory).workspace, [], []⟩ := by
  by_cases there : ∃ resolved top, resolve directory = .ok resolved ∧ w.LeadsTo resolved top
  · obtain ⟨resolved, top, isResolved, leads⟩ := there
    rw [clean_of_walkable_unlocked isResolved leads
      (walkable_of_clean isResolved leads cleaned) unlocked]
  · exact ((clean_of_not_leadsTo fun resolved top isResolved leads =>
      there ⟨resolved, top, isResolved, leads⟩).2 leftovers cleaned).1

/-- The file of an artifact with a plain name goes with the next cleaning. -/
theorem stale_of_site {front : String} {a : Artifact} {place : Place}
    (leads : w.LeadsTo (front ++ "/") top) (plain : '/' ∉ a.name.toList)
    (goes : site w (front ++ "/") a = .ok place) (content : ByteArray) :
    stale [] top place (.file content) = true := by
  obtain rfl := site_of_plain leads plain goes
  have ending : Artifact.fileEnding.toList.isSuffixOf (fileName a).toList = true := by
    rw [fileName, String.toList_append]
    exact List.isSuffixOf_iff_suffix.mpr (List.suffix_append _ _)
  exact stale_iff.mpr ⟨[fileName a], rfl, List.cons_ne_nil _ _, ending, List.not_mem_nil⟩

/-- Sweeping takes out whatever has been written under plain names. -/
theorem swept_overlay {front : String} {artifacts : List Artifact}
    (leads : w.LeadsTo (front ++ "/") top) (plain : ∀ a ∈ artifacts, '/' ∉ a.name.toList) :
    swept [] top (overlay w (front ++ "/") artifacts).tree = swept [] top w.tree := by
  refine swept_putFiles (placeable_files w (front ++ "/") artifacts) ?_
  intro file member
  obtain ⟨a, inside, chosen⟩ := List.mem_filterMap.mp member
  exact stale_of_site leads (plain a inside) (site_of_fileOf chosen) file.2

/-- Cleaning a clear target in which artifacts with plain names have been written gives the clear
target. -/
theorem clean_overlay {front : String} {artifacts : List Artifact}
    (isResolved : resolve directory = .ok (front ++ "/")) (leads : w.LeadsTo (front ++ "/") top)
    (unlocked : w.locked = []) (clear : Clear w directory)
    (plain : ∀ a ∈ artifacts, '/' ∉ a.name.toList) :
    clean (overlay w (front ++ "/") artifacts) directory = ⟨.ok [], w, [], []⟩ := by
  obtain ⟨walkable, same⟩ := (clear_iff isResolved leads).mp clear
  rw [clean_of_walkable_unlocked isResolved (leadsTo_overlay leads artifacts)
    ((walkable_overlay_iff isResolved leads artifacts).mpr walkable) unlocked,
    swept_overlay leads plain, same]
  rfl

end Target

namespace Generation

open Target

/-- What to run: a model and fresh plugins, with the memory they start from. -/
structure Job where
  Memory : Type
  model : Model
  plugins : List (Plugin Memory)
  memory : Memory

namespace Job

def run (job : Job) (w : Workspace) (directory : Document) : Run job.Memory :=
  generate w job.model directory job.plugins job.memory

/-- The handlers give artifacts with plain names only. -/
def Plain (job : Job) : Prop :=
  ∀ a ∈ given (replies job.memory (tasks job.model job.plugins)), '/' ∉ a.name.toList

/-- Nothing to run. -/
def nothing : Job := ⟨Unit, ⟨[], [], []⟩, [], ()⟩

variable {w other : Workspace} {directory : Document} {leftovers : List Leftover}

/-- A run takes from the workspace only what the cleaning makes of it. -/
theorem run_congr (job : Job) (same : clean other directory = clean w directory)
    (cleaned : (clean w directory).outcome = .ok leftovers) :
    job.run other directory = job.run w directory := by
  obtain ⟨resolved, _, isResolved, _⟩ := leadsTo_of_clean cleaned
  rw [run, run, generate, generate, isResolved]
  dsimp only
  rw [clean_resolved other isResolved, clean_resolved w isResolved, same]

/-- A job with plain names leaves the cleaned workspace, overlaid with artifacts of plain names. -/
theorem run_workspace (job : Job) (plain : job.Plain) {resolved : String}
    (isResolved : resolve directory = .ok resolved)
    (cleaned : (clean w directory).outcome = .ok leftovers) :
    ∃ artifacts, (∀ a ∈ artifacts, '/' ∉ a.name.toList) ∧
      (job.run w directory).workspace =
        overlay (clean w directory).workspace resolved artifacts :=
  ⟨_, fun a member => plain a (persisted_subset _ _ _ member),
    generate_workspace job.model job.plugins job.memory isResolved cleaned⟩

theorem plain_nothing : nothing.Plain := by
  intro a member
  cases member

/-- A job without tasks does no more than the cleaning. -/
theorem run_of_idle (job : Job) (idle : tasks job.model job.plugins = [])
    (cleaned : (clean w directory).outcome = .ok leftovers) :
    (job.run w directory).outcome = .ok [] ∧
      (job.run w directory).workspace = (clean w directory).workspace := by
  obtain ⟨resolved, _, isResolved, _⟩ := leadsTo_of_clean cleaned
  obtain ⟨outcome, workspace, _⟩ :=
    generate_of_clean job.model job.plugins job.memory isResolved cleaned
  rw [idle] at outcome workspace
  exact ⟨outcome, workspace⟩

theorem nothing_run_workspace (cleaned : (clean w directory).outcome = .ok leftovers) :
    (nothing.run w directory).workspace = (clean w directory).workspace :=
  (run_of_idle nothing rfl cleaned).2

/-- After a run of any job with plain names, another job runs as it would have without. -/
theorem run_run (first second : Job) (plain : first.Plain) (unlocked : w.locked = [])
    (cleaned : (clean w directory).outcome = .ok leftovers)
    (clear : Clear (clean w directory).workspace directory) :
    second.run (first.run w directory).workspace directory = second.run w directory := by
  obtain ⟨resolved, top, isResolved, leads⟩ := leadsTo_of_clean cleaned
  obtain ⟨front, rfl⟩ := resolved_eq isResolved
  obtain ⟨artifacts, plainNames, left⟩ := first.run_workspace plain isResolved cleaned
  obtain ⟨tree, sameTree⟩ := clean_workspace w directory
  have unlockedThen : (clean w directory).workspace.locked = [] := by rw [sameTree, unlocked]
  refine second.run_congr ?_ cleaned
  rw [left, clean_overlay isResolved leads unlockedThen clear plainNames]
  exact (clean_of_unlocked unlocked cleaned).symm

/-- A run that ends well has had a cleaning that ends well. -/
theorem exists_cleaned_of_run (job : Job) {artifacts : List Artifact}
    (succeeded : (job.run w directory).outcome = .ok artifacts) :
    ∃ leftovers, (clean w directory).outcome = .ok leftovers := by
  cases ended : (clean w directory).outcome with
  | ok leftovers => exact ⟨leftovers, rfl⟩
  | error failure =>
      rw [run, (generate_of_failed job.model job.plugins job.memory ended).1] at succeeded
      cases succeeded

/-- Runs into a target leave no trace in later ones exactly if the cleaning leaves it clear. -/
theorem run_run_iff_clear (unlocked : w.locked = [])
    (cleaned : (clean w directory).outcome = .ok leftovers) :
    (∀ first second : Job, first.Plain → second.Plain →
      second.run (first.run w directory).workspace directory = second.run w directory) ↔
      Clear (clean w directory).workspace directory := by
  constructor
  · intro same
    obtain ⟨resolved, top, isResolved, leads⟩ := leadsTo_of_clean cleaned
    obtain ⟨tree, sameTree⟩ := clean_workspace w directory
    have unlockedThen : (clean w directory).workspace.locked = [] := by rw [sameTree, unlocked]
    have twice := same nothing nothing plain_nothing plain_nothing
    rw [nothing_run_workspace cleaned] at twice
    have succeeded := congrArg Run.outcome twice
    rw [(run_of_idle nothing rfl cleaned).1] at succeeded
    obtain ⟨others, cleanedAgain⟩ := exists_cleaned_of_run nothing succeeded
    have walkable := walkable_of_clean isResolved leads cleanedAgain
    have again := clean_of_walkable_unlocked isResolved leads walkable unlockedThen
    have left := congrArg Run.workspace twice
    rw [nothing_run_workspace cleanedAgain, nothing_run_workspace cleaned, again] at left
    exact (clear_iff isResolved leads).mpr ⟨walkable, congrArg Workspace.tree left⟩
  · exact fun clear first second plain _ => run_run first second plain unlocked cleaned clear

/-- Into a target that was there, with a stale file in it. -/
theorem run_run_standing :
    let w : Workspace := ⟨(FileTree.empty.put ["Generated"] .directory).put
      ["Generated", "Old.cs"] (.file ⟨#[]⟩), [], [], "\n", Workspace.usualRoom⟩
    w.locked = [] ∧ (clean w (.text "Generated")).outcome = .ok [] ∧
      ∀ first second : Job, first.Plain → second.Plain →
        second.run (first.run w (.text "Generated")).workspace (.text "Generated") =
          second.run w (.text "Generated") := by
  intro w
  have cleaned : (clean w (.text "Generated")).outcome = .ok [] := by rfl
  have leads : w.LeadsTo "Generated/" ["Generated"] := ⟨rfl, rfl⟩
  exact ⟨rfl, cleaned, (run_run_iff_clear rfl cleaned).mpr 
    (clear_clean_of_leadsTo rfl rfl leads cleaned)⟩

/-- Where the way to a target that stands leads through a missing directory, that one is made, and
nothing is deleted. -/
theorem clean_climbing :
    let w : Workspace := ⟨(FileTree.empty.put ["Generated"] .directory).put
      ["Generated", "Old.cs"] (.file ⟨#[]⟩), [], [], "\n", Workspace.usualRoom⟩
    clean w (.text "a/..") = ⟨.ok [], { w with tree := w.tree.put ["a"] .directory }, [], []⟩ := by
  intro w
  rfl

/-- A target that is reached through a missing directory is made, and what stands in it stays until
the next run. -/
theorem run_run_climbing :
    let w : Workspace := ⟨(FileTree.empty.put ["Generated"] .directory).put
      ["Generated", "Old.cs"] (.file ⟨#[]⟩), [], [], "\n", Workspace.usualRoom⟩
    w.locked = [] ∧ (clean w (.text "a/..")).outcome = .ok [] ∧ nothing.Plain ∧
      nothing.run (nothing.run w (.text "a/..")).workspace (.text "a/..") ≠
        nothing.run w (.text "a/..") := by
  intro w
  let made : Workspace := { w with tree := w.tree.put ["a"] .directory }
  have cleaned : clean w (.text "a/..") = ⟨.ok [], made, [], []⟩ := clean_climbing
  have ended : (clean w (.text "a/..")).outcome = .ok [] := by rw [cleaned]
  refine ⟨rfl, ended, plain_nothing, ?_⟩
  intro same
  have left : (nothing.run w (.text "a/..")).workspace = made := by
    rw [nothing_run_workspace ended, cleaned]
  have again : (clean made (.text "a/..")).outcome = .ok [] := by rfl
  have twice := congrArg Run.workspace same
  rw [left, nothing_run_workspace again] at twice
  have gone : (clean made (.text "a/..")).workspace.tree.get? ["Generated", "Old.cs"] = none := by
    rfl
  rw [twice] at gone
  cases gone

end Job

end Generation

end EntityScribe
