import EntityScribe.Proofs.ArtifactNames
import EntityScribe.Proofs.Footprint
import EntityScribe.Proofs.ProperNames
import EntityScribe.Proofs.Regeneration
import EntityScribe.Proofs.Rendering

/-!
# When a run succeeds

The generators never fail. So once the target has been cleaned, a run of them fails only if a file
cannot be written, and with names that the system takes this is so only where the whole path is too
long or a directory stands in the way of the file. It fails with what the system has against the
first such file.
-/

namespace EntityScribe

namespace BuiltIn

open Generation

/-! ## Generators never fail -/

theorem PoolAttributes.isOk_generate (pools : List String) :
    (generate pools).outcome.isOk = true := by
  induction pools with
  | nil => rfl
  | cons pool rest ih =>
      by_cases default : pool = Naming.defaultPool
      · rwa [default, generate_default]
      · have rendered := Template.render_eq template "attribute" [("Pool", .text pool)]
        change render pool = _ at rendered
        rw [generate_of_ne default, rendered]
        cases others : (generate rest).outcome with
        | error failure =>
            rw [others] at ih
            cases ih
        | ok artifacts => rfl

theorem BlueprintMethods.isOk_generate (blueprints : List String) :
    (generate blueprints).outcome.isOk = true := by
  by_cases none : blueprints = []
  · rw [generate, if_pos none]
    rfl
  · obtain ⟨a, given, _⟩ := generate_eq none
    rw [given]
    rfl

variable {m : Model} {instances : List (BuiltIn × Nat)} {memory : PoolMemory}

theorem isOk_answer (m : Model) (b : BuiltIn) : (b.answer m).outcome.isOk = true := by
  cases b with
  | poolAttributes => exact PoolAttributes.isOk_generate m.pools
  | pools => rfl
  | componentIndices => rfl
  | componentExtensions => rfl
  | blueprints => exact BlueprintMethods.isOk_generate m.blueprints

/-- In any phase a generator gives what it makes of the model, or nothing. -/
theorem answer_cases {b : BuiltIn} {slot : Nat} {phase : Phase}
    {perform : PoolMemory → Reply PoolMemory}
    (handler : (b.plugin slot).handler? phase m = some perform) :
    (perform (recalled m)).answer = b.answer m ∨ (perform (recalled m)).answer = ⟨.ok [], []⟩ := by
  cases b <;> cases phase <;> cases handler <;> first | exact .inl rfl | exact .inr rfl

/-- No handler of a built-in generator fails. -/
theorem isOk_replies (m : Model) (instances : List (BuiltIn × Nat)) (memory : PoolMemory) :
    ∀ r ∈ replies memory (tasks m (pluginsOf instances)), r.answer.outcome.isOk = true := by
  intro r member
  have answered : r.answer ∈ (replies memory (tasks m (pluginsOf instances))).map (·.answer) :=
    List.mem_map_of_mem member
  rw [map_answer_replies] at answered
  obtain ⟨t, inside, same⟩ := List.mem_map.mp answered
  obtain ⟨phase, _, inPhase⟩ := List.mem_flatMap.mp inside
  obtain ⟨b, slot, _, handler⟩ := instance_of_mem_phaseTasks inPhase
  rw [← same]
  rcases answer_cases handler with own | nothing
  · rw [own]
    exact isOk_answer m b
  · rw [nothing]
    rfl

/-! ## Names of files -/

/-- The names of what listed generators make of a model. -/
def namesOf (m : Model) (instances : List (BuiltIn × Nat)) : List String :=
  instances.flatMap fun i => artifactNames m i.1

theorem map_name_given (known : ∀ c ∈ m.components, c.pools ⊆ m.pools)
    (filled : ∀ pool ∈ m.pools, pool ≠ "") {name : String} :
    name ∈ (given (replies memory (tasks m (pluginsOf instances)))).map (·.name) ↔
      name ∈ namesOf m instances := by
  have named : ∀ b : BuiltIn, (b.answer m).batch.map (·.name) = artifactNames m b :=
    fun b => map_name_batch known filled (isOk_answer m b)
  rw [namesOf, List.mem_flatMap, List.mem_map]
  constructor
  · rintro ⟨a, member, rfl⟩
    obtain ⟨b, slot, listed, gives⟩ := mem_given_iff.mp member
    exact ⟨(b, slot), listed, named b ▸ List.mem_map_of_mem gives⟩
  · rintro ⟨⟨b, slot⟩, listed, member⟩
    rw [← named b] at member
    obtain ⟨a, gives, rfl⟩ := List.mem_map.mp member
    exact ⟨a, mem_given_iff.mpr ⟨b, slot, listed, gives⟩, rfl⟩

/-- Besides letters, the names of artifacts hold what the names of pools and components hold. -/
theorem not_mem_of_mem_artifactNames {c : Char} (notLetter : c.isAlpha = false)
    (pools : ∀ pool ∈ m.pools, c ∉ pool.toList)
    (components : ∀ component ∈ m.components, c ∉ component.name.toList) {b : BuiltIn}
    {name : String} (member : name ∈ artifactNames m b) : c ∉ name.toList := by
  have letters : ∀ s : String, s.toList.all Char.isAlpha = true → c ∉ s.toList := by
    intro s all inside
    rw [List.all_eq_true.mp all c inside] at notLetter
    cases notLetter
  have joined : ∀ s t : String, c ∉ s.toList → c ∉ t.toList → c ∉ (s ++ t).toList := by
    intro s t first second
    rw [String.toList_append, List.mem_append, not_or]
    exact ⟨first, second⟩
  cases b with
  | poolAttributes =>
      obtain ⟨pool, inside, rfl⟩ := List.mem_map.mp member
      exact joined _ _ (pools pool (List.mem_filter.mp inside).1) (letters _ (by decide))
  | pools =>
      rw [List.mem_singleton.mp member]
      exact letters _ (by decide)
  | componentIndices =>
      obtain ⟨pool, inside, rfl⟩ := List.mem_map.mp member
      refine joined _ _ ?_ (letters _ (by decide))
      unfold Naming.qualifier
      split
      · exact letters _ (by decide)
      · exact pools pool (List.mem_eraseDups.mp inside)
  | componentExtensions =>
      obtain ⟨component, inside, rfl⟩ := List.mem_map.mp member
      exact joined _ _ (components component inside) (letters _ (by decide))
  | blueprints =>
      rw [artifactNames] at member
      split at member
      · cases member
      · rw [List.mem_singleton.mp member]
        exact letters _ (by decide)

end BuiltIn

namespace Target

/-! ## Targets in which files cannot be written -/

theorem resolve_stretched (n : Nat) :
    resolve (.text (stretched (n + 1))) = .ok (stretched (n + 1)) := by
  have chars : (stretched (n + 1)).toList =
      directoryName.toList ++ List.replicate (n + 1) '/' := by
    rw [stretched, String.toList_append, String.toList_ofList]
  have notBlank : Text.allBlank (stretched (n + 1)) = false := by
    rw [Text.allBlank, chars, List.all_append]
    exact Bool.and_eq_false_imp.mpr fun blank => absurd blank (by decide)
  have named : lastSegment (stretched (n + 1)) = directoryName := by
    have trimmed : withoutSeparators (stretched (n + 1)).toList = directoryName.toList := by
      rw [withoutSeparators, chars, List.reverse_append, List.reverse_replicate,
        List.dropWhile_append_of_pos (by simp)]
      decide
    rw [lastSegment, trimmed]
    decide
  rw [resolve_text, notBlank, if_neg Bool.false_ne_true, complete, stretched_succ,
    closed_append_separator, ← stretched_succ, if_pos named]

/-- A directory on the way to the target is made where a file is to go. -/
theorem clean_occupying :
    let w : Workspace :=
      ⟨FileTree.empty.put ["Generated"] .directory, [], [], "\n", Workspace.usualRoom⟩
    clean w (.text "Generated/Pools.cs/../../Generated") =
      ⟨.ok [], { w with tree := w.tree.put ["Generated", "Pools.cs"] .directory }, [], []⟩ := by
  rfl

end Target

namespace BuiltIn

open Target

variable {d : Document} {m : Model} {instances : List (BuiltIn × Nat)} {memory : PoolMemory}
  {w : Workspace} {directory : Document} {resolved : String} {top : Place}
  {leftovers : List Leftover}

/-- The path by which the file of an artifact of some name is opened. -/
def pathOf (resolved name : String) : String :=
  resolved ++ name ++ Artifact.fileEnding

theorem pathOf_name (resolved : String) (a : Artifact) :
    pathOf resolved a.name = a.fileIn resolved := rfl

/-- The file of an artifact of some name can be written into a target. -/
def Writable (w : Workspace) (resolved : String) (top : Place) (name : String) : Prop :=
  (pathOf resolved name).utf8ByteSize < Workspace.pathLimit ∧
    w.tree.isDirectory (top ++ [name ++ Artifact.fileEnding]) = false

/-- What the system has against a file that cannot be written. -/
def refusalOf (resolved name : String) : Refusal :=
  if Workspace.pathLimit ≤ (pathOf resolved name).utf8ByteSize then .nameTooLong else .isDirectory

/-- What generators give of an accepted document has the names that belong to the model. -/
theorem mem_names_iff (accepted : Model.ofDocument d = .ok m) (instances : List (BuiltIn × Nat))
    (memory : PoolMemory) {name : String} :
    name ∈ (Generation.given (Generation.replies memory
        (Generation.tasks m (pluginsOf instances)))).map (·.name) ↔
      name ∈ namesOf m instances := by
  refine map_name_given (fun c member => (Model.ofDocument_known accepted c member).2) ?_
  obtain ⟨⟨fits, _⟩, rfl⟩ := Model.ofDocument_eq_ok_iff.mp accepted
  exact (Schema.names_of_optional fits.pools).ne_empty (by decide)

section Names

variable (accepted : Model.ofDocument d = .ok m) (pools : ∀ pool ∈ m.pools, Proper pool)
  (components : ∀ component ∈ m.components, Proper component.name)
  (short : ∀ name ∈ namesOf m instances,
    (name ++ Artifact.fileEnding).utf8ByteSize ≤ Workspace.longestName)

include accepted pools components short

/-- Names of artifacts are names that the system takes. -/
theorem proper_of_mem_given {a : Artifact}
    (member : a ∈ Generation.given (Generation.replies memory
      (Generation.tasks m (pluginsOf instances)))) :
    Proper a.name ∧ (fileName a).utf8ByteSize ≤ Workspace.longestName := by
  have inside := (mem_names_iff accepted instances memory).mp (List.mem_map_of_mem member)
  obtain ⟨i, _, named⟩ := List.mem_flatMap.mp inside
  refine ⟨⟨?_, ?_⟩, short _ inside⟩
  · exact not_mem_of_mem_artifactNames (by decide) (fun pool among => (pools pool among).1)
      (fun c among => (components c among).1) named
  · exact not_mem_of_mem_artifactNames (by decide) (fun pool among => (pools pool among).2)
      (fun c among => (components c among).2) named

theorem fits_iff_writable {a : Artifact} (isResolved : resolve directory = .ok resolved)
    (leads : w.LeadsTo resolved top)
    (member : a ∈ Generation.given (Generation.replies memory
      (Generation.tasks m (pluginsOf instances)))) :
    fits w resolved a = true ↔ Writable w resolved top a.name := by
  obtain ⟨front, rfl⟩ := resolved_eq isResolved
  obtain ⟨proper, fitting⟩ := proper_of_mem_given accepted pools components short member
  exact fits_of_proper leads proper fitting

/-- What the system says of a file that cannot be written, whatever has been written before. -/
theorem site_of_not_writable {a : Artifact} (isResolved : resolve directory = .ok resolved)
    (leads : w.LeadsTo resolved top) (before : List Artifact)
    (member : a ∈ Generation.given (Generation.replies memory
      (Generation.tasks m (pluginsOf instances))))
    (barred : ¬Writable w resolved top a.name) :
    site (overlay w resolved before) resolved a =
      .error (.refused (refusalOf resolved a.name) (pathOf resolved a.name)) := by
  obtain ⟨front, rfl⟩ := resolved_eq isResolved
  obtain ⟨proper, fitting⟩ := proper_of_mem_given accepted pools components short member
  rw [site_eq_of_proper (leadsTo_overlay leads before) proper, obstacle?, refusalOf, pathOf_name,
    isDirectory_overlay]
  by_cases long : Workspace.pathLimit ≤ (a.fileIn (front ++ "/")).utf8ByteSize
  · rw [if_pos (.inl long), if_pos long]
  · have stands : w.tree.isDirectory (top ++ [fileName a]) = true := by
      by_contra vacant
      exact barred ⟨Nat.lt_of_not_le long, Bool.eq_false_iff.mpr vacant⟩
    rw [if_neg (not_or.mpr ⟨long, Nat.not_lt.mpr fitting⟩), if_neg long, if_pos stands]

/-- After a cleaning that ends well, a run of generators gives all that they make if it can be
written, and fails at the first artifact that cannot. -/
theorem generate_outcome (isResolved : resolve directory = .ok resolved)
    (cleaned : (clean w directory).outcome = .ok leftovers)
    (leads : (clean w directory).workspace.LeadsTo resolved top) (memory : PoolMemory) :
    let made := Generation.given
      (Generation.replies memory (Generation.tasks m (pluginsOf instances)))
    let run := Generation.generate w m directory (pluginsOf instances) memory
    let writable name := Writable (clean w directory).workspace resolved top name
    (run.outcome = .ok made ∧ ∀ a ∈ made, writable a.name) ∨
      ∃ before a after, made = before ++ a :: after ∧ (∀ b ∈ before, writable b.name) ∧
        ¬writable a.name ∧ run.outcome = .error (.unwritable (pathOf resolved a.name)
          (.refused (refusalOf resolved a.name) (pathOf resolved a.name))) := by
  intro made run writable
  have fit {a : Artifact} (member : a ∈ made) :
      fits (clean w directory).workspace resolved a = true ↔ writable a.name :=
    fits_iff_writable accepted pools components short isResolved leads member
  obtain ⟨outcome, _, _⟩ :=
    Generation.generate_of_clean m (pluginsOf instances) memory isResolved cleaned
  obtain ⟨_, ending⟩ :=
    Generation.performAll_persists leads memory (Generation.tasks m (pluginsOf instances))
  rw [← outcome] at ending
  cases ended : run.outcome with
  | ok artifacts =>
      obtain ⟨rfl, _⟩ := ending.of_ok ended
      have written := allWritten_overlay_iff.mp (ending.all_of_ok ended).2
      exact .inl ⟨rfl, fun a member => (fit member).mp (written a member)⟩
  | error failure =>
      obtain ⟨before, a, after, e, split, fitBefore, refused, rfl⟩ :=
        ending.of_error (isOk_replies m instances memory) ended
      have split : made = before ++ a :: after := split
      have within : ∀ b ∈ before, b ∈ made := fun b among =>
        split ▸ List.mem_append_left _ among
      have member : a ∈ made := split ▸ List.mem_append_right before List.mem_cons_self
      have barred : ¬writable a.name := by
        intro free
        have fitThen := (fit member).mpr free
        rw [← fits_overlay (clean w directory).workspace resolved before] at fitThen
        obtain ⟨place, goes⟩ := fits_iff.mp fitThen
        cases refused.symm.trans goes
      refine .inr ⟨before, a, after, split,
        fun b among => (fit (within b among)).mp (fitBefore b among), barred, ?_⟩
      rw [site_of_not_writable accepted pools components short isResolved leads before member
        barred] at refused
      cases refused
      rfl

/-- After a cleaning that ends well, generators succeed exactly if all that they make can be
written. -/
theorem generate_isOk_iff (isResolved : resolve directory = .ok resolved)
    (cleaned : (clean w directory).outcome = .ok leftovers)
    (leads : (clean w directory).workspace.LeadsTo resolved top) (memory : PoolMemory) :
    (Generation.generate w m directory (pluginsOf instances) memory).outcome.isOk = true ↔
      ∀ name ∈ namesOf m instances, Writable (clean w directory).workspace resolved top name := by
  rcases generate_outcome accepted pools components short isResolved cleaned leads memory with
    ⟨succeeded, all⟩ | ⟨before, a, after, split, _, barred, failed⟩
  · refine iff_of_true (by rw [succeeded]; rfl) fun name member => ?_
    obtain ⟨a, among, rfl⟩ := List.mem_map.mp ((mem_names_iff accepted instances memory).mpr member)
    exact all a among
  · refine iff_of_false (by rw [failed]; exact Bool.false_ne_true) fun all => barred (all _ ?_)
    refine (mem_names_iff accepted instances memory).mp (List.mem_map_of_mem ?_)
    exact split ▸ List.mem_append_right before List.mem_cons_self

/-- One file that cannot be written is enough for a run to fail. -/
theorem generate_isOk_eq_false (isResolved : resolve directory = .ok resolved)
    (cleaned : (clean w directory).outcome = .ok leftovers)
    (leads : (clean w directory).workspace.LeadsTo resolved top) (memory : PoolMemory)
    {name : String} (listed : name ∈ namesOf m instances)
    (barred : ¬Writable (clean w directory).workspace resolved top name) :
    (Generation.generate w m directory (pluginsOf instances) memory).outcome.isOk = false :=
  Bool.eq_false_iff.mpr fun ok => barred <|
    (generate_isOk_iff accepted pools components short isResolved cleaned leads memory).mp ok
      name listed

end Names

/-- How a run of generators goes whose target is cleaned well, on a document that is accepted. -/
structure Succeeds (w : Workspace) (m : Model) (directory : Document)
    (instances : List (BuiltIn × Nat)) (memory : PoolMemory) (resolved : String) (top : Place) :
    Prop where
  isResolved : resolve directory = .ok resolved
  leads : (clean w directory).workspace.LeadsTo resolved top
  /-- No generator fails. -/
  answered : ∀ r ∈ Generation.replies memory (Generation.tasks m (pluginsOf instances)),
    r.answer.outcome.isOk = true
  /-- The run ends well exactly if all files can be written. -/
  ends : (Generation.generate w m directory (pluginsOf instances) memory).outcome.isOk = true ↔
    ∀ name ∈ namesOf m instances, Writable (clean w directory).workspace resolved top name
  /-- Otherwise the system refuses the first file that cannot be written, and the run fails with
  that. -/
  fails : (¬∀ name ∈ namesOf m instances,
      Writable (clean w directory).workspace resolved top name) →
    ∃ before a after,
      Generation.given (Generation.replies memory (Generation.tasks m (pluginsOf instances))) =
        before ++ a :: after ∧
      (∀ b ∈ before, Writable (clean w directory).workspace resolved top b.name) ∧
      ¬Writable (clean w directory).workspace resolved top a.name ∧
      (Generation.generate w m directory (pluginsOf instances) memory).outcome =
        .error (.unwritable (pathOf resolved a.name)
          (.refused (refusalOf resolved a.name) (pathOf resolved a.name)))
  /-- A directory in the place of a file stood there before the cleaning, unless the cleaning makes
  a target that is reached by going up. -/
  stood : w.LeadsTo resolved top ∨ (∀ segment ∈ Text.splitAt '/' resolved, segment ≠ "..") →
    ∀ name, (clean w directory).workspace.tree.isDirectory (top ++ [name]) =
      w.tree.isDirectory (top ++ [name])

end BuiltIn

end EntityScribe
