import EntityScribe.Proofs.ClassTexts
import EntityScribe.Proofs.Replies
import EntityScribe.Proofs.LookupClasses
import EntityScribe.Proofs.Grammar

/-!
# Which files a run touches

A run deletes generated files below the target only. It writes where the names of artifacts lead
from the target on, so it stays directly in the target exactly if all these names lead back to it,
or change nothing where they lead.
-/

namespace EntityScribe

namespace Target

/-- Every file that is not as it was lies below the target, and directly in it unless it is gone. -/
def Contained (w final : Workspace) (directory : Document) : Prop :=
  ∀ p, final.tree.file? p ≠ w.tree.file? p →
    ∃ resolved top rest, resolve directory = .ok resolved ∧ final.LeadsTo resolved top ∧
      p = top ++ rest ∧ rest ≠ [] ∧ (final.tree.file? p ≠ none → ∃ name, rest = [name])

variable {w : Workspace} {directory : Document} {resolved : String} {top : Place}
  {leftovers : List Leftover}

/-- However a cleaning ends, it touches files below the target only, and those it deletes. -/
theorem file?_clean_cases (w : Workspace) (directory : Document) (p : Place) :
    (clean w directory).workspace.tree.file? p = w.tree.file? p ∨
      (clean w directory).workspace.tree.file? p = none ∧
        ∃ resolved top rest, resolve directory = .ok resolved ∧
          (clean w directory).workspace.LeadsTo resolved top ∧ p = top ++ rest ∧ rest ≠ [] := by
  rcases clean_workspace_cases w directory with
    ⟨tree, grown, same⟩ | ⟨resolved, top, tree, isResolved, leads, thinned, same⟩
  · rw [same]
    exact .inl (grown.file? p)
  · rw [same]
    refine (thinned.file?_cases p).imp_right ?_
    rintro ⟨gone, content, goes⟩
    obtain ⟨rest, split, deeper, _⟩ := stale_iff.mp goes
    exact ⟨gone, resolved, top, rest, isResolved,
      leads.mono fun q stands => (thinned.isDirectory q).trans stands, split, deeper⟩

/-- At the place of an artifact that has been written there is a file. -/
theorem isSome_file?_overlay {artifacts : List Artifact} {a : Artifact} {place : Place}
    (member : a ∈ artifacts) (goes : site w resolved a = .ok place) :
    (overlay w resolved artifacts).tree.file? place ≠ none := by
  have listed : (place, bytes w.lineEnd a) ∈ (artifacts.filterMap (fileOf w resolved)).reverse :=
    List.mem_reverse.mpr (List.mem_filterMap.mpr ⟨a, member, fileOf_of_site goes⟩)
  rw [file?_overlay]
  cases found : (artifacts.filterMap (fileOf w resolved)).reverse.lookup place with
  | some content => exact Option.some_ne_none content
  | none =>
      have other := List.lookup_eq_none_iff.mp found _ listed
      simp at other

end Target

namespace Generation

open Target

variable {σ : Type} {w : Workspace} {m : Model} {directory : Document}
  {plugins : List (Plugin σ)} {memory : σ}

/-- Every artifact that a run writes has a name that leads from the target back to it, or its file
ends up as it was before the run. -/
def StaysInside (w : Workspace) (m : Model) (directory : Document) (plugins : List (Plugin σ))
    (memory : σ) : Prop :=
  ∀ leftovers resolved top, (clean w directory).outcome = .ok leftovers →
    resolve directory = .ok resolved → (clean w directory).workspace.LeadsTo resolved top →
    ∀ a ∈ persisted (clean w directory).workspace resolved (replies memory (tasks m plugins)),
      Workspace.Leads (clean w directory).workspace.tree top (folders a) top ∨
        ∃ place, site (clean w directory).workspace resolved a = .ok place ∧
          (generate w m directory plugins memory).workspace.tree.file? place = w.tree.file? place

/-- A run stays in its target exactly if each of its artifacts does. -/
theorem contained_iff :
    Contained w (generate w m directory plugins memory).workspace directory ↔
      StaysInside w m directory plugins memory := by
  cases ended : (clean w directory).outcome with
  | error failure =>
      constructor
      · intro _ leftovers _ _ cleaned
        rw [ended] at cleaned
        cases cleaned
      · intro _ p changed
        rw [(generate_of_failed m plugins memory ended).2.1] at changed ⊢
        rcases file?_clean_cases w directory p with
          kept | ⟨gone, resolved, top, rest, isResolved, leads, split, deeper⟩
        · exact absurd kept changed
        · exact ⟨resolved, top, rest, isResolved, leads, split, deeper,
            fun there => absurd gone there⟩
  | ok leftovers =>
      obtain ⟨resolved, top, isResolved, leads⟩ := leadsTo_of_clean ended
      obtain ⟨front, rfl⟩ := resolved_eq isResolved
      have left := generate_workspace m plugins memory isResolved ended
      have leadsThen := leadsTo_overlay leads
        (persisted (clean w directory).workspace (front ++ "/") (replies memory (tasks m plugins)))
      rw [← left] at leadsThen
      constructor
      · intro contained _ other here _ again leadsHere a member
        obtain rfl : front ++ "/" = other := Except.ok.inj (isResolved.symm.trans again)
        obtain rfl : top = here := leads.unique leadsHere
        obtain ⟨place, goes⟩ := fits_iff.mp (fits_of_mem_persisted member)
        by_cases same : (generate w m directory plugins memory).workspace.tree.file? place =
            w.tree.file? place
        · exact .inr ⟨place, goes, same⟩
        · obtain ⟨other, here, rest, again, leadsHere, rfl, _, direct⟩ := contained place same
          obtain rfl : front ++ "/" = other := Except.ok.inj (isResolved.symm.trans again)
          obtain rfl : top = here := leadsThen.unique leadsHere
          have there := isSome_file?_overlay member goes
          rw [← left] at there
          obtain ⟨name, rfl⟩ := direct there
          exact .inl ((leads_folders_iff leads goes).mpr ⟨name, rfl⟩)
      · intro stays p changed
        have after := file?_overlay (clean w directory).workspace (front ++ "/")
          (persisted (clean w directory).workspace (front ++ "/")
            (replies memory (tasks m plugins))) p
        rw [← left] at after
        cases found : ((persisted (clean w directory).workspace (front ++ "/")
            (replies memory (tasks m plugins))).filterMap
              (fileOf (clean w directory).workspace (front ++ "/"))).reverse.lookup p with
        | some content =>
            obtain ⟨a, member, goes⟩ := site_of_lookup found
            rcases stays leftovers _ top ended isResolved leads a member with
              back | ⟨place, goesHere, same⟩
            · obtain ⟨name, rfl⟩ := (leads_folders_iff leads goes).mp back
              exact ⟨_, top, [name], isResolved, leadsThen, rfl, List.cons_ne_nil _ _,
                fun _ => ⟨name, rfl⟩⟩
            · obtain rfl : p = place := Except.ok.inj (goes.symm.trans goesHere)
              exact absurd same changed
        | none =>
            rw [found, Option.none_or] at after
            rcases file?_clean_cases w directory p with
              kept | ⟨gone, other, here, rest, again, leadsHere, rfl, deeper⟩
            · exact absurd (after.trans kept) changed
            · obtain rfl : front ++ "/" = other := Except.ok.inj (isResolved.symm.trans again)
              obtain rfl : top = here := leads.unique leadsHere
              exact ⟨_, top, rest, isResolved, leadsThen, rfl, deeper,
                fun there => absurd (after.trans gone) there⟩

/-- Artifacts with plain names stay inside. -/
theorem staysInside_of_plain
    (plain : ∀ a ∈ given (replies memory (tasks m plugins)), '/' ∉ a.name.toList) :
    StaysInside w m directory plugins memory := by
  intro leftovers resolved top _ _ leads a member
  left
  rw [folders_of_plain (plain a (persisted_subset _ _ _ member))]
  exact Workspace.Leads.nil_iff.mpr ⟨rfl, leads.2⟩

end Generation

/-! ## Built-in generators -/

namespace BuiltIn

open Target

theorem plain_append {s t : String} :
    '/' ∉ (s ++ t).toList ↔ '/' ∉ s.toList ∧ '/' ∉ t.toList := by
  rw [String.toList_append, List.mem_append, not_or]

theorem plain_lookupTag {pool : String} (plain : '/' ∉ pool.toList) :
    '/' ∉ (Naming.lookupTag pool).toList := by
  refine plain_append.mpr ⟨?_, by decide⟩
  unfold Naming.qualifier
  split
  · decide
  · exact plain

theorem name_of_mem_poolAttributes {pools : List String} {a : Artifact}
    (gives : a ∈ (PoolAttributes.generate pools).batch) :
    ∃ pool ∈ pools, a.name = PoolAttributes.artifactName pool := by
  induction pools with
  | nil => cases gives
  | cons pool rest ih =>
      have later : a ∈ (PoolAttributes.generate rest).batch →
          ∃ other ∈ pool :: rest, a.name = PoolAttributes.artifactName other := by
        intro inside
        obtain ⟨other, member, name⟩ := ih inside
        exact ⟨other, List.mem_cons_of_mem pool member, name⟩
      by_cases default : pool = Naming.defaultPool
      · rw [default, PoolAttributes.generate_default] at gives
        exact later gives
      · rw [PoolAttributes.generate_of_ne default] at gives
        cases rendered : (PoolAttributes.render pool).outcome with
        | error failure => simp [rendered, Answer.batch] at gives
        | ok lines =>
            cases others : (PoolAttributes.generate rest).outcome with
            | error failure => simp [rendered, others, Answer.batch, Except.map] at gives
            | ok more =>
                have either : a = Artifact.ofLines (PoolAttributes.artifactName pool)
                    PoolAttributes.className lines ∨ a ∈ more := by
                  simpa [rendered, others, Answer.batch, Except.map] using gives
                rcases either with rfl | inside
                · exact ⟨pool, List.mem_cons_self, rfl⟩
                · exact later (by rwa [Answer.batch, others])

variable {d : Document} {m : Model}

/-- The names of artifacts are made of the names of pools and components. -/
theorem plain_of_mem_batch {b : BuiltIn} {a : Artifact} (gives : a ∈ (b.answer m).batch)
    (known : ∀ c ∈ m.components, PoolsKnown m.pools c.pools)
    (plainPools : ∀ pool ∈ m.pools, '/' ∉ pool.toList)
    (plainComponents : ∀ c ∈ m.components, '/' ∉ c.name.toList) : '/' ∉ a.name.toList := by
  cases b with
  | poolAttributes =>
      obtain ⟨pool, member, name⟩ := name_of_mem_poolAttributes gives
      rw [name]
      exact plain_append.mpr ⟨plainPools pool member, by decide⟩
  | pools =>
      obtain rfl := List.mem_singleton.mp gives
      change '/' ∉ PoolAccessors.artifactName.toList
      decide
  | componentIndices =>
      obtain ⟨k, member, rfl⟩ := List.mem_map.mp gives
      change '/' ∉ k.tag.toList
      rcases LookupClasses.tag_of_mem_classes member with own | own
      · obtain ⟨pool, inside, tag⟩ := List.mem_map.mp own
        rw [← tag]
        exact plain_lookupTag (plainPools pool inside)
      · obtain ⟨c, among, own⟩ := List.mem_flatMap.mp own
        obtain ⟨pool, inside, tag⟩ := List.mem_map.mp own
        rw [← tag]
        exact plain_lookupTag (plainPools pool ((known c among).2 inside))
  | componentExtensions =>
      obtain ⟨c, member, rfl⟩ := List.mem_map.mp gives
      exact plain_append.mpr ⟨plainComponents c member, by decide⟩
  | blueprints =>
      change a ∈ (BlueprintMethods.generate m.blueprints).batch at gives
      by_cases none : m.blueprints = []
      · rw [BlueprintMethods.generate, if_pos none] at gives
        cases gives
      · obtain ⟨b, given, isClass⟩ := BlueprintMethods.generate_eq none
        rw [given] at gives
        rw [List.mem_singleton.mp gives, isClass.name]
        decide

/-- A run of built-in generators stays in its target exactly if its artifacts do, and always if
neither pools nor components have separators in their names. -/
theorem generate_contained (accepted : Model.ofDocument d = .ok m) (w : Workspace)
    (directory : Document) (instances : List (BuiltIn × Nat)) (memory : PoolMemory) :
    (Contained w (Generation.generate w m directory (pluginsOf instances) memory).workspace
        directory ↔
      Generation.StaysInside w m directory (pluginsOf instances) memory) ∧
    ((∀ pool ∈ m.pools, '/' ∉ pool.toList) → (∀ c ∈ m.components, '/' ∉ c.name.toList) →
      Contained w (Generation.generate w m directory (pluginsOf instances) memory).workspace
        directory) := by
  refine ⟨Generation.contained_iff, ?_⟩
  intro plainPools plainComponents
  refine Generation.contained_iff.mpr (Generation.staysInside_of_plain ?_)
  intro a member
  obtain ⟨b, slot, _, gives⟩ := mem_given_iff.mp member
  exact plain_of_mem_batch gives (Model.ofDocument_known accepted) plainPools plainComponents

/-- All generators on a document that leaves everything out. -/
theorem generate_contained_default :
    let w : Workspace :=
      ⟨FileTree.empty.put ["Generated"] .directory, [], [], "\n", Workspace.usualRoom⟩
    Model.ofDocument (.map []) = .ok ⟨["Pool"], [], []⟩ ∧
      Contained w
        (Generation.generate w ⟨["Pool"], [], []⟩ (.text "Generated") (plugins all) .none).workspace
        (.text "Generated") := by
  intro w
  have accepted : Model.ofDocument (.map []) = .ok ⟨["Pool"], [], []⟩ := by rfl
  exact ⟨accepted, (generate_contained accepted w (.text "Generated") all.zipIdx .none).2
    (by decide) (by decide)⟩

/-- A pool whose name goes up leads its attribute out of the target. -/
theorem attribute_escapes :
    let w : Workspace :=
      ⟨FileTree.empty.put ["Generated"] .directory, [], [], "\n", Workspace.usualRoom⟩
    let d : Document := .map [(.text "_pools", .list [.text "../Evil"])]
    let m : Model := ⟨["../Evil"], [], []⟩
    Model.ofDocument d = .ok m ∧
      ¬ Contained w (Generation.generate w m (.text "Generated")
        (plugins [poolAttributes]) .none).workspace (.text "Generated") := by
  intro w d m
  have cleaned : (clean w (.text "Generated")).outcome = .ok [] := by rfl
  have left := Generation.generate_workspace m (plugins [poolAttributes]) PoolMemory.none
    (show resolve (.text "Generated") = .ok "Generated/" by rfl) cleaned
  refine ⟨rfl, fun contained => ?_⟩
  have written : (Generation.persisted (clean w (.text "Generated")).workspace "Generated/"
      (Generation.replies .none (Generation.tasks m (plugins [poolAttributes])))).any
        (·.name == "../EvilAttribute") = true := by decide
  obtain ⟨a, member, named⟩ := List.any_eq_true.mp written
  have path : a.fileIn "Generated/" = "Generated/../EvilAttribute.cs" := by
    rw [Artifact.fileIn, beq_iff_eq.mp named]
    decide
  have goes : site (clean w (.text "Generated")).workspace "Generated/" a =
      .ok ["EvilAttribute.cs"] := by
    rw [site, path]
    rfl
  have there := isSome_file?_overlay member goes
  rw [← left] at there
  obtain ⟨resolved, top, rest, isResolved, leads, split, _⟩ := contained ["EvilAttribute.cs"] there
  obtain rfl : "Generated/" = resolved := Except.ok.inj isResolved
  have stands : (clean w (.text "Generated")).workspace.LeadsTo "Generated/" ["Generated"] :=
    ⟨rfl, rfl⟩
  rw [left] at leads
  obtain rfl := (leadsTo_overlay stands _).unique leads
  exact absurd (List.cons.inj split).1 (by decide)

end BuiltIn

end EntityScribe
