import EntityScribe.Proofs.Persistence

/-!
# The order of calls

Plugins that note what they are given run like the plugins themselves, so what handlers receive can
be read off their notes: the slice of each phase as a whole, for every plugin with a handler for it,
phase by phase and in the order of the plugins. The calls are the first of these, up to the first
that fails.
-/

namespace EntityScribe

/-- What a handler is given. -/
inductive Slice where
  | pools (names : List String)
  | components (components : List Component)
  | blueprints (names : List String)
  deriving DecidableEq, Repr

namespace Slice

def phase : Slice → Phase
  | .pools _ => .pools
  | .components _ => .components
  | .blueprints _ => .blueprints

def names : Slice → List String
  | .pools names => names
  | .components them => them.map (·.name)
  | .blueprints names => names

end Slice

namespace Model

/-- The slice of a model for a phase. -/
def slice (m : Model) : Phase → Slice
  | .pools => .pools m.pools
  | .components => .components m.components
  | .blueprints => .blueprints m.blueprints

@[simp]
theorem phase_slice (m : Model) (phase : Phase) : (m.slice phase).phase = phase := by
  cases phase <;> rfl

@[simp]
theorem names_slice (m : Model) (phase : Phase) : (m.slice phase).names = m.sliceNames phase := by
  cases phase <;> rfl

end Model

/-- A plugin is given a slice. -/
structure Visit where
  /-- The place of the plugin in the list of plugins. -/
  position : Nat
  slice : Slice
  deriving DecidableEq, Repr

/-- A handler that notes each visit behind what it remembers. -/
def Handler.noting {α σ : Type} (visit : α → Visit) (handler : Handler α σ) :
    Handler α (σ × List Visit) :=
  fun slice memory =>
    let reply := handler slice memory.1
    ⟨reply.answer, (reply.memory, memory.2 ++ [visit slice])⟩

namespace Plugin

variable {σ : Type}

/-- The plugin at a place in the list of plugins, with handlers that note their visits. -/
def noting (p : Plugin σ) (position : Nat) : Plugin (σ × List Visit) where
  className := p.className
  name := p.name
  onPools := p.onPools.map (.noting fun names => ⟨position, .pools names⟩)
  onComponents := p.onComponents.map (.noting fun components => ⟨position, .components components⟩)
  onBlueprints := p.onBlueprints.map (.noting fun names => ⟨position, .blueprints names⟩)

end Plugin

namespace Generation

open Target

variable {σ : Type}

/-- Plugins that note what they are given. -/
def noting (plugins : List (Plugin σ)) : List (Plugin (σ × List Visit)) :=
  plugins.zipIdx.map fun entry => entry.1.noting entry.2

/-- The visits of a phase: of each plugin that has a handler for it, in their order. -/
def visitsIn (m : Model) (plugins : List (Plugin σ)) (phase : Phase) : List Visit :=
  plugins.zipIdx.filterMap fun entry =>
    if entry.1.handles phase then some ⟨entry.2, m.slice phase⟩ else none

/-- All visits in their order. -/
def dispatch (m : Model) (plugins : List (Plugin σ)) : List Visit :=
  visitsIn m plugins .pools ++ visitsIn m plugins .components ++ visitsIn m plugins .blueprints

example :
    let idle : Plugin Unit := ⟨"Idle", none, none, none, none⟩
    let busy : Plugin Unit := ⟨"Busy", none, some fun _ _ => ⟨⟨.ok [], []⟩, ()⟩,
      some fun _ _ => ⟨⟨.ok [], []⟩, ()⟩, none⟩
    dispatch ⟨["Pool"], [], ["Ship"]⟩ [busy, idle, busy] =
      [⟨0, .pools ["Pool"]⟩, ⟨2, .pools ["Pool"]⟩, ⟨0, .components []⟩, ⟨2, .components []⟩] := by
  decide

/-! ## Tasks that note their visits -/

def visitOf (m : Model) (t : Task σ) : Visit :=
  ⟨t.position, m.slice t.phase⟩

/-- A task that notes its visit behind what it remembers. -/
def notingTask (m : Model) (t : Task σ) : Task (σ × List Visit) where
  position := t.position
  className := t.className
  phase := t.phase
  names := t.names
  perform memory :=
    ⟨(t.perform memory.1).answer, ((t.perform memory.1).memory, memory.2 ++ [visitOf m t])⟩

theorem map_visitOf_tasks (m : Model) (plugins : List (Plugin σ)) :
    (tasks m plugins).map (visitOf m) = dispatch m plugins := by
  have inPhase : ∀ phase, (plugins.zipIdx.filterMap (task? m phase)).map (visitOf m) =
      visitsIn m plugins phase := by
    intro phase
    rw [List.map_filterMap, visitsIn]
    congr 1
    funext entry
    rw [task?, ← entry.1.isSome_handler? phase m]
    cases entry.1.handler? phase m <;> rfl
  rw [tasks, Phase.all, List.map_flatMap]
  simp only [inPhase]
  simp [dispatch]

theorem handler?_noting (p : Plugin σ) (position : Nat) (phase : Phase) (m : Model) :
    (p.noting position).handler? phase m = (p.handler? phase m).map fun perform memory =>
      ⟨(perform memory.1).answer,
        ((perform memory.1).memory, memory.2 ++ [⟨position, m.slice phase⟩])⟩ := by
  cases phase <;> simp only [Plugin.handler?, Plugin.noting, Option.map_map] <;> rfl

theorem task?_noting (m : Model) (phase : Phase) (entry : Plugin σ × Nat) :
    task? m phase (entry.1.noting entry.2, entry.2) =
      (task? m phase entry).map (notingTask m) := by
  rw [task?, task?, handler?_noting, Option.map_map, Option.map_map]
  rfl

theorem tasks_noting (m : Model) (plugins : List (Plugin σ)) :
    tasks m (noting plugins) = (tasks m plugins).map (notingTask m) :=
  tasks_map_zipIdx (task?_noting m) plugins

/-- Tasks that note their visits note one for each call, and are performed like the others
otherwise. -/
theorem performAll_noting (m : Model) (directory : String) (w : Workspace) (memory : σ)
    (seen : List Visit) (ts : List (Task σ)) :
    performAll directory w (memory, seen) (ts.map (notingTask m)) =
      let run := performAll directory w memory ts
      { run with
        memory := (run.memory, seen ++ (ts.map (visitOf m)).take run.calls.length) } := by
  induction ts generalizing w memory seen with
  | nil => simp [performAll]
  | cons t more ih =>
      rw [List.map_cons, performAll, performAll]
      dsimp only [notingTask]
      cases performed : (t.perform memory).answer.outcome with
      | error failure => rfl
      | ok artifacts =>
          cases written : (Target.write w directory artifacts).outcome with
          | error failure =>
              dsimp only
              rw [written]
              rfl
          | ok done =>
              dsimp only
              rw [written]
              dsimp only
              rw [ih]
              simp only [List.map_cons, List.length_cons, List.take_succ_cons, List.append_assoc,
                List.singleton_append]
              rfl

/-! ## Where the calls stop -/

/-- A call fails if its handler does, or if an artifact that it gives cannot be written to the files
that it has found. -/
def Fails (w : Workspace) (directory : String) (tree : FileTree) (r : Reply σ) : Prop :=
  (∃ failure, r.answer.outcome = .error failure) ∨
    ∃ artifacts failure, r.answer.outcome = .ok artifacts ∧
      (Target.write { w with tree := tree } directory artifacts).outcome = .error failure

/-- Of calls with given replies, the last fails if the run does, and no other. -/
structure Stops (w : Workspace) (directory : String) (rs : List (Reply σ)) (calls : List Call)
    (outcome : Except Failure (List Artifact)) : Prop where
  complete : (∃ artifacts, outcome = .ok artifacts) → calls.length = rs.length
  failing : ∀ k call r, calls[k]? = some call → rs[k]? = some r →
    (Fails w directory call.tree r ↔
      k + 1 = calls.length ∧ ∃ failure, outcome = .error failure)
  begun : (∃ failure, outcome = .error failure) → calls ≠ []

/-- It makes no difference which files a workspace has now. -/
theorem Stops.of_tree {w w' : Workspace} {directory : String} {rs : List (Reply σ)}
    {calls : List Call} {outcome : Except Failure (List Artifact)}
    (stops : Stops w' directory rs calls outcome) (same : ∃ tree, w' = { w with tree := tree }) :
    Stops w directory rs calls outcome := by
  obtain ⟨tree, rfl⟩ := same
  exact ⟨stops.complete, stops.failing, stops.begun⟩

theorem Stops.last {w : Workspace} {directory : String} {t : Task σ} {r : Reply σ}
    {rs : List (Reply σ)} {failure : Failure} (fails : Fails w directory w.tree r) :
    Stops w directory (r :: rs) [callOf t w] (.error failure) := by
  refine ⟨?_, ?_, fun _ => List.cons_ne_nil _ _⟩
  · rintro ⟨artifacts, succeeded⟩
    cases succeeded
  · intro k call reply called replied
    cases k with
    | zero =>
        obtain rfl := Option.some.inj called
        obtain rfl := Option.some.inj replied
        exact iff_of_true fails ⟨rfl, failure, rfl⟩
    | succ k => cases called

theorem Stops.cons {w : Workspace} {directory : String} {t : Task σ} {r : Reply σ}
    {rs : List (Reply σ)} {calls : List Call} {outcome : Except Failure (List Artifact)}
    {artifacts : List Artifact} (succeeds : ¬ Fails w directory w.tree r)
    (rest : Stops w directory rs calls outcome) :
    Stops w directory (r :: rs) (callOf t w :: calls) (outcome.map (artifacts ++ ·)) := by
  have failed : ((∃ failure, outcome.map (artifacts ++ ·) = .error failure) ↔
      ∃ failure, outcome = .error failure) := by
    cases outcome <;> simp [Except.map]
  refine ⟨?_, ?_, fun _ => List.cons_ne_nil _ _⟩
  · rintro ⟨all, succeeded⟩
    cases outcome with
    | error failure => cases succeeded
    | ok others => rw [List.length_cons, List.length_cons, rest.complete ⟨others, rfl⟩]
  · intro k call reply called replied
    rw [failed, List.length_cons, Nat.add_right_cancel_iff]
    cases k with
    | zero =>
        obtain rfl := Option.some.inj called
        obtain rfl := Option.some.inj replied
        refine iff_of_false succeeds ?_
        rintro ⟨none, failure⟩
        exact rest.begun failure (List.length_eq_zero_iff.mp none.symm)
    | succ k => exact rest.failing k call reply called replied

theorem performAll_stops (directory : String) (w : Workspace) (memory : σ) (ts : List (Task σ)) :
    let run := performAll directory w memory ts
    Stops w directory (replies memory ts) run.calls run.outcome := by
  induction ts generalizing w memory with
  | nil =>
      refine ⟨fun _ => rfl, ?_, ?_⟩
      · intro k call r called
        cases called
      · rintro ⟨failure, failed⟩
        cases failed
  | cons t more ih =>
      dsimp only
      rw [replies]
      cases performed : (t.perform memory).answer.outcome with
      | error failure =>
          obtain ⟨outcome, _, calls⟩ := performAll_of_raised more performed
          rw [outcome, calls]
          exact .last (.inl ⟨failure, performed⟩)
      | ok artifacts =>
          cases written : (Target.write w directory artifacts).outcome with
          | error failure =>
              obtain ⟨outcome, _, calls⟩ := performAll_of_blocked more performed written
              rw [outcome, calls]
              exact .last (.inr ⟨artifacts, failure, performed, written⟩)
          | ok done =>
              obtain ⟨outcome, _, calls⟩ := performAll_of_written more performed written
              -- The rest is performed on other files, but each call is judged by those it found.
              have rest := ih (Target.write w directory artifacts).workspace
                (t.perform memory).memory
              have succeeds : ¬ Fails w directory w.tree (t.perform memory) := by
                rintro (⟨failure, failed⟩ | ⟨others, failure, again, failed⟩)
                · cases performed.symm.trans failed
                · obtain rfl : artifacts = others := Except.ok.inj (performed.symm.trans again)
                  cases written.symm.trans failed
              rw [outcome, calls]
              exact .cons succeeds (rest.of_tree (write_workspace w directory artifacts))

/-! ## Whole runs -/

theorem exists_plugin_of_mem_tasks {m : Model} {plugins : List (Plugin σ)} {t : Task σ}
    (member : t ∈ tasks m plugins) :
    ∃ p, plugins[t.position]? = some p ∧ t.className = p.className ∧ p.handles t.phase = true ∧
      t.names = m.sliceNames t.phase := by
  obtain ⟨phase, _, inPhase⟩ := List.mem_flatMap.mp member
  obtain ⟨⟨p, position⟩, inside, made⟩ := List.mem_filterMap.mp inPhase
  obtain ⟨perform, handler, rfl⟩ := Option.map_eq_some_iff.mp made
  refine ⟨p, List.mk_mem_zipIdx_iff_getElem?.mp inside, rfl, ?_, rfl⟩
  rw [← p.isSome_handler? phase m, handler]
  rfl

/-- How the calls of a run follow each other. -/
structure Dispatches (w : Workspace) (m : Model) (directory : Document) (plugins : List (Plugin σ))
    (memory : σ) : Prop where
  /-- Plugins that note what they are given note the first visits, one for each call, and run like
  the plugins themselves otherwise. -/
  received : generate w m directory (noting plugins) (memory, []) =
    let run := generate w m directory plugins memory
    { run with memory := (run.memory, (dispatch m plugins).take run.calls.length) }
  /-- The calls are the first visits, each of a plugin that has a handler for its phase. -/
  called : ∀ (k : Nat) (call : Call),
    (generate w m directory plugins memory).calls[k]? = some call →
    ∃ (visit : Visit) (p : Plugin σ), (dispatch m plugins)[k]? = some visit ∧
      plugins[visit.position]? = some p ∧
      p.handles visit.slice.phase = true ∧
      call.position = visit.position ∧
      call.className = p.className ∧
      call.phase = visit.slice.phase ∧
      call.names = visit.slice.names
  /-- Without a failure every visit is made. -/
  complete : ∀ artifacts, (generate w m directory plugins memory).outcome = .ok artifacts →
    (generate w m directory plugins memory).calls.length = (dispatch m plugins).length
  /-- A call fails just if it is the last one of a run that fails. -/
  failing : ∀ (k : Nat) (call : Call),
    (generate w m directory plugins memory).calls[k]? = some call →
    ∃ (resolved : String) (r : Reply σ), resolve directory = .ok resolved ∧
      (replies memory (tasks m plugins))[k]? = some r ∧
      (Fails w resolved call.tree r ↔
        k + 1 = (generate w m directory plugins memory).calls.length ∧
          ∃ failure, (generate w m directory plugins memory).outcome = .error failure)
  /-- Nothing is called just if the cleaning fails or there is nothing to call. -/
  begun : (generate w m directory plugins memory).calls = [] ↔
    (∃ failure, (clean w directory).outcome = .error failure) ∨ dispatch m plugins = []

theorem length_noting (plugins : List (Plugin σ)) : (noting plugins).length = plugins.length := by
  rw [noting, List.length_map, List.length_zipIdx]

theorem generate_noting (w : Workspace) (m : Model) (directory : Document)
    (plugins : List (Plugin σ)) (memory : σ) :
    generate w m directory (noting plugins) (memory, []) =
      let run := generate w m directory plugins memory
      { run with memory := (run.memory, (dispatch m plugins).take run.calls.length) } := by
  unfold generate
  split
  · rfl
  · dsimp only
    split
    · rfl
    · dsimp only [runIn]
      rw [tasks_noting, performAll_noting, length_noting, map_visitOf_tasks]
      rfl

theorem length_dispatch (m : Model) (plugins : List (Plugin σ)) (memory : σ) :
    (replies memory (tasks m plugins)).length = (dispatch m plugins).length := by
  rw [length_replies, ← map_visitOf_tasks, List.length_map]

/-- The calls of a run are a first part of the dispatch, and all of it without a failure; they stop
at the first that fails. -/
theorem generate_dispatches (w : Workspace) (m : Model) (directory : Document)
    (plugins : List (Plugin σ)) (memory : σ) : Dispatches w m directory plugins memory := by
  have received := generate_noting w m directory plugins memory
  cases ended : (clean w directory).outcome with
  | error failure =>
      obtain ⟨outcome, _, calls⟩ := generate_of_failed m plugins memory ended
      refine ⟨received, ?_, ?_, ?_, iff_of_true calls (.inl ⟨failure, ended⟩)⟩
      · intro k call there
        rw [calls] at there
        cases there
      · intro artifacts succeeded
        cases outcome.symm.trans succeeded
      · intro k call there
        rw [calls] at there
        cases there
  | ok leftovers =>
      obtain ⟨resolved, top, isResolved, leads⟩ := leadsTo_of_clean ended
      obtain ⟨outcome, _, calls⟩ := generate_of_clean m plugins memory isResolved ended
      obtain ⟨see, _⟩ := performAll_persists leads memory (tasks m plugins)
      have stops := (performAll_stops resolved (clean w directory).workspace memory
        (tasks m plugins)).of_tree (clean_workspace w directory)
      rw [← calls] at see
      rw [← outcome, ← calls] at stops
      have visits := map_visitOf_tasks m plugins
      refine ⟨received, ?_, ?_, ?_, ?_⟩
      · intro k call there
        obtain ⟨t, performed, rfl⟩ := see k call there
        obtain ⟨p, stands, className, handles, names⟩ :=
          exists_plugin_of_mem_tasks (List.mem_of_getElem? performed)
        refine ⟨visitOf m t, p, ?_, stands, ?_, rfl, className, (m.phase_slice t.phase).symm, ?_⟩
        · rw [← visits, List.getElem?_map, performed, Option.map_some]
        · rw [visitOf, m.phase_slice, handles]
        · rw [visitOf, m.names_slice, callOf, names]
      · intro artifacts succeeded
        rw [stops.complete ⟨artifacts, succeeded⟩, length_dispatch]
      · intro k call there
        obtain ⟨t, performed, _⟩ := see k call there
        obtain ⟨within, _⟩ := List.getElem?_eq_some_iff.mp performed
        rw [← length_replies memory] at within
        have replied := List.getElem?_eq_getElem within
        exact ⟨resolved, _, isResolved, replied, stops.failing k call _ there replied⟩
      · constructor
        · intro none
          right
          cases result : (generate w m directory plugins memory).outcome with
          | error failure => exact absurd none (stops.begun ⟨failure, result⟩)
          | ok artifacts =>
              have all := stops.complete ⟨artifacts, result⟩
              rw [none, length_dispatch] at all
              exact List.length_eq_zero_iff.mp all.symm
        · rintro (⟨failure, failed⟩ | nowhere)
          · cases ended.symm.trans failed
          · rw [← visits, List.map_eq_nil_iff] at nowhere
            cases made : (generate w m directory plugins memory).calls with
            | nil => rfl
            | cons call more =>
                rw [made, nowhere] at see
                obtain ⟨t, performed, _⟩ := see 0 call rfl
                cases performed

end Generation

end EntityScribe
