import EntityScribe.Proofs.Replies

/-!
# Runs without a history

Whatever instances of built-in generators remember from earlier runs, they run like plugins that
remember nothing and know the pools of the model from the start. So a run shows nothing of the runs
before it, whether they ended well or not.
-/

namespace EntityScribe

/-- What a run shows: all but the memory. -/
def Run.shown {σ : Type} (run : Run σ) : Run Unit :=
  ⟨run.outcome, run.workspace, (), run.calls, run.log, run.diagnostics⟩

section Frozen

variable {σ : Type}

/-- A handler that always finds the same memory. -/
def Handler.frozen {α : Type} (fixed : σ) (handler : Handler α σ) : Handler α Unit :=
  .plain fun slice => (handler slice fixed).answer

/-- A plugin that always finds the same memory. -/
def Plugin.frozen (fixed : σ) (p : Plugin σ) : Plugin Unit where
  className := p.className
  name := p.name
  onPools := p.onPools.map (.frozen fixed)
  onComponents := p.onComponents.map (.frozen fixed)
  onBlueprints := p.onBlueprints.map (.frozen fixed)

def Task.frozen (fixed : σ) (t : Task σ) : Task Unit where
  position := t.position
  className := t.className
  phase := t.phase
  names := t.names
  perform _ := ⟨(t.perform fixed).answer, ()⟩

theorem Task.perform_frozen (fixed : σ) (t : Task σ) :
    (t.frozen fixed).perform () = ⟨(t.perform fixed).answer, ()⟩ := rfl

end Frozen

namespace Generation

section Frozen

variable {σ : Type} {fixed memory : σ}

theorem handler?_frozen (fixed : σ) (p : Plugin σ) (phase : Phase) (m : Model) :
    (p.frozen fixed).handler? phase m =
      (p.handler? phase m).map fun perform _ => ⟨(perform fixed).answer, ()⟩ := by
  cases phase <;> simp only [Plugin.handler?, Plugin.frozen, Option.map_map] <;> rfl

theorem task?_frozen (fixed : σ) (m : Model) (phase : Phase) (entry : Plugin σ × Nat) :
    task? m phase (entry.1.frozen fixed, entry.2) =
      (task? m phase entry).map (·.frozen fixed) := by
  rw [task?, task?, handler?_frozen, Option.map_map, Option.map_map]
  rfl

theorem tasks_frozen (fixed : σ) (m : Model) (plugins : List (Plugin σ)) :
    tasks m (plugins.map (·.frozen fixed)) = (tasks m plugins).map (·.frozen fixed) := by
  rw [← tasks_map_zipIdx (task?_frozen fixed m) plugins]
  conv_lhs => rw [← List.zipIdx_map_fst 0 plugins, List.map_map]
  rfl

/-- Tasks show what they show with a fixed memory, if they answer as with it. -/
theorem performAll_frozen {directory : String} {w : Workspace} {ts : List (Task σ)}
    (same : (replies memory ts).map (·.answer) = ts.map fun t => (t.perform fixed).answer) :
    (performAll directory w memory ts).shown =
      performAll directory w () (ts.map (·.frozen fixed)) := by
  induction ts generalizing w memory with
  | nil => rfl
  | cons t more ih =>
      obtain ⟨first, rest⟩ := List.cons.inj same
      have answers : (t.perform memory).answer = (t.perform fixed).answer := first
      rw [List.map_cons, performAll, performAll, Task.perform_frozen, answers]
      -- The tasks that follow find what this one remembers; `rest` is about that memory.
      dsimp only
      cases (t.perform fixed).answer.outcome with
      | error failure => rfl
      | ok artifacts =>
          dsimp only
          cases (Target.write w directory artifacts).outcome with
          | error failure => rfl
          | ok done =>
              dsimp only
              rw [← ih rest]
              rfl

/-- Plugins run as with a fixed memory, if their tasks answer as with it. -/
theorem generate_frozen {m : Model} {plugins : List (Plugin σ)}
    (same : (replies memory (tasks m plugins)).map (·.answer) =
      (tasks m plugins).map fun t => (t.perform fixed).answer)
    (w : Workspace) (directory : Document) :
    (generate w m directory plugins memory).shown =
      generate w m directory (plugins.map (·.frozen fixed)) () := by
  unfold generate
  split
  · rfl
  · next resolved _ =>
      dsimp only
      split
      · rfl
      · next leftovers _ =>
          dsimp only [runIn]
          rw [tasks_frozen, List.length_map, ← performAll_frozen same]
          rfl

end Frozen

end Generation

namespace BuiltIn

open Generation

/-- A generator that remembers nothing and knows the pools of a model from the start. -/
def knowing (m : Model) (b : BuiltIn) : Plugin Unit :=
  (b.plugin 0).frozen (recalled m)

/-- Without a memory to look into, the instances of a generator are all the same. -/
theorem frozen_plugin (m : Model) (b : BuiltIn) (slot : Nat) :
    (b.plugin slot).frozen (recalled m) = b.knowing m := by
  cases b <;> rfl

theorem generate_knowing (w : Workspace) (m : Model) (directory : Document)
    (instances : List (BuiltIn × Nat)) (memory : PoolMemory) :
    (generate w m directory (pluginsOf instances) memory).shown =
      generate w m directory ((instances.map (·.1)).map (knowing m)) () := by
  rw [generate_frozen (map_answer_replies m instances memory), pluginsOf, List.map_map,
    List.map_map]
  congr 2
  funext i
  exact frozen_plugin m i.1 i.2

/-- A run that has been made, with the instances that took part. -/
structure PastRun where
  workspace : Workspace
  model : Model
  directory : Document
  instances : List (BuiltIn × Nat)

/-- What instances remember after a run. -/
def PastRun.memoryAfter (memory : PoolMemory) (past : PastRun) : PoolMemory :=
  (generate past.workspace past.model past.directory (pluginsOf past.instances) memory).memory

/-- What instances remember after runs that were made one after the other. -/
def memoryOf (history : List PastRun) : PoolMemory :=
  history.foldl PastRun.memoryAfter PoolMemory.none

theorem plugins_eq (generators : List BuiltIn) :
    plugins generators = pluginsOf generators.zipIdx := rfl

/-- After any runs, instances run as if they were new, each by itself or each wherever it stands. -/
theorem generate_history (history : List PastRun) (w : Workspace) (m : Model)
    (directory : Document) (instances : List (BuiltIn × Nat)) :
    let run := generate w m directory (pluginsOf instances) (memoryOf history)
    run.shown = (generate w m directory (pluginsOf instances) PoolMemory.none).shown ∧
      run.shown =
        (generate w m directory (plugins (instances.map (·.1))) PoolMemory.none).shown := by
  intro run
  have reused := generate_knowing w m directory instances (memoryOf history)
  have fresh := generate_knowing w m directory instances PoolMemory.none
  have apart := generate_knowing w m directory (instances.map (·.1)).zipIdx PoolMemory.none
  rw [← plugins_eq, List.zipIdx_map_fst] at apart
  exact ⟨reused.trans fresh.symm, reused.trans apart.symm⟩

end BuiltIn

end EntityScribe
