import EntityScribe.BuiltIn
import EntityScribe.Proofs.Persistence
import Mathlib.Data.List.Basic

/-!
# What built-in generators give

The memory that tasks share satisfies an invariant at every task if each task keeps it. For lists of
built-in generators the invariant is that the pools are remembered wherever they are asked for. So
every generator answers as if it had known them from the start, and in the phase of its own it gives
what it makes of the model alone.
-/

namespace EntityScribe

namespace Generation

section Memory

variable {σ : Type} {memory : σ} {ts : List (Task σ)} {P : σ → Prop}

/-- The memory that tasks leave behind. -/
def memoryAfter (memory : σ) (ts : List (Task σ)) : σ :=
  ts.foldl (fun s t => (t.perform s).memory) memory

theorem replies_append (memory : σ) (first second : List (Task σ)) :
    replies memory (first ++ second) =
      replies memory first ++ replies (memoryAfter memory first) second := by
  induction first generalizing memory with
  | nil => rfl
  | cons t more ih => rw [List.cons_append, replies, ih, replies, List.cons_append]; rfl

/-- Tasks that answer as with some fixed memory while an invariant holds all do so if each of them
keeps it. -/
theorem map_answer_of_keeps {fixed : σ} (start : P memory)
    (keeps : ∀ t ∈ ts, ∀ s, P s → P (t.perform s).memory)
    (same : ∀ t ∈ ts, ∀ s, P s → (t.perform s).answer = (t.perform fixed).answer) :
    (replies memory ts).map (·.answer) = ts.map fun t => (t.perform fixed).answer := by
  induction ts generalizing memory with
  | nil => rfl
  | cons t more ih =>
      obtain ⟨keepsFirst, keepsRest⟩ := List.forall_mem_cons.mp keeps
      obtain ⟨sameFirst, sameRest⟩ := List.forall_mem_cons.mp same
      rw [replies, List.map_cons, List.map_cons, sameFirst memory start,
        ih (keepsFirst memory start) keepsRest sameRest]

theorem given_eq (rs : List (Reply σ)) :
    given rs = (rs.map (·.answer)).flatMap Answer.batch := by
  rw [given, List.flatMap_map]
  rfl

theorem memoryAfter_of_keeps (start : P memory)
    (keeps : ∀ t ∈ ts, ∀ s, P s → P (t.perform s).memory) : P (memoryAfter memory ts) := by
  induction ts generalizing memory with
  | nil => exact start
  | cons t more ih =>
      obtain ⟨keepsFirst, keepsRest⟩ := List.forall_mem_cons.mp keeps
      exact ih (keepsFirst memory start) keepsRest

/-- What one task brings about and all others keep holds in the end. -/
theorem memoryAfter_of_sets {t : Task σ} (member : t ∈ ts) (sets : ∀ s, P (t.perform s).memory)
    (keeps : ∀ t ∈ ts, ∀ s, P s → P (t.perform s).memory) : P (memoryAfter memory ts) := by
  induction ts generalizing memory with
  | nil => cases member
  | cons u more ih =>
      obtain ⟨_, keepsRest⟩ := List.forall_mem_cons.mp keeps
      rcases List.mem_cons.mp member with rfl | later
      · have rest : P (memoryAfter (t.perform memory).memory more) :=
          memoryAfter_of_keeps (sets memory) keepsRest
        exact rest
      · exact ih later keepsRest

/-- The tasks of one phase. -/
def phaseTasks (m : Model) (plugins : List (Plugin σ)) (phase : Phase) : List (Task σ) :=
  plugins.zipIdx.filterMap (task? m phase)

theorem tasks_eq (m : Model) (plugins : List (Plugin σ)) :
    tasks m plugins = phaseTasks m plugins .pools ++
      (phaseTasks m plugins .components ++ phaseTasks m plugins .blueprints) := by
  rw [tasks, Phase.all, List.flatMap_cons, List.flatMap_cons, List.flatMap_cons, List.flatMap_nil,
    List.append_nil]
  rfl

theorem handler?_of_mem_phaseTasks {m : Model} {plugins : List (Plugin σ)} {phase : Phase}
    {t : Task σ} (member : t ∈ phaseTasks m plugins phase) :
    ∃ p ∈ plugins, p.handler? phase m = some t.perform := by
  obtain ⟨⟨p, position⟩, inside, made⟩ := List.mem_filterMap.mp member
  obtain ⟨perform, handler, rfl⟩ := Option.map_eq_some_iff.mp made
  exact ⟨p, List.fst_mem_of_mem_zipIdx inside, handler⟩

theorem exists_mem_phaseTasks {m : Model} {plugins : List (Plugin σ)} {phase : Phase}
    {p : Plugin σ} (member : p ∈ plugins) {perform : σ → Reply σ}
    (handler : p.handler? phase m = some perform) :
    ∃ t ∈ phaseTasks m plugins phase, t.perform = perform := by
  obtain ⟨position, there⟩ := List.mem_iff_getElem?.mp member
  refine ⟨⟨position, p.className, phase, m.sliceNames phase, perform⟩,
    List.mem_filterMap.mpr ⟨(p, position), List.mk_mem_zipIdx_iff_getElem?.mpr there, ?_⟩, rfl⟩
  rw [task?, handler]
  rfl

end Memory

end Generation

namespace BuiltIn

open Generation

/-- The phase in which a generator gives its artifacts. -/
def phase : BuiltIn → Phase
  | poolAttributes => .pools
  | pools => .pools
  | componentIndices => .components
  | componentExtensions => .components
  | blueprints => .blueprints

/-- What a generator makes of a model. -/
def answer (m : Model) : BuiltIn → Answer
  | poolAttributes => PoolAttributes.generate m.pools
  | pools => PoolAccessors.generate m.pools
  | componentIndices => LookupClasses.generate m.pools m.components
  | componentExtensions => Extensions.generate m.components
  | blueprints => BlueprintMethods.generate m.blueprints

/-- The plugins of some instances, each a generator with the slot of its memory. An instance may
stand in a list more than once. -/
def pluginsOf (instances : List (BuiltIn × Nat)) : List (Plugin PoolMemory) :=
  instances.map fun i => i.1.plugin i.2

/-- The pools are remembered wherever they are asked for. -/
def Remembered (instances : List (BuiltIn × Nat)) (m : Model) (memory : PoolMemory) : Prop :=
  ∀ slot, (componentIndices, slot) ∈ instances → memory slot = m.pools

variable {m : Model} {instances : List (BuiltIn × Nat)} {memory : PoolMemory}

/-- A memory in which the pools are found in every slot. -/
def recalled (m : Model) : PoolMemory := fun _ => m.pools

/-- What a generator gives in a phase. -/
def batchIn (m : Model) (phase : Phase) (b : BuiltIn) : List Artifact :=
  if b.phase = phase then (b.answer m).batch else []

/-- A generator answers as if it had always known the pools, once they are remembered. -/
theorem answer_of_recalls {b : BuiltIn} {slot : Nat} {phase : Phase}
    {perform : PoolMemory → Reply PoolMemory}
    (handler : (b.plugin slot).handler? phase m = some perform)
    (recalls : phase ≠ .pools → b = componentIndices → memory slot = m.pools) :
    (perform memory).answer = (perform (recalled m)).answer := by
  -- Only the generator for lookup classes reads its memory, and only when it is given components.
  cases b <;> cases phase <;> cases handler <;>
    first
    | rfl
    | exact congrArg (LookupClasses.generate · m.components) (recalls Phase.noConfusion rfl)

/-- The generator for lookup classes gives nothing to the pools that it is told; every other takes
part in the phase of its own only. -/
theorem batch_task? (b : BuiltIn) (slot position : Nat) (m : Model) (phase : Phase) :
    ((task? m phase (b.plugin slot, position)).toList.flatMap fun t =>
      (t.perform (recalled m)).answer.batch) = batchIn m phase b := by
  cases b <;> cases phase <;> first | rfl | exact List.append_nil _

/-- The pool phase remembers the pools of the model, and no others. -/
theorem memory_of_pools {b : BuiltIn} {slot : Nat} {perform : PoolMemory → Reply PoolMemory}
    (handler : (b.plugin slot).handler? .pools m = some perform) (memory : PoolMemory) :
    (perform memory).memory = memory ∨ (perform memory).memory = memory.store slot m.pools := by
  cases b <;> cases handler <;> first | exact .inl rfl | exact .inr rfl

theorem memory_of_later {b : BuiltIn} {slot : Nat} {phase : Phase}
    {perform : PoolMemory → Reply PoolMemory}
    (handler : (b.plugin slot).handler? phase m = some perform) (later : phase ≠ .pools)
    (memory : PoolMemory) : (perform memory).memory = memory := by
  cases b <;> cases phase <;> cases handler <;> first | rfl | exact absurd rfl later

theorem instance_of_mem_phaseTasks {phase : Phase} {t : Task PoolMemory}
    (member : t ∈ phaseTasks m (pluginsOf instances) phase) :
    ∃ b slot, (b, slot) ∈ instances ∧ (b.plugin slot).handler? phase m = some t.perform := by
  obtain ⟨p, inside, handler⟩ := handler?_of_mem_phaseTasks member
  obtain ⟨⟨b, slot⟩, listed, rfl⟩ := List.mem_map.mp inside
  exact ⟨b, slot, listed, handler⟩

theorem exists_mem_phaseTasks_of_instance {b : BuiltIn} {slot : Nat} {phase : Phase}
    (listed : (b, slot) ∈ instances) {perform : PoolMemory → Reply PoolMemory}
    (handler : (b.plugin slot).handler? phase m = some perform) :
    ∃ t ∈ phaseTasks m (pluginsOf instances) phase, t.perform = perform :=
  exists_mem_phaseTasks (List.mem_map.mpr ⟨(b, slot), listed, rfl⟩) handler

/-- After the pool phase the pools are remembered. -/
theorem remembered_after_pools (m : Model) (instances : List (BuiltIn × Nat))
    (memory : PoolMemory) :
    Remembered instances m (memoryAfter memory (phaseTasks m (pluginsOf instances) .pools)) := by
  intro slot listed
  obtain ⟨t, member, performs⟩ := exists_mem_phaseTasks_of_instance (m := m) listed
    (show (componentIndices.plugin slot).handler? .pools m = some _ from rfl)
  refine memoryAfter_of_sets (P := fun s => s slot = m.pools) member ?_ ?_
  · intro s
    rw [performs]
    exact if_pos rfl
  · intro u inside s remembers
    obtain ⟨b, other, _, handler⟩ := instance_of_mem_phaseTasks inside
    rcases memory_of_pools handler s with same | stored
    · rw [same, remembers]
    · rw [stored, PoolMemory.store]
      split
      · rfl
      · exact remembers

/-- The later phases keep the memory. -/
theorem keeps_of_later {P : PoolMemory → Prop} {phase : Phase} (later : phase ≠ .pools) :
    ∀ t ∈ phaseTasks m (pluginsOf instances) phase, ∀ s, P s → P (t.perform s).memory := by
  intro t member s holds
  obtain ⟨_, _, _, handler⟩ := instance_of_mem_phaseTasks member
  rwa [memory_of_later handler later]

theorem map_answer_phase {phase : Phase}
    (start : phase ≠ .pools → Remembered instances m memory) :
    (replies memory (phaseTasks m (pluginsOf instances) phase)).map (·.answer) =
      (phaseTasks m (pluginsOf instances) phase).map fun t => (t.perform (recalled m)).answer := by
  refine map_answer_of_keeps (P := fun s => phase ≠ .pools → Remembered instances m s) start
    (fun t member s holds later => keeps_of_later later t member s (holds later)) ?_
  intro t member s holds
  obtain ⟨b, slot, listed, handler⟩ := instance_of_mem_phaseTasks member
  refine answer_of_recalls handler fun later isIndices => ?_
  subst isIndices
  exact holds later slot listed

/-- Built-in generators answer as if they had known the pools from the start. -/
theorem map_answer_replies (m : Model) (instances : List (BuiltIn × Nat)) (memory : PoolMemory) :
    (replies memory (tasks m (pluginsOf instances))).map (·.answer) =
      (tasks m (pluginsOf instances)).map fun t => (t.perform (recalled m)).answer := by
  have remembered := remembered_after_pools m instances memory
  have afterwards : Remembered instances m (memoryAfter
      (memoryAfter memory (phaseTasks m (pluginsOf instances) .pools))
      (phaseTasks m (pluginsOf instances) .components)) :=
    memoryAfter_of_keeps remembered (keeps_of_later Phase.noConfusion)
  rw [tasks_eq, replies_append, replies_append]
  simp only [List.map_append]
  rw [map_answer_phase fun later => absurd rfl later, map_answer_phase fun _ => remembered,
    map_answer_phase fun _ => afterwards]

/-- A list of built-in generators gives what each of them makes of the model, phase by phase. -/
theorem given_replies (m : Model) (instances : List (BuiltIn × Nat)) (memory : PoolMemory) :
    given (replies memory (tasks m (pluginsOf instances))) =
      Phase.all.flatMap fun phase => (instances.map (·.1)).flatMap (batchIn m phase) := by
  have inPhase : ∀ phase k, ((pluginsOf instances).zipIdx k).flatMap (fun entry =>
        (task? m phase entry).toList.flatMap fun t => (t.perform (recalled m)).answer.batch) =
      (instances.map (·.1)).flatMap (batchIn m phase) := by
    intro phase k
    induction instances generalizing k with
    | nil => rfl
    | cons i rest ih =>
        rw [pluginsOf, List.map_cons, List.zipIdx_cons, List.flatMap_cons, List.map_cons,
          List.flatMap_cons, batch_task?, ← pluginsOf, ih]
  rw [given_eq, map_answer_replies, tasks, List.map_flatMap, List.flatMap_assoc]
  refine congrArg Phase.all.flatMap (funext fun phase => ?_)
  rw [← inPhase phase 0, List.flatMap_map, List.filterMap_eq_flatMap_toList, List.flatMap_assoc]

theorem mem_given_iff {a : Artifact} :
    a ∈ given (replies memory (tasks m (pluginsOf instances))) ↔
      ∃ b slot, (b, slot) ∈ instances ∧ a ∈ (b.answer m).batch := by
  rw [given_replies]
  constructor
  · intro member
    obtain ⟨phase, _, inPhase⟩ := List.mem_flatMap.mp member
    obtain ⟨b, listed, gives⟩ := List.mem_flatMap.mp inPhase
    obtain ⟨⟨_, slot⟩, known, rfl⟩ := List.mem_map.mp listed
    unfold batchIn at gives
    split at gives
    · exact ⟨_, slot, known, gives⟩
    · cases gives
  · rintro ⟨b, slot, known, gives⟩
    refine List.mem_flatMap.mpr ⟨b.phase, ?_, List.mem_flatMap.mpr
      ⟨b, List.mem_map.mpr ⟨_, known, rfl⟩, ?_⟩⟩
    · cases b <;> decide
    · rwa [batchIn, if_pos rfl]

end BuiltIn

end EntityScribe
