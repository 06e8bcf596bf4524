import EntityScribe.Plugin
import EntityScribe.Target

/-!
# Generation

A run cleans the target directory and calls the plugins phase by phase, in their order within each
phase. The artifacts of a call are written before the next call, so a failure leaves behind what was
written up to it.
-/

namespace EntityScribe

/-- A call of a handler, with the files as they were at that moment. -/
structure Call where
  /-- The place of the plugin in the list of plugins. -/
  position : Nat
  className : String
  phase : Phase
  /-- The names of what the handler was given. -/
  names : List String
  tree : FileTree

/-- How a run ends, and what it leaves behind either way. -/
structure Run (σ : Type) where
  outcome : Except Failure (List Artifact)
  workspace : Workspace
  memory : σ
  calls : List Call
  log : List LogRecord
  /-- What the cleaning of the target reported. -/
  diagnostics : List Target.Leftover

namespace Generation

variable {σ : Type}

/-- The task of a plugin in a phase, if it takes part. -/
def task? (m : Model) (phase : Phase) (entry : Plugin σ × Nat) : Option (Task σ) :=
  (entry.1.handler? phase m).map fun perform =>
    ⟨entry.2, entry.1.className, phase, m.sliceNames phase, perform⟩

/-- The tasks of a run in their order. -/
def tasks (m : Model) (plugins : List (Plugin σ)) : List (Task σ) :=
  Phase.all.flatMap fun phase => plugins.zipIdx.filterMap (task? m phase)

def callOf (t : Task σ) (w : Workspace) : Call :=
  ⟨t.position, t.className, t.phase, t.names, w.tree⟩

def announcement (t : Task σ) : LogRecord :=
  ⟨.debug, .generation, "Running " ++ t.className ++ " (" ++ t.phase.name ++ ")"⟩

/-- Performs tasks up to the first that fails or whose artifacts cannot all be written. -/
def performAll (directory : String) (w : Workspace) (memory : σ) : List (Task σ) → Run σ
  | [] => ⟨.ok [], w, memory, [], [], []⟩
  | t :: more =>
      let reply := t.perform memory
      let start := announcement t :: reply.answer.log
      match reply.answer.outcome with
      | .error failure => ⟨.error failure, w, reply.memory, [callOf t w], start, []⟩
      | .ok artifacts =>
          let written := Target.write w directory artifacts
          match written.outcome with
          | .error failure =>
              ⟨.error failure, written.workspace, reply.memory, [callOf t w],
                start ++ written.log, []⟩
          | .ok () =>
              let rest := performAll directory written.workspace reply.memory more
              { rest with
                outcome := rest.outcome.map (artifacts ++ ·)
                calls := callOf t w :: rest.calls
                log := start ++ written.log ++ rest.log }

def opening (directory : String) (count : Nat) : LogRecord :=
  ⟨.info, .generation,
    "Generating code in " ++ directory ++ " with " ++ toString count ++ " generators"⟩

def closing (count : Nat) : LogRecord :=
  ⟨.info, .generation, "Code generation complete: " ++ toString count ++ " files"⟩

/-- The part of a run after the cleaning. -/
def runIn (directory : String) (w : Workspace) (memory : σ) (m : Model)
    (plugins : List (Plugin σ)) : Run σ :=
  let run := performAll directory w memory (tasks m plugins)
  let ending :=
    match run.outcome with
    | .ok artifacts => [closing artifacts.length]
    | .error _ => []
  { run with log := opening directory plugins.length :: run.log ++ ending }

/-- Runs plugins on a model and writes what they make into a target directory. -/
def generate (w : Workspace) (m : Model) (directory : Document) (plugins : List (Plugin σ))
    (memory : σ) : Run σ :=
  match Target.resolve directory with
  | .error failure => ⟨.error failure, w, memory, [], [], []⟩
  | .ok resolved =>
      let cleaned := Target.clean w (.text resolved)
      match cleaned.outcome with
      | .error failure => ⟨.error failure, cleaned.workspace, memory, [], cleaned.log, []⟩
      | .ok _ =>
          let run := runIn resolved cleaned.workspace memory m plugins
          { run with
            log := cleaned.log ++ run.log
            diagnostics := cleaned.diagnostics }

end Generation

end EntityScribe
