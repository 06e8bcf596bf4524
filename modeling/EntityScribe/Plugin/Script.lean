import EntityScribe.Plugin

/-!
# Scripted plugins

A plugin whose answers are written down in advance: for every phase that it takes part in, the
artifacts that it gives or the reason for which it gives up.
-/

namespace EntityScribe

structure Script where
  className : String
  /-- Whether the plugin has a name even if it takes part in no phase. -/
  isNamed : Bool
  phases : List Phase
  /-- Names and contents of artifacts. -/
  outputs : List (Phase × List (Document × Document))
  failures : List (Phase × String)

namespace Script

def answer (s : Script) (phase : Phase) : Answer :=
  match s.failures.lookup phase with
  | some reason => ⟨.error (.plugin reason), []⟩
  | none =>
      ⟨((s.outputs.lookup phase).getD []).mapM fun (name, content) =>
        Artifact.ofValues s.className name content, []⟩

/-- The handler for a phase, which leaves the memory as it is. -/
def handler? (s : Script) (phase : Phase) {α σ : Type} : Option (Handler α σ) :=
  if s.phases.contains phase then some fun _ memory => ⟨s.answer phase, memory⟩ else none

def plugin (s : Script) {σ : Type} : Plugin σ where
  className := s.className
  name := if s.isNamed || s.phases != [] then some s.className else none
  onPools := s.handler? .pools
  onComponents := s.handler? .components
  onBlueprints := s.handler? .blueprints

end Script

end EntityScribe
