import EntityScribe.Generation
import EntityScribe.Loading

/-!
# The command line

The settings are loaded first and decide from then on how much of the log is seen. Failures of the
work itself are logged and give an exit code; all others pass through.
-/

namespace EntityScribe.CommandLine

/-- How the work ends, and what it leaves behind either way. -/
structure Finish where
  /-- The exit code, or a failure that is not reported. -/
  outcome : Except Failure Nat
  workspace : Workspace
  /-- Log records from before the settings are known. -/
  early : List LogRecord
  /-- Later log records. -/
  late : List LogRecord
  /-- The level of the settings, once they are known. -/
  level : Option LogLevel

/-- The records that are seen, under a threshold for as long as the settings are not known. -/
def Finish.log (f : Finish) (threshold : LogLevel) : List LogRecord :=
  visible threshold f.early ++ visible (f.level.getD threshold) f.late

def failed (failure : Failure) : LogRecord :=
  ⟨.error, .commandLine, "Error during code generation: " ++ failure.message⟩

def remained (count : Nat) : LogRecord :=
  ⟨.warning, .commandLine,
    toString count ++ " previously generated files could not be removed"⟩

def succeeded (count : Nat) : LogRecord :=
  ⟨.info, .commandLine, "Generated " ++ toString count ++ " files"⟩

/-- A reported failure ends the work with exit code 1. -/
def exitCode (failure : Failure) : Except Failure Nat :=
  if failure.isReported then .ok 1 else .error failure

/-- The log record of a failure, if it is reported. -/
def reports (failure : Failure) : List LogRecord :=
  if failure.isReported then [failed failure] else []

/-- The target directory: the given one, or that of the settings if none or an empty one is
given. -/
def target (settings : Settings) (given : Option String) : String :=
  match given with
  | some directory => if directory = "" then settings.targetDirectory else directory
  | none => settings.targetDirectory

/-- The model and the generators of a run. -/
def prepare (read : DocumentReader) (w : Workspace) (settings : Settings) (modelFile : String) :
    Except Failure (Model × List BuiltIn) := do
  let m ← Model.load read w modelFile
  let builtIns ← settings.builtIns
  return (m, builtIns)

/-- The last log records of a run. -/
def ending (run : Run PoolMemory) : List LogRecord :=
  match run.outcome with
  | .error failure => reports failure
  | .ok artifacts =>
      (if run.diagnostics = [] then [] else [remained run.diagnostics.length]) ++
        [succeeded artifacts.length]

/-- Generates code for the model in a file. -/
def generateCode (read : DocumentReader) (w : Workspace) (modelFile : String)
    (targetDirectory settingsFile : Option String) : Finish :=
  let loaded := Settings.load read w settingsFile
  match loaded.outcome with
  | .error failure => ⟨exitCode failure, w, loaded.log ++ reports failure, [], none⟩
  | .ok settings =>
      match prepare read w settings modelFile with
      | .error failure =>
          ⟨exitCode failure, w, loaded.log, reports failure, some settings.logLevel⟩
      | .ok (m, builtIns) =>
          let run := Generation.generate w m (.text (target settings targetDirectory))
            (BuiltIn.plugins builtIns) PoolMemory.none
          ⟨match run.outcome with
            | .ok _ => .ok 0
            | .error failure => exitCode failure,
            run.workspace, loaded.log, run.log ++ ending run, some settings.logLevel⟩

/-- What a program shows: lines on its two outputs, and how it ends. -/
structure Session where
  finish : Finish
  output : List String
  errors : List String

def usage : String :=
  "Usage: entigen <schema.yaml> [<target_dir>] [<config.yaml>]"

/-- The whole program on its arguments: model file, target directory and settings file. Without any
it shows how it is used. -/
def run (read : DocumentReader) (w : Workspace) (arguments : List String) : Session :=
  match arguments with
  | [] => ⟨⟨.ok 1, w, [], [], none⟩, [usage], []⟩
  | modelFile :: rest =>
      let finish := generateCode read w modelFile rest[0]? rest[1]?
      ⟨finish, [], (finish.log .info).map LogRecord.line⟩

end EntityScribe.CommandLine
