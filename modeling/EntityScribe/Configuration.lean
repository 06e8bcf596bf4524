import EntityScribe.Text.Quoted
import EntityScribe.Document.Text
import EntityScribe.Validation
import EntityScribe.Workspace

/-!
# Faults of the configuration

What can be wrong with the target directory, with the file of settings and with the list of
generators. Most faults belong to one setting.
-/

namespace EntityScribe

inductive Setting where
  | targetDirectory
  | codeGenerators
  deriving DecidableEq, Repr

def Setting.name : Setting → String
  | targetDirectory => "target_directory"
  | codeGenerators => "code_generators"

inductive ConfigurationFault where
  | emptyTarget
  | targetNotDirectory (path : String)
  | targetNotMade (path : String) (cause : FileError)
  | unreadable (path : String) (cause : FileError)
  /-- The file of settings is not well formed. -/
  | malformed (path : String)
  | notMapping (path : String)
  | invalidSettings (path : String) (cause : Invalid)
  | unknownGenerators (names valid : List String)
  deriving DecidableEq, Repr

namespace ConfigurationFault

def message : ConfigurationFault → String
  | emptyTarget => "Target directory must not be empty"
  | targetNotDirectory path => "Target directory " ++ path ++ " exists and is not a directory"
  | targetNotMade path cause =>
      "Could not create target directory " ++ path ++ ": " ++ cause.message
  | unreadable path cause => "Could not read configuration file " ++ path ++ ": " ++ cause.message
  | malformed path => "Could not read configuration file " ++ path ++ ": <yaml error>"
  | notMapping path => "Configuration file " ++ path ++ " must contain a mapping"
  | invalidSettings path cause => "Invalid configuration in " ++ path ++ ": " ++ cause.message
  | unknownGenerators names valid =>
      "Unknown code generators: " ++ quotedList names ++ ". Valid generators are: " ++
        ", ".intercalate valid

/-- The setting that a fault belongs to. -/
def setting? : ConfigurationFault → Option Setting
  | emptyTarget => some .targetDirectory
  | targetNotDirectory _ => some .targetDirectory
  | targetNotMade _ _ => some .targetDirectory
  | unreadable _ _ => none
  | malformed _ => none
  | notMapping _ => none
  | invalidSettings _ _ => none
  | unknownGenerators _ _ => some .codeGenerators

/-- The record that could not be built, if that is the fault. -/
def invalid? : ConfigurationFault → Option Invalid
  | invalidSettings _ cause => some cause
  | _ => none

end ConfigurationFault

end EntityScribe
