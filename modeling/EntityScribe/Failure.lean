import EntityScribe.Configuration
import EntityScribe.Model.Schema
import EntityScribe.Yaml.Problem

/-!
# Failures

Everything that can end a piece of work before its result. Three of the causes belong to the work
itself and are reported to the user: a fault of the configuration, a fault of the model, and a file
that cannot be written. All others pass through unreported.
-/

namespace EntityScribe

/-- A value of a kind that an operation has no use for. -/
inductive Misuse where
  /-- The operation cannot be carried out on the value. -/
  | unsuitable
  /-- Values of this kind do not have the operation. -/
  | unsupported
  deriving DecidableEq, Repr

/-- Why a model could not be had. -/
inductive ModelError where
  | fault (fault : ModelFault)
  | unreadable (cause : FileError)
  /-- The file of the model is not well formed. -/
  | malformed

namespace ModelError

def message : ModelError → String
  | fault f => f.message
  | unreadable cause => "could not read schema: " ++ cause.message
  | malformed => "invalid YAML: <yaml error>"

def invalid? : ModelError → Option Invalid
  | fault f => f.invalid?
  | _ => none

end ModelError

inductive Failure where
  | configuration (fault : ConfigurationFault)
  /-- A model that could not be had, with the file that it was to come from. -/
  | model (source : Option String) (error : ModelError)
  | unwritable (path : String) (cause : FileError)
  | invalid (record : Invalid)
  /-- A plugin gives up and says why. -/
  | plugin (reason : String)
  | noTemplate (name : String) (available : List String)
  /-- Nothing is known under the name. -/
  | unknown (name : String)
  | misuse (misuse : Misuse)
  /-- An expression uses a value that it was not given. -/
  | undefined (name : String)
  | file (error : FileError)
  | value (fault : Yaml.ValueFault)
  /-- Lists and mappings stand too deep inside one another. -/
  | tooDeep
  /-- An integer with too many digits is to be written. -/
  | longInteger

namespace Failure

/-- The text of a failure. -/
def message : Failure → String
  | configuration fault => fault.message
  | model none error => error.message
  | model (some source) error => source ++ ": " ++ error.message
  | unwritable path cause => "Could not write file " ++ path ++ ": " ++ cause.message
  | invalid record => record.message
  | plugin reason => reason
  | noTemplate name available =>
      "Template '" ++ name ++ "' not found, available templates: " ++ ", ".intercalate available
  | unknown name => name
  | misuse _ => "unusable value"
  | undefined name => "'" ++ name ++ "' is undefined"
  | file error => error.message
  | value fault => fault.message
  | tooDeep => "maximum recursion depth exceeded while calling a Python object"
  | longInteger => Unwritable.longInteger.message

/-- The failure for something that cannot be written. -/
def ofUnwritable : Unwritable → Failure
  | .longInteger => longInteger
  | .tooDeep => tooDeep

/-- The failure for a fault of a model; that something cannot be written is none of the model. -/
def ofModelFault (source : Option String) : ModelFault → Failure
  | .unwritable cause => ofUnwritable cause
  | fault => model source (.fault fault)

/-- The failure for a problem with the text of a document, by what it means that the text is not
well formed. -/
def ofProblem (ifMalformed : Failure) : Yaml.Problem → Failure
  | .malformed => ifMalformed
  | .undecodable => file .undecodable
  | .tooDeep => tooDeep
  | .value fault => value fault

/-- The failure for a halt, by what an error of a file means. -/
def ofHalt (ofError : FileError → Failure) (halt : Halt) : Failure :=
  match halt with
  | .failed e => ofError e
  | .tooDeep => tooDeep

/-- Whether the failure belongs to the work itself and is reported to the user. -/
def isReported : Failure → Bool
  | configuration _ => true
  | model _ _ => true
  | unwritable _ _ => true
  | _ => false

/-- The record that could not be built, if that is behind the failure. -/
def invalid? : Failure → Option Invalid
  | configuration fault => fault.invalid?
  | model _ error => error.invalid?
  | invalid record => some record
  | _ => none

end Failure

end EntityScribe
