import EntityScribe.BuiltIn
import EntityScribe.Text.LetterCase

/-!
# Settings

Where generated code goes, which generators make it, and how much is logged. Every setting has a
default, settings with other names are passed over, and all settings are checked before the first
complaint is made known.
-/

namespace EntityScribe

structure Settings where
  targetDirectory : String
  generators : List String
  logLevel : LogLevel
  deriving DecidableEq, Repr

namespace Settings

def default : Settings :=
  ⟨"Assets/Sources", BuiltIn.names, .info⟩

def logLevelKey : String := "log_level"

/-- A setting that may be missing: its value and the complaints about it. -/
structure Checked (α : Type) where
  value : α
  complaints : List Complaint

def checkTarget : Option Document → Checked String
  | none => ⟨default.targetDirectory, []⟩
  | some d =>
      match d.recordText? with
      | some s =>
          if Text.allBlank s then
            ⟨s, [⟨[.part Setting.targetDirectory.name],
              .rejected "target_directory must not be empty"⟩]⟩
          else ⟨s, []⟩
      | none => ⟨"", [⟨[.part Setting.targetDirectory.name], .notText⟩]⟩

/-- The complaint about an item that is no text. -/
def itemComplaint? (entry : Document × Nat) : Option Complaint :=
  match entry.1.recordText? with
  | some _ => none
  | none => some ⟨[.part Setting.codeGenerators.name, .item entry.2], .notText⟩

def checkGenerators : Option Document → Checked (List String)
  | none => ⟨default.generators, []⟩
  | some d =>
      match d.items? with
      | some items => ⟨items.filterMap Document.recordText?, items.zipIdx.filterMap itemComplaint?⟩
      | none => ⟨[], [⟨[.part Setting.codeGenerators.name], .notList⟩]⟩

def unknownLevel : Complaint :=
  ⟨[.part logLevelKey],
    .rejected ("log_level must be one of " ++ ", ".intercalate (LogLevel.all.map LogLevel.name))⟩

/-- Levels are named without regard to letter case. -/
def checkLevel : Option Document → Checked LogLevel
  | none => ⟨default.logLevel, []⟩
  | some d =>
      match d.recordText? with
      | some s =>
          match LogLevel.ofName? (Text.lowerAll s) with
          | some level => ⟨level, []⟩
          | none => ⟨default.logLevel, [unknownLevel]⟩
      | none => ⟨default.logLevel, [⟨[.part logLevelKey], .notText⟩]⟩

/-- The settings in a mapping. -/
def ofEntries (entries : Entries Document) : Except Invalid Settings :=
  let target := checkTarget (entries.get? Setting.targetDirectory.name)
  let generators := checkGenerators (entries.get? Setting.codeGenerators.name)
  let level := checkLevel (entries.get? logLevelKey)
  match target.complaints ++ generators.complaints ++ level.complaints with
  | [] => .ok ⟨target.value, generators.value, level.value⟩
  | complaints => .error ⟨.settings, complaints⟩

/-- Whether all keys of a mapping are texts. -/
def hasTextKeys (entries : Entries Document) : Bool :=
  entries.all fun (key, _) =>
    match key with
    | .text _ => true
    | _ => false

/-- The settings in a document, which must be a mapping from texts. -/
def ofDocument (d : Document) : Except Failure Settings :=
  match d.entries? with
  | some entries =>
      if hasTextKeys entries then (ofEntries entries).mapError Failure.invalid
      else .error (.misuse .unsuitable)
  | none => .error (.misuse .unsuitable)

/-- The generators that the settings name, in their order. -/
def builtIns (s : Settings) : Except Failure (List BuiltIn) :=
  match s.generators.filter (fun name => (BuiltIn.ofName? name).isNone) with
  | [] => .ok (s.generators.filterMap BuiltIn.ofName?)
  | unknown => .error (.configuration (.unknownGenerators unknown BuiltIn.names))

end Settings

end EntityScribe
