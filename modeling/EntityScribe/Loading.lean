import EntityScribe.Settings

/-!
# Models and settings from files

The bytes of a file are read by a reader of documents, which is a parameter here. A file that the
system refuses and a text that is not well formed are reported as faults of the model or of the
configuration; what else can go wrong with text or values passes through.
-/

namespace EntityScribe

/-- A way to read the bytes of a text as a document. -/
abbrev DocumentReader := ByteArray → Except Yaml.Problem Document

/-- The model in a file. -/
def Model.load (read : DocumentReader) (w : Workspace) (path : String) : Except Failure Model :=
  match w.readBytes path with
  | .error e =>
      if e.isSystem then .error (.model (some path) (.unreadable e)) else .error (.file e)
  | .ok bytes =>
      match read bytes with
      | .error problem => .error (.ofProblem (.model (some path) .malformed) problem)
      | .ok d => (Model.ofDocument d).mapError (.ofModelFault (some path))

namespace Settings

/-- The file that settings are read from if no other is named. -/
def standardFile : Path := Path.ofString "entigen.yaml"

/-- Settings, or why there are none, and what was logged on the way. -/
structure Loaded where
  outcome : Except Failure Settings
  log : List LogRecord

def notFound (path : Path) : LogRecord :=
  ⟨.warning, .settings, "Configuration file " ++ path.text ++ " not found. Using defaults."⟩

/-- The settings in a document from a file; a void document has none. -/
def ofFileDocument (path : Path) (d : Document) : Except Failure Settings :=
  match (Document.orElse (some d) (.map [])).entries? with
  | some entries =>
      if hasTextKeys entries then
        (ofEntries entries).mapError fun cause => .configuration (.invalidSettings path.text cause)
      else .error (.misuse .unsuitable)
  | none => .error (.configuration (.notMapping path.text))

/-- The settings in a file that is there. -/
def readFile (read : DocumentReader) (w : Workspace) (path : Path) : Except Failure Settings :=
  match w.readBytes path.text with
  | .error e =>
      if e.isSystem then .error (.configuration (.unreadable path.text e)) else .error (.file e)
  | .ok bytes =>
      match read bytes with
      | .error problem => .error (.ofProblem (.configuration (.malformed path.text)) problem)
      | .ok d => ofFileDocument path d

/-- The settings in the named file, or in the standard one. Without the file there are defaults. -/
def load (read : DocumentReader) (w : Workspace) (file : Option String) : Loaded :=
  let path :=
    match file with
    | some name => if name = "" then standardFile else Path.ofString name
    | none => standardFile
  match w.isPresent path.text with
  | .error e => ⟨.error (.file e), []⟩
  | .ok false => ⟨.ok default, [notFound path]⟩
  | .ok true => ⟨readFile read w path, []⟩

end Settings

end EntityScribe
