import EntityScribe.Artifact
import EntityScribe.Log
import EntityScribe.Newline

/-!
# The target directory

Generated files go into a directory named `Generated`: the one that is given, or the one of that
name in it. The directory belongs to the generator, and before a run all generated files in it are
deleted. Deletion is best effort: what cannot be deleted is reported and stays. But a directory that
cannot be walked through, or a file whose path is too long, ends the cleaning.
-/

namespace EntityScribe.Target

/-- The name of the directory for generated files. -/
def directoryName : String := "Generated"

/-- The characters in front of the separators that end a text. -/
def withoutSeparators (cs : List Char) : List Char :=
  (cs.reverse.dropWhile (· == '/')).reverse

/-- A backslash counts as a separator between segments. -/
def unifySeparators (cs : List Char) : List Char :=
  cs.map fun c => if c = '\\' then '/' else c

/-- The last segment of a path, its last separators left aside. -/
def lastSegment (path : String) : String :=
  let cs := unifySeparators (withoutSeparators path.toList)
  String.ofList ((Text.splitChars '/' cs).getLastD [])

/-- The path with a separator at its end. -/
def closed (path : String) : String :=
  if "/".toList.isSuffixOf path.toList then path else path ++ "/"

/-- The directory for generated files that a path stands for. -/
def complete (path : String) : String :=
  let path := closed path
  if lastSegment path = directoryName then path else path ++ directoryName ++ "/"

/-- Whether bytes are nothing but white space of ASCII. -/
def blankBytes (bytes : List UInt8) : Bool :=
  bytes.all fun byte => byte == 32 || (9 ≤ byte && byte ≤ 13)

/-- The directory for generated files, ending in a separator. Null, like a blank path, is no
directory. -/
def resolve (directory : Document) : Except Failure String :=
  let ofText (path : String) : Except Failure String :=
    if Text.allBlank path then .error (.configuration .emptyTarget) else .ok (complete path)
  match directory with
  | .scalar .null => .error (.configuration .emptyTarget)
  | .scalar (.text path) => ofText path
  | .scalar (.path path) => ofText path
  | .scalar (.bytes bytes) =>
      if blankBytes bytes then .error (.configuration .emptyTarget)
      else .error (.misuse .unsuitable)
  | _ => .error (.misuse .unsuitable)

/-- A generated file of an earlier run that could not be deleted. -/
structure Leftover where
  path : String
  reason : String
  deriving DecidableEq, Repr

/-- Whether an entry is a generated file. -/
def isGenerated (place : Place) (e : Entry) : Bool :=
  e.isFile && Artifact.fileEnding.toList.isSuffixOf (place.getLastD "").toList

/-- The places below another, at any depth and in their order, at which chosen entries stand. -/
def placesBelow (tree : FileTree) (top : Place) (chosen : Place → Entry → Bool) : List Place :=
  sortBy Place.before
    ((tree.below top).filterMap fun (rest, e) => if chosen rest e then some rest else none)

/-- The generated files below a place. -/
def generatedBelow (tree : FileTree) (top : Place) : List Place :=
  placesBelow tree top isGenerated

/-- The directories below a place. -/
def directoriesBelow (tree : FileTree) (top : Place) : List Place :=
  placesBelow tree top fun _ e => !e.isFile

/-- The path to a place below a directory. -/
def pathBelow (path : Path) (rest : Place) : String :=
  (path.append ⟨"", rest⟩).text

/-- What keeps a walk out of a directory below the one that it starts from. -/
def barrier? (room : Nat) (path : Path) (rest : Place) : Option Halt :=
  if room < rest.length then some .tooDeep
  else (Workspace.overlong? (pathBelow path rest)).map .failed

/-- What ends a walk through all directories below a place before its time. -/
def walkHalt? (w : Workspace) (path : Path) (top : Place) : Option Halt :=
  (directoriesBelow w.tree top).findSome? (barrier? w.room path)

/-- What a cleanup leaves behind. -/
structure Cleanup where
  /-- What broke it off. -/
  halt : Option FileError
  workspace : Workspace
  leftovers : List Leftover
  log : List LogRecord

/-- Deletes files below a directory one after the other, and goes on where one cannot be deleted. A
path that is too long to ask for the file breaks it off. -/
def deleteAll (path : Path) (top : Place) (w : Workspace) : List Place → Cleanup
  | [] => ⟨none, w, [], []⟩
  | rest :: more =>
      let file := pathBelow path rest
      match Workspace.overlong? file with
      | some e => ⟨some e, w, [], []⟩
      | none =>
          match w.delete (top ++ rest) with
          | .ok w' => deleteAll path top w' more
          | .error e =>
              let others := deleteAll path top w more
              { others with
                leftovers := ⟨file, e.message⟩ :: others.leftovers
                log := ⟨.warning, .directory,
                  "Could not delete file " ++ file ++ ": " ++ e.message⟩ :: others.log }

/-- How the cleaning of a directory ends, and what it leaves behind either way. -/
structure Cleaned where
  outcome : Except Failure (List Leftover)
  workspace : Workspace
  /-- What is reported to the caller besides the outcome. -/
  diagnostics : List Leftover
  log : List LogRecord

/-- The list that a caller keeps of what could not be deleted, after a cleaning. -/
def Cleaned.collect (cleaned : Cleaned) (known : List Leftover) : List Leftover :=
  known ++ cleaned.diagnostics

/-- A system error on making the target is a fault of the configuration; any other passes
through. -/
def makingFailure (path : Path) (e : FileError) : Failure :=
  if e.isSystem then .configuration (.targetNotMade path.text e) else .file e

/-- Makes a directory that is not there. -/
def create (w : Workspace) (path : Path) : Cleaned :=
  match w.makeDirectories path with
  | (.ok (), w') => ⟨.ok [], w', [], []⟩
  | (.error halt, w') => ⟨.error (.ofHalt (makingFailure path) halt), w', [], []⟩

/-- Deletes the generated files in a directory. All of them are found before the first is
deleted. -/
def sweep (w : Workspace) (path : Path) (top : Place) : Cleaned :=
  match walkHalt? w path top with
  | some halt => ⟨.error (.ofHalt .file halt), w, [], []⟩
  | none =>
      let cleanup := deleteAll path top w (generatedBelow w.tree top)
      match cleanup.halt with
      | some e => ⟨.error (.file e), cleanup.workspace, [], cleanup.log⟩
      | none => ⟨.ok cleanup.leftovers, cleanup.workspace, cleanup.leftovers, cleanup.log⟩

/-- Deletes the generated files in a directory, or makes the directory if nothing is there. A name
that is too long is found out before anything is made. -/
def clean (w : Workspace) (directory : Document) : Cleaned :=
  match resolve directory with
  | .error failure => ⟨.error failure, w, [], []⟩
  | .ok resolved =>
      let path := Path.ofString resolved
      match w.locate path.text with
      | .ok top =>
          if w.tree.isDirectory top then sweep w path top
          else ⟨.error (.configuration (.targetNotDirectory path.text)), w, [], []⟩
      | .error (.refused .nameTooLong p) => ⟨.error (.file (.refused .nameTooLong p)), w, [], []⟩
      | .error _ => create w path

/-- How the writing of files ends, and what it leaves behind either way. -/
structure Written where
  outcome : Except Failure Unit
  workspace : Workspace
  log : List LogRecord

/-- A system error makes the file unwritable; any other passes through. -/
def writeFailure (path : String) (e : FileError) : Failure :=
  if e.isSystem then .unwritable path e else .file e

/-- Writes artifacts one after the other up to the first that cannot be written. -/
def writeEach (directory : String) (w : Workspace) : List Artifact → Written
  | [] => ⟨.ok (), w, []⟩
  | a :: more =>
      let path := a.fileIn directory
      match w.writeFile path (Newline.toPlatform w.lineEnd a.text) with
      | .error e => ⟨.error (writeFailure path e), w, []⟩
      | .ok w' =>
          let rest := writeEach directory w' more
          { rest with log := ⟨.debug, .directory, "Generated " ++ path⟩ :: rest.log }

/-- Writes artifacts into a directory, which is made if it is not there. -/
def write (w : Workspace) (directory : String) (artifacts : List Artifact) : Written :=
  match w.makeDirectories (Path.ofString directory) with
  | (.error halt, w') => ⟨.error (.ofHalt (writeFailure directory) halt), w', []⟩
  | (.ok (), w') => writeEach directory w' artifacts

end EntityScribe.Target
