import EntityScribe.FileTree
import EntityScribe.Path
import EntityScribe.Text.Lines
import EntityScribe.Text.Quoted

/-!
# Workspaces

A workspace is a file tree, the directory that relative paths start from, and what of its
surroundings shows: the files that cannot be deleted and the line end of the platform. A path is
followed segment by segment. Every segment needs a directory to stand in; an empty segment and `.`
stay there, `..` goes up, and any other is the name of something that must exist.
-/

namespace EntityScribe

/-- Why the system refuses a request. -/
inductive Refusal where
  | absent
  | present
  | notDirectory
  | isDirectory
  | nameTooLong
  deriving DecidableEq, Repr

namespace Refusal

def number : Refusal → Nat
  | absent => 2
  | present => 17
  | notDirectory => 20
  | isDirectory => 21
  | nameTooLong => 36

def text : Refusal → String
  | absent => "No such file or directory"
  | present => "File exists"
  | notDirectory => "Not a directory"
  | isDirectory => "Is a directory"
  | nameTooLong => "File name too long"

end Refusal

/-- Why a request about a file fails. -/
inductive FileError where
  /-- The system refuses the request for a path. -/
  | refused (why : Refusal) (path : String)
  /-- The file cannot be deleted. -/
  | locked
  /-- The path holds a null character and never reaches the system. -/
  | nullInPath
  /-- The content is no text. -/
  | undecodable
  deriving DecidableEq, Repr

namespace FileError

def message : FileError → String
  | refused why path =>
      "[Errno " ++ toString why.number ++ "] " ++ why.text ++ ": " ++ Text.quoted path
  | locked => "locked"
  | nullInPath => "embedded null byte"
  | undecodable => "undecodable"

/-- Whether the system itself gave the error. -/
def isSystem : FileError → Bool
  | refused _ _ => true
  | locked => true
  | nullInPath => false
  | undecodable => false

end FileError

/-- Why work that goes through directories comes to a halt. -/
inductive Halt where
  | failed (e : FileError)
  /-- There are more directories one inside the other than there is room for. -/
  | tooDeep
  deriving DecidableEq, Repr

/-- Whether the system itself brought the halt about. -/
def Halt.isSystem : Halt → Bool
  | failed e => e.isSystem
  | tooDeep => false

structure Workspace where
  tree : FileTree
  /-- Where relative paths start. -/
  home : Place
  /-- The files that cannot be deleted. -/
  locked : List Place
  /-- The line end of the platform. -/
  lineEnd : String
  /-- How many directories can be gone through one inside the other. -/
  room : Nat

namespace Workspace

/-- The longest name, in bytes. -/
def longestName : Nat := 255

/-- The least length of a path, in bytes, that is refused as a whole. -/
def pathLimit : Nat := 4096

/-- The room that a run usually has. Going through directories takes a call for each, and of the
1000 calls that may stand inside one another some are taken already. -/
def usualRoom : Nat := 985

/-- Whether a segment of a path is the name of something, and not a way to stay or to go up. -/
def isName (segment : String) : Bool :=
  segment != "" && segment != "." && segment != ".."

/-- The place that segments lead to. -/
def follow (tree : FileTree) : Place → List String → Except Refusal Place
  | here, [] => .ok here
  | here, segment :: rest =>
      if !tree.isDirectory here then .error .notDirectory
      else if segment = "" ∨ segment = "." then follow tree here rest
      else if segment = ".." then follow tree here.dropLast rest
      else if segment.utf8ByteSize > longestName then .error .nameTooLong
      else if (tree.get? (here ++ [segment])).isNone then .error .absent
      else follow tree (here ++ [segment]) rest

/-- Where the segments of a path start. -/
def origin (w : Workspace) (path : String) : Place :=
  if "/".toList.isPrefixOf path.toList then [] else w.home

/-- The error for a path that is too long as a whole. -/
def overlong? (path : String) : Option FileError :=
  if pathLimit ≤ path.utf8ByteSize then some (.refused .nameTooLong path) else none

/-- Puts a path before the system: a null character stops it, and so do an empty path and one that
is too long as a whole; otherwise its segments are looked at from where they start. -/
def ask {α : Type} (w : Workspace) (path : String)
    (look : Place → List String → Except Refusal α) : Except FileError α :=
  if path.toList.contains '\x00' then .error .nullInPath
  else if path = "" then .error (.refused .absent path)
  else if path.utf8ByteSize ≥ pathLimit then .error (.refused .nameTooLong path)
  else
    match look (w.origin path) (Text.splitAt '/' path) with
    | .ok a => .ok a
    | .error why => .error (.refused why path)

/-- The existing place that a path leads to. -/
def locate (w : Workspace) (path : String) : Except FileError Place :=
  w.ask path (follow w.tree)

/-- The directory that the last segment of a path stands in, and that segment. -/
def lookAbove (tree : FileTree) (start : Place) (segments : List String) :
    Except Refusal (Place × String) :=
  match follow tree start segments.dropLast with
  | .error why => .error why
  | .ok above =>
      if tree.isDirectory above then .ok (above, segments.getLastD "") else .error .notDirectory

/-- Whether something stands at a path. A path that leads nowhere, or holds a null character, is
answered with no; one with a name that is too long is an error. -/
def isPresent (w : Workspace) (path : String) : Except FileError Bool :=
  match w.locate path with
  | .ok _ => .ok true
  | .error (.refused .nameTooLong p) => .error (.refused .nameTooLong p)
  | .error _ => .ok false

/-- Whether a directory stands at a path, with the errors of `isPresent`. -/
def isDirectory (w : Workspace) (path : String) : Except FileError Bool :=
  match w.locate path with
  | .ok place => .ok (w.tree.isDirectory place)
  | .error (.refused .nameTooLong p) => .error (.refused .nameTooLong p)
  | .error _ => .ok false

/-- The place where a new directory goes. -/
def placeForDirectory (tree : FileTree) (start : Place) (segments : List String) :
    Except Refusal Place :=
  match lookAbove tree start segments with
  | .error why => .error why
  | .ok (above, name) =>
      if !isName name then .error .present
      else if name.utf8ByteSize > longestName then .error .nameTooLong
      else if (tree.get? (above ++ [name])).isSome then .error .present
      else .ok (above ++ [name])

/-- Makes one directory, in a directory that exists. -/
def makeDirectory (w : Workspace) (path : String) : Except FileError Workspace :=
  match w.ask path (placeForDirectory w.tree) with
  | .error e => .error e
  | .ok place => .ok { w with tree := w.tree.put place .directory }

/-- An error on making a directory is passed over if the directory is there. -/
def tolerate (w : Workspace) (path : Path) (e : FileError) : Except Halt Unit :=
  if e.isSystem then
    match w.isDirectory path.text with
    | .ok true => .ok ()
    | .ok false => .error (.failed e)
    | .error e' => .error (.failed e')
  else .error (.failed e)

/-- Makes a directory unless it is there, in a directory that exists. -/
def ensureDirectory (w : Workspace) (path : Path) : Except Halt Unit × Workspace :=
  match w.makeDirectory path.text with
  | .ok made => (.ok (), made)
  | .error (.refused .absent p) => (.error (.failed (.refused .absent p)), w)
  | .error e => (w.tolerate path e, w)

/-- Makes a directory unless it is there, and the missing directories above it first, as far up as
there is room. What has been made stays, also when a later step fails. -/
def makeDirectoriesWithin (room : Nat) (w : Workspace) (path : Path) :
    Except Halt Unit × Workspace :=
  match w.makeDirectory path.text with
  | .ok made => (.ok (), made)
  | .error (.refused .absent p) =>
      if path.segments = [] then (.error (.failed (.refused .absent p)), w)
      else
        match room with
        | 0 => (.error .tooDeep, w)
        | room + 1 =>
            match makeDirectoriesWithin room w path.parent with
            | (.error halt, w') => (.error halt, w')
            | (.ok (), w') => w'.ensureDirectory path
  | .error e => (w.tolerate path e, w)

/-- Makes the directories of a path in all the room that there is. -/
def makeDirectories (w : Workspace) (path : Path) : Except Halt Unit × Workspace :=
  w.makeDirectoriesWithin w.room path

/-- The place where a file is written. -/
def placeForFile (tree : FileTree) (start : Place) (segments : List String) :
    Except Refusal Place :=
  match lookAbove tree start segments with
  | .error why => .error why
  | .ok (above, name) =>
      if !isName name then .error .isDirectory
      else if name.utf8ByteSize > longestName then .error .nameTooLong
      else if tree.isDirectory (above ++ [name]) then .error .isDirectory
      else .ok (above ++ [name])

/-- Writes a file in a directory that exists; a file that is there is overwritten. -/
def writeFile (w : Workspace) (path content : String) : Except FileError Workspace :=
  match w.ask path (placeForFile w.tree) with
  | .error e => .error e
  | .ok place => .ok { w with tree := w.tree.put place (.file content.toUTF8) }

/-- The bytes of a file. -/
def readBytes (w : Workspace) (path : String) : Except FileError ByteArray :=
  match w.locate path with
  | .error e => .error e
  | .ok place =>
      match w.tree.get? place with
      | some (.file content) => .ok content
      | _ => .error (.refused .isDirectory path)

/-- The text of a file, with every line end a line feed. -/
def readText (w : Workspace) (path : String) : Except FileError String :=
  match w.readBytes path with
  | .error e => .error e
  | .ok content =>
      match String.fromUTF8? content with
      | some s => .ok (String.ofList (Text.unifyLineEnds s.toList))
      | none => .error .undecodable

/-- The names in a directory. -/
def namesIn (w : Workspace) (path : String) : Except FileError (List String) :=
  match w.locate path with
  | .error e => .error e
  | .ok place =>
      if w.tree.isDirectory place then .ok (w.tree.names place)
      else .error (.refused .notDirectory path)

/-- Deletes the file at a place, unless it is locked. -/
def delete (w : Workspace) (place : Place) : Except FileError Workspace :=
  if w.locked.contains place then .error .locked
  else .ok { w with tree := w.tree.erase place }

/-- The path from home to a place below it, with a separator after a directory. -/
def shownPath (place : Place) (e : Entry) : String :=
  "/".intercalate place ++ (if e.isFile then "" else "/")

/-- Everything below home, by the texts of the paths. -/
def inOrder (w : Workspace) : List (String × Entry) :=
  sortBy (fun a b => !decide (b.1 < a.1))
    ((w.tree.below w.home).map fun (place, e) => (shownPath place e, e))

/-- The paths of everything below home. -/
def listing (w : Workspace) : List String :=
  w.inOrder.map (·.1)

/-- The files below home with their contents. -/
def files (w : Workspace) : List (String × ByteArray) :=
  w.inOrder.filterMap fun (path, e) =>
    match e with
    | .file content => some (path, content)
    | .directory => none

/-- An empty home in an empty tree. -/
def empty (home : Place) (locked : List Place) (lineEnd : String) : Workspace :=
  ⟨FileTree.empty.putDirectories home, home, locked, lineEnd, usualRoom⟩

/-- The place that a path names, whether or not something stands there. -/
def placeOf (w : Workspace) (path : String) : Place :=
  (Path.ofString path).segments.foldl
    (fun here segment => if segment = ".." then here.dropLast else here ++ [segment])
    (w.origin path)

/-- The workspace with a file put in, and the directories that lead to it. -/
def withFile (w : Workspace) (path : String) (content : ByteArray) : Workspace :=
  { w with tree := w.tree.putFile (w.placeOf path) content }

/-- The workspace with a directory put in, and the directories that lead to it. -/
def withDirectory (w : Workspace) (path : String) : Workspace :=
  { w with tree := w.tree.putDirectories (w.placeOf path) }

/-- The workspace with locks on the files at the given paths. -/
def withLocks (w : Workspace) (paths : List String) : Workspace :=
  { w with locked := w.locked ++ paths.map w.placeOf }

end Workspace

end EntityScribe
