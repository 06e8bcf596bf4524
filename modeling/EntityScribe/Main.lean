import EntityScribe.CommandLine
import EntityScribe.FileTree.Change
import EntityScribe.Yaml

/-!
# The program

The parts of the file system that a run can touch are read into a workspace; the run itself is a
function of it, and what it changes is then done to the file system.
-/

namespace EntityScribe.Program

def pathOf (place : Place) : String :=
  "/" ++ "/".intercalate place

/-- Adds what stands at one place to a tree. -/
def look (tree : FileTree) (place : Place) : IO FileTree := do
  if (tree.get? place).isSome then return tree
  try
    let path ← IO.FS.realPath (pathOf place)
    if ← path.isDir then return tree.put place .directory
    else if ← path.pathExists then return tree.put place (.file (← IO.FS.readBinFile path))
    else return tree
  catch _ => return tree

/-- Adds what stands on the way to a place and at it. -/
def survey (tree : FileTree) (place : Place) : IO FileTree :=
  (List.range place.length).foldlM (fun tree n => look tree (place.take (n + 1))) tree

/-- Adds everything below a directory. Links to directories are not followed. -/
partial def surveyBelow (tree : FileTree) (place : Place) : IO FileTree := do
  let mut tree := tree
  if tree.isDirectory place then
    for entry in ← (← IO.FS.realPath (pathOf place)).readDir do
      let inner := place ++ [entry.fileName]
      if (← entry.path.symlinkMetadata).type == .dir then
        tree ← surveyBelow (tree.put inner .directory) inner
      else
        tree ← look tree inner
  return tree

/-- The directory that the program is started in. -/
def homePlace : IO Place := do
  return (← IO.FS.realPath ".").components.filter (· != "")

/-- The workspace with what stands at a path. -/
def withPath (w : Workspace) (path : String) : IO Workspace := do
  return { w with tree := ← survey w.tree (w.placeOf path) }

/-- The workspace with all that stands in the target directory of a run. -/
def includeTarget (w : Workspace) (given : Option String) (settings : Settings) : IO Workspace := do
  match Target.resolve (.text (CommandLine.target settings given)) with
  | .error _ => return w
  | .ok directory =>
      let w ← withPath w directory
      return { w with tree := ← surveyBelow w.tree (w.placeOf directory) }

/-- The workspace that a run on some arguments needs. -/
def gather (arguments : List String) : IO Workspace := do
  let home ← homePlace
  let w : Workspace := ⟨← survey FileTree.empty home, home, [], "\n",
    Workspace.usualRoom⟩
  match arguments with
  | [] => return w
  | modelFile :: rest =>
      let w ← withPath w modelFile
      let w ← withPath w (rest[1]?.getD "")
      let w ← withPath w Settings.standardFile.text
      match (Settings.load Yaml.read w rest[1]?).outcome with
      | .ok settings => includeTarget w rest[0]? settings
      | .error _ => return w

/-- Deletes files, and gives those that cannot be deleted. -/
def deleteFiles (places : List Place) : IO (List Place) :=
  places.filterM fun place => do
    try
      IO.FS.removeFile (pathOf place)
      return false
    catch _ => return true

/-- Makes directories and writes files. -/
def perform (change : Change) : IO Unit := do
  for place in change.made do
    IO.FS.createDir (pathOf place)
  for (place, content) in change.written do
    IO.FS.writeBinFile (pathOf place) content

/-- Shows what a run shows, and gives its exit code. -/
def conclude (session : CommandLine.Session) : IO UInt32 := do
  session.output.forM fun line => IO.println line
  session.errors.forM fun line => IO.eprintln line
  match session.finish.outcome with
  | .ok code => return UInt32.ofNat code
  | .error failure =>
      IO.eprintln failure.message
      return 1

/-- Runs the program. If files turn out to be locked, the run is done again with that knowledge. -/
def run (arguments : List String) : IO UInt32 := do
  let w ← gather arguments
  let attempt := CommandLine.run Yaml.read w arguments
  let stuck ← deleteFiles (w.tree.changeTo attempt.finish.workspace.tree).deleted
  let session := if stuck = [] then attempt
    else CommandLine.run Yaml.read { w with locked := stuck } arguments
  perform (w.tree.changeTo session.finish.workspace.tree)
  conclude session

end EntityScribe.Program

def main (arguments : List String) : IO UInt32 :=
  EntityScribe.Program.run arguments
