import EntityScribe.FileTree

/-!
# Changes of a file tree

What has to be done to one tree to get another: files are deleted, then directories made, the outer
ones first, and then files written.
-/

namespace EntityScribe

structure Change where
  deleted : List Place
  made : List Place
  written : List (Place × ByteArray)

namespace FileTree

def directories (t : FileTree) : List Place :=
  t.entries.filterMap fun (place, e) => if e.isFile then none else some place

def files (t : FileTree) : List (Place × ByteArray) :=
  t.entries.filterMap fun (place, e) =>
    match e with
    | .file content => some (place, content)
    | .directory => none

/-- The change from one tree to another. -/
def changeTo (old new : FileTree) : Change where
  deleted := (old.files.map (·.1)).filter fun place => (new.get? place).isNone
  made := sortBy (fun p q => p.length ≤ q.length)
    (new.directories.filter fun place => (old.get? place).isNone)
  written := new.files.filter fun (place, content) => old.get? place != some (.file content)

end FileTree

end EntityScribe
