import EntityScribe.Text.Split

/-!
# Paths

A path in normal form: repeated separators and segments that stay where they are have been taken
out. Segments that go up are kept, since what they mean depends on the file system.
-/

namespace EntityScribe

structure Path where
  /-- The separators in front of an absolute path: none, one, or exactly two. -/
  root : String
  segments : List String
  deriving DecidableEq, Repr

namespace Path

/-- Whether a segment leads anywhere. -/
def moves (segment : String) : Bool :=
  segment != "" && segment != "."

def rootOf (cs : List Char) : String :=
  match (cs.takeWhile (· == '/')).length with
  | 0 => ""
  | 2 => "//"
  | _ => "/"

def ofString (s : String) : Path :=
  ⟨rootOf s.toList, (Text.splitAt '/' s).filter moves⟩

/-- The path as it is shown and as the system is asked for it. -/
def text (p : Path) : String :=
  if p.root = "" ∧ p.segments = [] then "." else p.root ++ "/".intercalate p.segments

/-- The path without its last segment; a path without segments is its own parent. -/
def parent (p : Path) : Path :=
  { p with segments := p.segments.dropLast }

def child (p : Path) (segment : String) : Path :=
  { p with segments := p.segments ++ [segment] }

/-- The path continued by another; an absolute path takes its place. -/
def append (p q : Path) : Path :=
  if q.root = "" then { p with segments := p.segments ++ q.segments } else q

end Path

end EntityScribe
