import EntityScribe.Document.Scalar

/-!
# Graphs of values

Lists and mappings whose parts may be shared, and may even lead back to where they are part of. They
stand in the numbered cells of a graph, and a part names its cell. A walk through the parts of a
cell ends wherever it comes to a cell that it is inside of.
-/

namespace EntityScribe

/-- What a list or a mapping in a graph holds. -/
inductive Part where
  | scalar (s : Scalar)
  /-- The list or mapping in a cell. -/
  | cell (index : Nat)

inductive Cell where
  | list (items : List Part)
  | map (entries : Entries Part)

namespace Cell

def isEmpty : Cell → Bool
  | list items => items.isEmpty
  | map entries => entries.isEmpty

end Cell

structure Graph where
  cells : Array Cell

/-- What a walk through a graph makes of all that it meets. -/
structure Walk (α : Type) where
  scalar : Scalar → α
  list : List α → α
  map : Entries α → α
  /-- A list or a mapping inside itself. -/
  enclosing : Cell → α
  /-- A part without a cell. -/
  nothing : α

namespace Graph

variable {α : Type}

/-- A walk from a part on, inside some cells. The limit bounds their number. -/
def walkPart (g : Graph) (w : Walk α) : Nat → List Nat → Part → α
  | _, _, .scalar s => w.scalar s
  | 0, _, .cell _ => w.nothing
  | limit + 1, inside, .cell index =>
      match g.cells[index]? with
      | none => w.nothing
      | some cell =>
          if inside.contains index then w.enclosing cell
          else
            match cell with
            | .list items => w.list (items.map (walkPart g w limit (index :: inside)))
            | .map entries =>
                w.map (entries.map fun (key, part) =>
                  (key, walkPart g w limit (index :: inside) part))

/-- A walk from a cell on. A walk cannot be inside more cells than there are, so the limit is not
reached. -/
def walk (g : Graph) (w : Walk α) (index : Nat) : α :=
  walkPart g w (g.cells.size + 1) [] (.cell index)

end Graph

end EntityScribe
