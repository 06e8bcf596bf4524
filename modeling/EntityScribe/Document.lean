import EntityScribe.Document.Graph

/-!
# Documents

The values that model and settings files hold: scalars, lists and mappings. Keys of a mapping are
scalars. A document is a tree, or it is what a cell of a graph holds; the items of a list and the
entries of a mapping are to be had from both in the same way.
-/

namespace EntityScribe

inductive Document where
  | scalar (s : Scalar)
  | list (items : List Document)
  | map (entries : List (Scalar × Document))
  /-- What a cell of a graph holds. -/
  | node (graph : Graph) (index : Nat)

namespace Document

def null : Document := .scalar .null

def text (s : String) : Document := .scalar (.text s)

/-- A mapping from pairs in the order in which they were written. -/
def mapping (pairs : List (Scalar × Document)) : Document := .map (Entries.ofPairs pairs)

/-- A part of a graph. -/
def ofPart (g : Graph) : Part → Document
  | .scalar s => .scalar s
  | .cell index => .node g index

/-- The items of a list. -/
def items? : Document → Option (List Document)
  | list items => some items
  | node g index =>
      match g.cells[index]? with
      | some (.list parts) => some (parts.map (ofPart g))
      | _ => none
  | _ => none

/-- The entries of a mapping. -/
def entries? : Document → Option (Entries Document)
  | map entries => some entries
  | node g index =>
      match g.cells[index]? with
      | some (.map entries) => some (entries.map fun (key, part) => (key, ofPart g part))
      | _ => none
  | _ => none

@[simp]
theorem items?_list (items : List Document) : (list items).items? = some items := rfl

@[simp]
theorem entries?_map (entries : Entries Document) : (map entries).entries? = some entries := rfl

/-- Null, false, zero, and whatever is empty. -/
def isVoid : Document → Bool
  | .scalar s => s.isVoid
  | .list items => items.isEmpty
  | .map entries => entries.isEmpty
  | .node g index => g.cells[index]?.any Cell.isEmpty

section Walk

variable {α : Type} (w : Walk α)

mutual

/-- A walk through all that a document holds. -/
def walk : Document → α
  | .scalar s => w.scalar s
  | .list items => w.list (walkItems items)
  | .map entries => w.map (walkEntries entries)
  | .node g index => g.walk w index

def walkItems : List Document → List α
  | [] => []
  | item :: rest => walk item :: walkItems rest

def walkEntries : List (Scalar × Document) → Entries α
  | [] => []
  | (key, value) :: rest => (key, walk value) :: walkEntries rest

end

theorem walkItems_eq_map (items : List Document) : walkItems w items = items.map (walk w) := by
  induction items with
  | nil => rfl
  | cons item rest ih => simp [walkItems, ih]

end Walk

/-- The value of a setting that may be missing; a void value counts as missing too. -/
def orElse (value : Option Document) (default : Document) : Document :=
  match value with
  | some d => if d.isVoid then default else d
  | none => default

def isNull : Document → Bool
  | .scalar .null => true
  | _ => false

def text? : Document → Option String
  | .scalar (.text s) => some s
  | _ => none

@[simp]
theorem text?_text (s : String) : (text s).text? = some s := rfl

/-- What a record that asks for a text takes a document for. -/
def recordText? : Document → Option String
  | .scalar s => s.recordText?
  | _ => none

end Document

end EntityScribe
