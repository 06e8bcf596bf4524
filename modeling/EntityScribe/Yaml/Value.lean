import EntityScribe.Document
import EntityScribe.Yaml.Node.Merge

/-!
# From nodes to documents

The value of a node by its tag. Every node has one value, wherever it is repeated. The value of a
list or a mapping is a cell of a graph, which is opened when the node is first met and filled later:
cells are filled in the order in which they were opened. So of several nodes without a value, the
one that is least deep is found first, and of those equally deep the first one.
-/

namespace EntityScribe.Yaml

/-- The truth value of a word, in whatever letter case. -/
def truthValue (s : String) : Except ValueFault Bool :=
  let word := Text.lowerAll s
  match Tag.truthWords.lookup word with
  | some b => .ok b
  | none => .error (.notTruthValue word)

/-- The float with a text. What is not a number by name is always the same; else it has a mark. -/
def floatValue (mark : Nat) (s : String) : Except ValueFault Scalar :=
  (Number.floatOf s).map fun x =>
    if x.isNaN then .notANumber (if Number.isNotANumber s then 0 else mark) else .float x

/-- The scalar with a tag and a text. -/
def scalarOf (tag : Tag) (mark : Nat) (s : String) : Except Problem Scalar :=
  match tag with
  | .null => .ok .null
  | .bool => ((truthValue s).map Scalar.bool).mapError .value
  | .int => ((Number.integerOf s).map Scalar.int).mapError .value
  | .float => (floatValue mark s).mapError .value
  | .timestamp =>
      ((Timestamp.valueOf s.toList).map fun
        | .date d => Scalar.date d
        | .moment m => Scalar.moment m).mapError .value
  | .text => .ok (.text s)
  | _ => .error .malformed

namespace NodeTable

/-- The text of a node. For a mapping it is that of its value under the key for it, which may be a
mapping in turn. -/
def textOf (nodes : NodeTable) : Nat → Nat → Except Problem String
  | 0, _ => .error .tooDeep
  | limit + 1, n =>
      match nodes[n]? with
      | some (.scalar _ s) => .ok s
      | some (.map _ pairs) =>
          match pairs.find? fun (key, _) => nodes.tag? key == some .default with
          | some (_, value) => textOf nodes limit value
          | none => .error .malformed
      | _ => .error .malformed

def isMap (nodes : NodeTable) (n : Nat) : Bool :=
  match nodes[n]? with
  | some (.map _ _) => true
  | _ => false

/-- The value of a node whose tag must be that of a scalar. The number of the node is its mark. -/
def scalarAt (nodes : NodeTable) (tag : Tag) (n : Nat) : Except Problem Scalar := do
  if !tag.isScalar then throw .malformed
  let s ← nodes.textOf (nodes.size + 1) n
  if tag = .timestamp ∧ nodes.isMap n then throw (.value .timestampInMapping)
  scalarOf tag (n + 1) s

end NodeTable

/-- A graph that is being built from nodes. -/
structure Builder where
  nodes : NodeTable
  /-- The values that nodes have so far. -/
  values : Array (Option Part)
  /-- The nodes of the cells, in the order of the cells. -/
  opened : Array Nat
  /-- A bound on the number of pairs under merge keys, which only become fewer. -/
  limit : Nat

namespace Builder

def start (nodes : NodeTable) : Builder :=
  ⟨nodes, Array.replicate nodes.size none, #[], nodes.pairCount⟩

def withValue (b : Builder) (n : Nat) (part : Part) : Builder :=
  { b with values := b.values.modify n fun _ => some part }

/-- A new value for a node: a new cell for a list or a mapping, or a scalar. -/
def newValue (b : Builder) (n : Nat) : Except Problem (Part × Builder) := do
  match b.nodes.tag? n with
  | none => throw .malformed
  | some tag =>
      if tag = .list ∨ tag = .map then
        let part : Part := .cell b.opened.size
        return (part, { b.withValue n part with opened := b.opened.push n })
      else
        let part : Part := .scalar (← b.nodes.scalarAt tag n)
        return (part, b.withValue n part)

/-- The value of a node. -/
def value (b : Builder) (n : Nat) : Except Problem (Part × Builder) :=
  match b.values[n]? with
  | some (some part) => .ok (part, b)
  | _ => b.newValue n

def items (b : Builder) : List Nat → Except Problem (List Part × Builder)
  | [] => .ok ([], b)
  | n :: rest => do
      let (part, b) ← b.value n
      let (parts, b) ← items b rest
      return (part :: parts, b)

/-- The entries of a mapping. Only scalars can be keys. -/
def entries (b : Builder) : List (Nat × Nat) → Except Problem (List (Scalar × Part) × Builder)
  | [] => .ok ([], b)
  | (key, value) :: rest => do
      match ← b.value key with
      | (.cell _, _) => throw .malformed
      | (.scalar key, b) =>
          let (part, b) ← b.value value
          let (more, b) ← entries b rest
          return ((key, part) :: more, b)

/-- What goes into the cell of a node, which must be of the kind that its tag says. -/
def cell (b : Builder) (n : Nat) : Except Problem (Cell × Builder) := do
  match b.nodes[n]? with
  | some (.list .list items) =>
      let (parts, b) ← b.items items
      return (.list parts, b)
  | some (.map .map _) =>
      let nodes ← NodeTable.complete (b.limit + 1) [] b.nodes n
      let (pairs, b) ← entries { b with nodes := nodes } (nodes.pairs n)
      return (.map (Entries.ofPairs pairs), b)
  | _ => throw .malformed

/-- Fills the cells that are open after those that are filled. There are no more cells than
nodes. -/
def fill : Nat → Builder → Array Cell → Except Problem (Array Cell)
  | 0, _, cells => .ok cells
  | limit + 1, b, cells => do
      match b.opened[cells.size]? with
      | none => return cells
      | some n =>
          let (cell, b) ← b.cell n
          fill limit b (cells.push cell)

end Builder

/-- The document of a node. -/
def NodeTable.document (nodes : NodeTable) (root : Nat) : Except Problem Document := do
  let (part, b) ← (Builder.start nodes).value root
  let cells ← Builder.fill (nodes.size + 1) b #[]
  return Document.ofPart ⟨cells⟩ part

end EntityScribe.Yaml
