import EntityScribe.Yaml.Tag

/-!
# Nodes

A well-formed text comes to tagged nodes in a numbered table. A list or a mapping names its parts by
their numbers, so a node that is repeated stands in the table once, and a node may even be part of
itself.
-/

namespace EntityScribe.Yaml

inductive Node where
  | scalar (tag : Tag) (text : String)
  | list (tag : Tag) (items : List Nat)
  | map (tag : Tag) (pairs : List (Nat × Nat))

namespace Node

def tag : Node → Tag
  | scalar tag _ => tag
  | list tag _ => tag
  | map tag _ => tag

def withTag (tag : Tag) : Node → Node
  | scalar _ text => scalar tag text
  | list _ items => list tag items
  | map _ pairs => map tag pairs

/-- The pairs of a mapping. -/
def pairs : Node → List (Nat × Nat)
  | map _ pairs => pairs
  | _ => []

end Node

abbrev NodeTable := Array Node

namespace NodeTable

/-- The tag of a node. -/
def tag? (nodes : NodeTable) (n : Nat) : Option Tag :=
  nodes[n]?.map Node.tag

/-- The pairs of a mapping. -/
def pairs (nodes : NodeTable) (n : Nat) : List (Nat × Nat) :=
  (nodes[n]?.map Node.pairs).getD []

/-- The table with a change of one node. -/
def change (nodes : NodeTable) (n : Nat) (f : Node → Node) : NodeTable :=
  nodes.modify n f

/-- The table with other pairs in a mapping. -/
def withPairs (nodes : NodeTable) (n : Nat) (pairs : List (Nat × Nat)) : NodeTable :=
  nodes.change n fun node => .map node.tag pairs

/-- The number of pairs in all mappings. -/
def pairCount (nodes : NodeTable) : Nat :=
  nodes.foldl (fun count node => count + node.pairs.length) 0

end NodeTable

end EntityScribe.Yaml
