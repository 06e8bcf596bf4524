import EntityScribe.Yaml.Node
import EntityScribe.Yaml.Problem

/-!
# Merge keys

A mapping takes in the pairs of the mappings under its merge keys before its own pairs, once these
mappings have done so themselves. Its own pairs under merge keys go first of all, so a mapping that
is merged into itself gives what is left of it at that moment.
-/

namespace EntityScribe.Yaml.NodeTable

/-- The first pair whose key satisfies a test: its value, and the pairs without it. -/
def takeFirst? (test : Nat → Bool) : List (Nat × Nat) → Option (Nat × List (Nat × Nat))
  | [] => none
  | (key, value) :: rest =>
      if test key then some (value, rest)
      else (takeFirst? test rest).map fun (found, others) => (found, (key, value) :: others)

def isMergeKey (nodes : NodeTable) (n : Nat) : Bool :=
  nodes.tag? n == some .merge

/-- Takes the first pair under a merge key out of a mapping and gives its value. -/
def takeMerge? (nodes : NodeTable) (n : Nat) : Option (Nat × NodeTable) :=
  (takeFirst? nodes.isMergeKey (nodes.pairs n)).map fun (value, others) =>
    (value, nodes.withPairs n others)

/-- A key that stands for the value of its mapping is from now on a text like others. -/
def makeText (nodes : NodeTable) (key : Nat) : NodeTable :=
  if nodes.tag? key == some .default then nodes.change key (Node.withTag .text) else nodes

/-- Puts merged pairs before the pairs of a mapping. -/
def takeIn (nodes : NodeTable) (n : Nat) (merged : List (Nat × Nat)) : NodeTable :=
  let own := nodes.pairs n
  (own.foldl (fun nodes pair => nodes.makeText pair.1) nodes).withPairs n (merged ++ own)

/-- The pairs of a mapping once it has been completed, which only a mapping can be. -/
def completed (complete : NodeTable → Nat → Except Problem NodeTable)
    (nodes : NodeTable) (n : Nat) : Except Problem (List (Nat × Nat) × NodeTable) := do
  match nodes[n]? with
  | some (.map _ _) =>
      let nodes ← complete nodes n
      return (nodes.pairs n, nodes)
  | _ => throw .malformed

/-- The pairs that the value of a merge key gives. Of a list of mappings the first ones come last,
so that they win. -/
def given (complete : NodeTable → Nat → Except Problem NodeTable)
    (nodes : NodeTable) (value : Nat) : Except Problem (List (Nat × Nat) × NodeTable) := do
  match nodes[value]? with
  | some (.list _ items) =>
      let (groups, nodes) ← items.foldlM (fun (groups, nodes) item => do
        let (pairs, nodes) ← completed complete nodes item
        return (pairs :: groups, nodes)) ([], nodes)
      return (groups.flatten, nodes)
  | _ => completed complete nodes value

/-- Completes a mapping that has got some merged pairs so far: it takes in what is under its merge
keys. Every step takes a pair under a merge key out of the table, and none is put in; the limit
bounds their number. -/
def complete : Nat → List (Nat × Nat) → NodeTable → Nat → Except Problem NodeTable
  | 0, _, _, _ => .error .malformed
  | limit + 1, merged, nodes, n => do
      match nodes.takeMerge? n with
      | none => return nodes.takeIn n merged
      | some (value, nodes) =>
          let (more, nodes) ← given (complete limit []) nodes value
          complete limit (merged ++ more) nodes n

end EntityScribe.Yaml.NodeTable
