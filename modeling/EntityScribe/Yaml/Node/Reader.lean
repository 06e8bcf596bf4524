import EntityScribe.Yaml.Node
import EntityScribe.Yaml.Token.Lexer

/-!
# From tokens to nodes

Lists and mappings, in blocks and in brackets, and one document for a whole text. A node with an
anchor can be repeated from where its content starts. Where a token is looked at and there is none
left, the problem that the tokens end with comes to light.
-/

namespace EntityScribe.Yaml

/-- What the reader of nodes has left and what it knows. -/
structure Reader where
  tokens : List Token
  /-- What the tokens end with. -/
  problem : Option Problem
  /-- What handles of tags stand for. -/
  handles : List (String × String)
  /-- The numbers of the nodes with anchors. -/
  anchors : List (String × Nat)
  nodes : NodeTable
  /-- The number of nodes around the next one. -/
  depth : Nat

namespace Reader

def usualHandles : List (String × String) :=
  [("!", "!"), ("!!", Tag.usualStart)]

def ofOutput (output : Lexer.Output) : Reader :=
  ⟨output.tokens, output.problem, usualHandles, [], #[], 0⟩

def next (r : Reader) : Reader :=
  { r with tokens := r.tokens.tail }

/-- A look at the next token; at the end of the tokens their problem comes to light. -/
def peek (r : Reader) : Except Problem (Option Token) :=
  match r.tokens, r.problem with
  | t :: _, _ => .ok (some t)
  | [], some problem => .error problem
  | [], none => .ok none

/-- What is wrong if the next token is not what is needed. -/
def unexpected {α : Type} (r : Reader) : Except Problem α := do
  let _ ← r.peek
  throw .malformed

/-- Whether the next token is one of some. -/
def sees (r : Reader) (ts : List Token) : Except Problem Bool := do
  match ← r.peek with
  | some t => return ts.contains t
  | none => return false

/-- A new node with its number. -/
def add (r : Reader) (node : Node) : Nat × Reader :=
  (r.nodes.size, { r with nodes := r.nodes.push node })

def define (r : Reader) (anchor : Option String) (n : Nat) : Reader :=
  match anchor with
  | some name => { r with anchors := (name, n) :: r.anchors }
  | none => r

/-- A new scalar with nothing in it and no tag. -/
def addEmpty (r : Reader) : Nat × Reader :=
  r.add (.scalar (Tag.ofText "") "")

/-! ## Properties -/

/-- What stands in front of the content of a node. -/
structure Properties where
  anchor : Option String
  /-- The full name of the tag. -/
  tag : Option String

def tagName (r : Reader) (handle : Option String) (ending : String) : Except Problem String :=
  match handle with
  | none => .ok ending
  | some handle =>
      match r.handles.lookup handle with
      | some start => .ok (start ++ ending)
      | none => .error .malformed

/-- An anchor, a tag or both in either order. The handle of a tag is looked up after both. -/
def properties (r : Reader) : Except Problem (Properties × Reader) := do
  match ← r.peek with
  | some (.anchor name) =>
      let r := r.next
      match ← r.peek with
      | some (.tag handle ending) => return (⟨some name, some (← r.tagName handle ending)⟩, r.next)
      | _ => return (⟨some name, none⟩, r)
  | some (.tag handle ending) =>
      let r := r.next
      match ← r.peek with
      | some (.anchor name) => return (⟨some name, some (← r.tagName handle ending)⟩, r.next)
      | _ => return (⟨none, some (← r.tagName handle ending)⟩, r)
  | _ => return (⟨none, none⟩, r)

/-- The tag that says nothing: the text of the scalar decides, as if there were no quotes. -/
def openTag : String := "!"

def scalarTag (tag : Option String) (text : String) (isPlain : Bool) : Tag :=
  match tag with
  | none => if isPlain then Tag.ofText text else .text
  | some name => if name = openTag then Tag.ofText text else Tag.ofName name

def collectionTag (tag : Option String) (usual : Tag) : Tag :=
  match tag with
  | none => usual
  | some name => if name = openTag then usual else Tag.ofName name

/-- A new scalar with properties. -/
def addScalar (r : Reader) (p : Properties) (text : String) (isPlain : Bool) : Nat × Reader :=
  let (n, r) := r.add (.scalar (scalarTag p.tag text isPlain) text)
  (n, r.define p.anchor n)

/-- A new list, which can be repeated before its items are known. -/
def openList (r : Reader) (p : Properties) : Nat × Reader :=
  let (n, r) := r.add (.list (collectionTag p.tag .list) [])
  (n, r.define p.anchor n)

/-- A new mapping, which can be repeated before its pairs are known. -/
def openMap (r : Reader) (p : Properties) : Nat × Reader :=
  let (n, r) := r.add (.map (collectionTag p.tag .map) [])
  (n, r.define p.anchor n)

/-- Gives a list its items. -/
def closeList (r : Reader) (n : Nat) (items : List Nat) : Reader :=
  { r with nodes := r.nodes.change n fun node => .list node.tag items }

/-- Gives a mapping its pairs. -/
def closeMap (r : Reader) (n : Nat) (pairs : List (Nat × Nat)) : Reader :=
  { r with nodes := r.nodes.withPairs n pairs }

/-- A new mapping with a single pair and without properties. -/
def addPair (r : Reader) (key value : Nat) : Nat × Reader :=
  r.add (.map .map [(key, value)])

/-- With properties a node may have no content. -/
def emptyContent (p : Properties) (r : Reader) : Except Problem (Nat × Reader) :=
  if p.anchor.isSome ∨ p.tag.isSome then .ok (r.addScalar p "" p.tag.isNone) else r.unexpected

/-! ## Nodes

Every function below takes a bound on the number of steps, which the number of tokens gives. -/

/-- Where a node stands: only in a block may block collections start, and only as the value of a
mapping may a list be no further in than its key. -/
structure Spot where
  isBlock : Bool
  sharesIndent : Bool

def inBlock : Spot := ⟨true, false⟩

def inBlockMap : Spot := ⟨true, true⟩

def inBrackets : Spot := ⟨false, false⟩

/-- Nodes stand at most this deep inside one another. -/
def deepest : Nat := 490

mutual

/-- The node that comes next, by its number. -/
def node : Nat → Spot → Reader → Except Problem (Nat × Reader)
  | 0, _, r => r.unexpected
  | limit + 1, spot, r => do
      if r.depth ≥ deepest then throw .tooDeep
      match ← r.peek with
      | some (.reference name) =>
          match r.anchors.lookup name with
          | some found => return (found, r.next)
          | none => throw .malformed
      | _ =>
          let (p, r) ← r.properties
          let first ← r.peek
          if p.anchor.any fun name => (r.anchors.lookup name).isSome then throw .malformed
          let (found, inner) ← content limit spot p first { r with depth := r.depth + 1 }
          return (found, { inner with depth := r.depth })

/-- The content of a node after its properties, by the token that it starts with. -/
def content : Nat → Spot → Properties → Option Token → Reader → Except Problem (Nat × Reader)
  | 0, _, _, _, r => r.unexpected
  | limit + 1, spot, p, first, r =>
      let asList (read : Reader → Except Problem (List Nat × Reader)) (r : Reader) :
          Except Problem (Nat × Reader) :=
        let (n, r) := r.openList p
        (read r).map fun (items, r) => (n, r.closeList n items)
      let asMap (read : Reader → Except Problem (List (Nat × Nat) × Reader)) (r : Reader) :
          Except Problem (Nat × Reader) :=
        let (n, r) := r.openMap p
        (read r).map fun (pairs, r) => (n, r.closeMap n pairs)
      match first with
      | some (.scalar text isPlain) => .ok (r.next.addScalar p text isPlain)
      | some .blockEntry =>
          if spot.sharesIndent then asList (fun r => sharedItems limit r []) r else emptyContent p r
      | some .flowListStart => asList (fun r => bracketItems limit true r []) r.next
      | some .flowMapStart => asMap (fun r => bracketPairs limit true r []) r.next
      | some .blockListStart =>
          if spot.isBlock then asList (fun r => blockItems limit r []) r.next else emptyContent p r
      | some .blockMapStart =>
          if spot.isBlock then asMap (fun r => blockPairs limit r []) r.next else emptyContent p r
      | _ => emptyContent p r

/-- A node, or an empty scalar if one of some tokens comes next. -/
def nodeUnless : Nat → List Token → Spot → Reader → Except Problem (Nat × Reader)
  | 0, _, _, r => r.unexpected
  | limit + 1, ts, spot, r => do
      if ← r.sees ts then return r.addEmpty else node limit spot r

/-- The items of a list in a block of its own. -/
def blockItems : Nat → Reader → List Nat → Except Problem (List Nat × Reader)
  | 0, r, _ => r.unexpected
  | limit + 1, r, found =>
      match r.tokens with
      | .blockEntry :: _ => do
          let (item, r) ← nodeUnless limit [.blockEntry, .blockEnd] inBlock r.next
          blockItems limit r (item :: found)
      | .blockEnd :: _ => .ok (found.reverse, r.next)
      | _ => r.unexpected

/-- The items of a list that shares the block of the mapping around it. -/
def sharedItems : Nat → Reader → List Nat → Except Problem (List Nat × Reader)
  | 0, r, _ => r.unexpected
  | limit + 1, r, found => do
      if ← r.sees [.blockEntry] then
        let (item, r) ← nodeUnless limit [.blockEntry, .key, .value, .blockEnd] inBlock r.next
        sharedItems limit r (item :: found)
      else return (found.reverse, r)

/-- The value after a key, or an empty scalar. -/
def valueAfter : Nat → List Token → Spot → Reader → Except Problem (Nat × Reader)
  | 0, _, _, r => r.unexpected
  | limit + 1, ts, spot, r => do
      if ← r.sees [.value] then nodeUnless limit ts spot r.next else return r.addEmpty

def blockPairs : Nat → Reader → List (Nat × Nat) → Except Problem (List (Nat × Nat) × Reader)
  | 0, r, _ => r.unexpected
  | limit + 1, r, found =>
      match r.tokens with
      | .key :: _ => do
          let ends := [Token.key, .value, .blockEnd]
          let (key, r) ← nodeUnless limit ends inBlockMap r.next
          let (value, r) ← valueAfter limit ends inBlockMap r
          blockPairs limit r ((key, value) :: found)
      | .blockEnd :: _ => .ok (found.reverse, r.next)
      | _ => r.unexpected

/-- The items of a list in brackets; a pair among them is a mapping of its own. -/
def bracketItems : Nat → Bool → Reader → List Nat → Except Problem (List Nat × Reader)
  | 0, _, r, _ => r.unexpected
  | limit + 1, isFirst, r, found => do
      if ← r.sees [.flowListEnd] then return (found.reverse, r.next)
      if !isFirst && !(← r.sees [.flowEntry]) then r.unexpected
      else
        let r := if isFirst then r else r.next
        if ← r.sees [.key] then
          let ends := [Token.flowEntry, .flowListEnd]
          let (key, r) ← nodeUnless limit (.value :: ends) inBrackets r.next
          let (value, r) ← valueAfter limit ends inBrackets r
          let (pair, r) := r.addPair key value
          bracketItems limit false r (pair :: found)
        else if ← r.sees [.flowListEnd] then return (found.reverse, r.next)
        else
          let (item, r) ← node limit inBrackets r
          bracketItems limit false r (item :: found)

def bracketPairs : Nat → Bool → Reader → List (Nat × Nat) →
    Except Problem (List (Nat × Nat) × Reader)
  | 0, _, r, _ => r.unexpected
  | limit + 1, isFirst, r, found => do
      if ← r.sees [.flowMapEnd] then return (found.reverse, r.next)
      if !isFirst && !(← r.sees [.flowEntry]) then r.unexpected
      else
        let r := if isFirst then r else r.next
        let ends := [Token.flowEntry, .flowMapEnd]
        if ← r.sees [.key] then
          let (key, r) ← nodeUnless limit (.value :: ends) inBrackets r.next
          let (value, r) ← valueAfter limit ends inBrackets r
          bracketPairs limit false r ((key, value) :: found)
        else if ← r.sees [.flowMapEnd] then return (found.reverse, r.next)
        else
          let (key, r) ← node limit inBrackets r
          let (value, r) := r.addEmpty
          bracketPairs limit false r ((key, value) :: found)

end

/-! ## Documents -/

/-- Takes in the directives in front of a document. -/
def directives (r : Reader) : List Token → Bool → List (String × String) → Except Problem Reader
  | .versionDirective major :: rest, seenVersion, handles =>
      if seenVersion ∨ major ≠ 1 then .error .malformed else directives r rest true handles
  | .tagDirective handle start :: rest, seenVersion, handles =>
      if (handles.lookup handle).isSome then .error .malformed
      else directives r rest seenVersion ((handle, start) :: handles)
  | .otherDirective :: rest, seenVersion, handles => directives r rest seenVersion handles
  | rest, _, handles => .ok { r with tokens := rest, handles := handles ++ usualHandles }

/-- The number of steps that some tokens can take at most. -/
def stepLimit (r : Reader) : Nat :=
  8 * r.tokens.length + 8

/-- The node that is the content of a whole document. -/
def rootNode (r : Reader) : Except Problem (Nat × Reader) :=
  node r.stepLimit inBlock r

/-- Whether a token can only stand between documents. -/
def isBetween : Token → Bool
  | .versionDirective _ => true
  | .tagDirective _ _ => true
  | .otherDirective => true
  | .documentStart => true
  | .documentEnd => true
  | _ => false

/-- The node of a document after its start; it may be missing. -/
def documentNode (r : Reader) : Except Problem (Nat × Reader) := do
  match ← r.peek with
  | some t => if isBetween t then return r.addEmpty else r.rootNode
  | none => return r.addEmpty

/-- Directives and the start of a document. -/
def documentStart (r : Reader) : Except Problem Reader := do
  let r ← directives r r.tokens false []
  if ← r.sees [.documentStart] then return r.next else r.unexpected

/-- Nothing but the ends of documents may come after the document. -/
def finish (r : Reader) : Except Problem Unit := do
  let r : Reader := { r with tokens := r.tokens.dropWhile (· == Token.documentEnd) }
  match ← r.peek with
  | none => return ()
  | some _ =>
      let _ ← r.documentStart
      throw .malformed

/-- The one document of a text, if there is any, by the number of its node. -/
def document (r : Reader) : Except Problem (Option (Nat × NodeTable)) := do
  match ← r.peek with
  | none => return none
  | some first =>
      let (root, r) ←
        if isBetween first && first != .documentEnd then documentNode (← r.documentStart)
        else r.rootNode
      r.finish
      return some (root, r.nodes)

end Reader

/-- The nodes that a text comes to, with the one for all of it; nothing for a text without a
document. -/
def NodeTable.ofSource (source : Source) : Except Problem (Option (Nat × NodeTable)) :=
  (Reader.ofOutput (Token.ofSource source)).document

end EntityScribe.Yaml
