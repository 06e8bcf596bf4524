import EntityScribe.Code
import EntityScribe.Plugin
import EntityScribe.Text.Lines

/-!
# Lookup classes

A lookup class numbers the components of a pool by constants, in the order of the components. The
pools of the model have their classes even without components; classes for other pools of components
come after them.
-/

namespace EntityScribe.BuiltIn

/-- A lookup class with the short names of its components. -/
structure LookupClass where
  tag : String
  components : List String
  deriving DecidableEq, Repr

namespace LookupClass

/-- The constant for a component. -/
def constant (component : String) (index : Nat) : String :=
  "public const int " ++ component ++ " = " ++ toString index ++ ";"

def total (count : Nat) : String :=
  "public const int TotalComponents = " ++ toString count ++ ";"

def nameEntry (component : String) : String :=
  "\"" ++ component ++ "\","

/-- The array of names ends in a semicolon. -/
def nameArray (components : List String) : List String :=
  ["public static readonly string[] componentNames = \x7b"] ++
    (components.map nameEntry).map Code.indented ++ ["\x7d;"]

def lines (c : LookupClass) : List String :=
  Code.block ("public static class " ++ c.tag)
    (c.components.zipIdx.map (fun (component, index) => constant component index) ++
      ["", total c.components.length, ""] ++ nameArray c.components)

end LookupClass

namespace LookupClasses

def className : String := "ComponentIndicesGenerator"

/-- Makes sure that there is a class with the tag. -/
def declare (tag : String) : List LookupClass → List LookupClass
  | [] => [⟨tag, []⟩]
  | c :: rest => if c.tag = tag then c :: rest else c :: declare tag rest

/-- Adds a component to the class with the tag, which is declared if there is none. -/
def enter (component tag : String) : List LookupClass → List LookupClass
  | [] => [⟨tag, [component]⟩]
  | c :: rest =>
      if c.tag = tag then ⟨tag, c.components ++ [component]⟩ :: rest
      else c :: enter component tag rest

/-- The classes of pools that have no components yet. -/
def ofPools (pools : List String) : List LookupClass :=
  pools.foldl (fun classes pool => declare (Naming.lookupTag pool) classes) []

/-- Adds a component to the class of each of its pools. -/
def add (classes : List LookupClass) (c : Component) : List LookupClass :=
  c.lookupTags.foldl (fun classes tag => enter c.shortName tag classes) classes

/-- The lookup classes for pools and components. -/
def classes (pools : List String) (components : List Component) : List LookupClass :=
  components.foldl add (ofPools pools)

def artifact (c : LookupClass) : Artifact :=
  ⟨c.tag, className, Text.unlines c.lines⟩

def artifacts (pools : List String) (components : List Component) : List Artifact :=
  (classes pools components).map artifact

/-- What the generator answers if it remembers the given pools. -/
def generate (pools : List String) (components : List Component) : Answer :=
  ⟨.ok (artifacts pools components), []⟩

end LookupClasses

end EntityScribe.BuiltIn
