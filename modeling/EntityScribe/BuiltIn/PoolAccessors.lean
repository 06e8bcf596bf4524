import EntityScribe.Code
import EntityScribe.Plugin
import EntityScribe.Text.Lines

/-!
# Pool accessors

One class with an accessor for every pool. An accessor makes its pool when it is first used, with
the size and the names of the pool's lookup class.
-/

namespace EntityScribe.BuiltIn.PoolAccessors

def className : String := "PoolsGenerator"

def artifactName : String := "Pools"

/-- The name of a pool's accessor; its field has an underscore in front. -/
def accessor (pool : String) : String :=
  Text.lowerFirst (Naming.qualifier pool ++ Naming.defaultPool)

/-- The call that makes a pool. -/
def construction (pool : String) : String :=
  let tag := Naming.lookupTag pool
  "new Pool(" ++ tag ++ ".TotalComponents, 0, new PoolMetaData(\"" ++ pool ++ "\", " ++
    tag ++ ".componentNames))"

/-- The field and the accessor of a pool. -/
def members (pool : String) : List String :=
  let name := accessor pool
  let field := "_" ++ name
  ["", "static Pool " ++ field ++ ";", ""] ++
    Code.block ("public static Pool " ++ name)
      (Code.block "get"
        (Code.block ("if (" ++ field ++ " == null)") [field ++ " = " ++ construction pool ++ ";"] ++
          ["", "return " ++ field ++ ";"]))

def lines (pools : List String) : List String :=
  ["using Entitas;", ""] ++ Code.block "public static class Pools" (pools.flatMap members)

def artifact (pools : List String) : Artifact :=
  ⟨artifactName, className, Text.unlines (lines pools)⟩

def generate (pools : List String) : Answer :=
  ⟨.ok [artifact pools],
    [⟨.debug, .poolGenerators, "Generating Pools for " ++ toString pools.length ++ " pools"⟩]⟩

end EntityScribe.BuiltIn.PoolAccessors
