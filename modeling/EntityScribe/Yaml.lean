import EntityScribe.Yaml.Node.Reader
import EntityScribe.Yaml.Value

/-!
# YAML

Reading the bytes of one YAML document. A text without a document stands for null.
-/

namespace EntityScribe.Yaml

/-- The document in the bytes of a text. -/
def read (bytes : ByteArray) : Except Problem Document := do
  match ← NodeTable.ofSource (Source.ofBytes bytes) with
  | none => return .null
  | some (root, nodes) => nodes.document root

end EntityScribe.Yaml
