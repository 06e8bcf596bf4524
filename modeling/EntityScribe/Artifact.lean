import EntityScribe.Failure

/-!
# Artifacts

A named unit of generated text, with the name of the generator that made it. Its file is named for
it and starts with a header.
-/

namespace EntityScribe

structure Artifact where
  name : String
  generator : String
  content : String
  deriving DecidableEq, Repr

namespace Artifact

/-- The ending of every generated file. -/
def fileEnding : String := ".cs"

def rule : String := "//" ++ String.ofList (List.replicate 78 '-')

/-- What every generated file starts with. -/
def header (generator : String) : String :=
  Text.unlines [rule,
    "// <auto-generated>",
    "//     This code was generated by " ++ generator ++ ".",
    "//",
    "//     Changes to this file may cause incorrect behavior and will be lost if",
    "//     the code is regenerated.",
    "// </auto-generated>",
    rule]

/-- The text of the artifact's file, with line feeds. -/
def text (a : Artifact) : String :=
  header a.generator ++ a.content

/-- The artifact's file in a directory, whose path ends in a separator. -/
def fileIn (a : Artifact) (directory : String) : String :=
  directory ++ a.name ++ fileEnding

/-- An artifact of lines, each with a line feed after it. -/
def ofLines (name generator : String) (lines : List String) : Artifact :=
  ⟨name, generator, "\n".intercalate lines ++ "\n"⟩

/-- The complaint about a part that must be a text. -/
def complaint? (part : String) (value : Document) : Option Complaint :=
  match value.recordText? with
  | some _ => none
  | none => some ⟨[.part part], .notText⟩

/-- An artifact from values of any kind; all three must be texts. -/
def check (name generator content : Document) : Except Failure Artifact :=
  match name.recordText?, generator.recordText?, content.recordText? with
  | some name, some generator, some content => .ok ⟨name, generator, content⟩
  | _, _, _ =>
      .error (.invalid ⟨.artifact,
        [complaint? "file_name" name, complaint? "generator_name" generator,
          complaint? "file_content" content].reduceOption⟩)

/-- An artifact from what a generator gives, which may be lines instead of one text. -/
def ofValues (generator : String) (name content : Document) : Except Failure Artifact :=
  match content.items? with
  | some items =>
      match items.mapM Document.text? with
      | some lines => check name (.text generator) (.text ("\n".intercalate lines ++ "\n"))
      | none => .error (.misuse .unsuitable)
  | none => check name (.text generator) content

end Artifact

end EntityScribe
