import EntityScribe.Template
import EntityScribe.Workspace

/-!
# Stores of templates

The templates of one component stand as files in a directory of their own, each under its name with
the ending of templates.
-/

namespace EntityScribe

/-- Templates by name, in the order of the names. -/
structure TemplateStore where
  templates : List (String × Template)

namespace TemplateStore

/-- The directory that holds the directories of all components. -/
def directoryName : String := "templates"

/-- The ending of template files. -/
def fileEnding : String := ".tpl"

/-- The name of the template in a file. The ending alone is the name of no template. -/
def templateName? (fileName : String) : Option String :=
  let cs := fileName.toList
  let stem := cs.take (cs.length - fileEnding.toList.length)
  if fileEnding.toList.isSuffixOf cs && stem != [] then some (String.ofList stem) else none

/-- The directory of a component's templates below a base directory. -/
def directory (base : Path) (component : String) : Path :=
  (base.child directoryName).append (Path.ofString component)

/-- The template in a file of a directory, with its name. -/
def loadFile (w : Workspace) (directory : Path) (fileName : String) :
    Except FileError (Option (String × Template)) :=
  match templateName? fileName with
  | none => .ok none
  | some name =>
      match w.readText (directory.child fileName).text with
      | .ok text => .ok (some (name, ⟨Text.splitLines text⟩))
      | .error e => .error e

/-- The templates of a component. -/
def load (w : Workspace) (base : Path) (component : String) : Except Failure TemplateStore :=
  let directory := directory base component
  match w.namesIn directory.text with
  | .error e => .error (.file e)
  | .ok names =>
      match (sortBy (fun a b => !decide (b < a)) names).mapM (loadFile w directory) with
      | .error e => .error (.file e)
      | .ok found => .ok ⟨sortBy (fun a b => !decide (b.1 < a.1)) (found.filterMap id)⟩

/-- The names of all templates. -/
def names (store : TemplateStore) : List String :=
  store.templates.map (·.1)

/-- The lines of the template with a name. -/
def render (store : TemplateStore) (name : String) (values : Entries Document) :
    Template.Rendering :=
  match store.templates.lookup name with
  | some template => template.render name values
  | none => ⟨.error (.noTemplate name store.names), []⟩

end TemplateStore

end EntityScribe
