import TemplateTree.Config.Basic
import TemplateTree.Text.Search
import TemplateTree.Yaml.Document

/-!
# Configuration files

A configuration file is a YAML document with the options in one section.
-/

namespace TemplateTree.Config

open Text (Chars)

/-- Why a configuration file cannot be used. -/
inductive FileError where
  | config (error : ConfigError)
  /-- A scalar does not fit its tag. -/
  | scalar (error : Yaml.YamlError)
  deriving DecidableEq, Repr

def sectionName : String := "tplast"

/-- The configuration in a section: one that counts as absent leaves the defaults. -/
def ofSection (path : String) (document : Yaml.Document) (node : Yaml.Node) :
    Except ConfigError Config :=
  match document.entries? node with
  | some entries => ofEntries (entries.map fun (key, value) => (key, document.data value))
  | none => if (document.data node).isAbsent then .ok {} else .error (.notMapping path)

/-- The configuration in a document: without a section it leaves the defaults. -/
def ofDocument (path : String) (document : Yaml.Document) : Except ConfigError Config :=
  match document.entries? document.root with
  | some entries =>
    match entries.find? fun (key, _) => key.sameKey (.str sectionName) with
    | some (_, node) => ofSection path document node
    | none => .ok {}
  | none => if (document.data document.root).isNull then .ok {} else .error (.notMapping path)

def ofFile (path : String) (text : Chars) : Except FileError Config :=
  match Yaml.load (Text.universalLines text) with
  | .error .invalid => .error (.config (.invalidYaml path))
  | .error error => .error (.scalar error)
  | .ok none => .ok {}
  | .ok (some document) =>
    match ofDocument path document with
    | .error error => .error (.config error)
    | .ok config => .ok config

end TemplateTree.Config
