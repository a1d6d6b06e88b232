import TemplateTree.Graph.Normalize
import TemplateTree.Markup.Template
import TemplateTree.Config.Data

/-!
# Configuration

Options of the parser and of the normalizer, read from the entries of a
dictionary. Faults are looked for in this order: unknown keys, a bad policy for
missing children, a value that is no truth value.
-/

namespace TemplateTree

open TemplateTree.Graph (MissingChild)
open TemplateTree.Text (Codes)

structure Config where
  preserveWhitespaces : Bool := true
  preserveLineEndings : Bool := true
  collectComments : Bool := true
  missingChild : MissingChild := .error
  copyTree : Bool := false
  deriving DecidableEq, Repr

inductive ConfigError where
  | unknownKeys (keys : List Codes)
  /-- A key that is no text is not in the list of keys. -/
  | keyNotText
  | badMissingChild (shown : Codes)
  | notBoolean (key shown : String)
  /-- An integer that is too long to be shown. -/
  | oversized
  | notMapping (path : String)
  | invalidYaml (path : String)
  deriving DecidableEq, Repr

namespace ConfigError

/-- Keys and values are named as they are, halves of characters included. -/
def message : ConfigError → Codes
  | unknownKeys keys =>
    .ofString "Unknown config key(s): " ++ (Codes.ofString ", ").intercalate keys
  | keyNotText => .ofString "Config keys must be strings"
  | badMissingChild shown =>
    .ofString "Invalid missing_child '" ++ shown ++ .ofString "'. Must be one of: error, skip"
  | notBoolean key shown =>
    .ofString ("Config key '" ++ key ++ "' must be a boolean, got " ++ shown)
  | oversized => .ofString "A value is too long to be shown"
  | notMapping path => .ofString (path ++ ": expected a top-level 'tplast' mapping")
  | invalidYaml path => .ofString ("Invalid YAML in " ++ path)

end ConfigError

namespace Config

def policyKey : String := "missing_child"

/-- The keys that hold a truth value. -/
def flagKeys : List String :=
  ["preserve_whitespaces", "preserve_line_endings", "collect_comment_nodes", "copy_tree"]

def knownKeys : List String := policyKey :: flagKeys

def setFlag (config : Config) (key : String) (value : Bool) : Config :=
  match key with
  | "preserve_whitespaces" => { config with preserveWhitespaces := value }
  | "preserve_line_endings" => { config with preserveLineEndings := value }
  | "collect_comment_nodes" => { config with collectComments := value }
  | "copy_tree" => { config with copyTree := value }
  | _ => config

def policy? : Data → Option MissingChild
  | .str "error" => some .error
  | .str "skip" => some .skip
  | _ => none

def isKnown : Data → Bool
  | .str key => knownKeys.contains key
  | _ => false

def unknownKeys (entries : List (Data × Data)) : List Data :=
  (entries.map (·.1)).filter (!isKnown ·)

/-- Lexicographic order by code point. -/
def keyLe (a b : Codes) : Bool := decide (¬ b < a)

def badKeys (unknown : List Data) : ConfigError :=
  match unknown.mapM Data.codes? with
  | some keys => .unknownKeys (keys.mergeSort keyLe)
  | none => .keyNotText

def badPolicy (value : Data) : ConfigError :=
  if value.isShowable then .badMissingChild value.text else .oversized

def badFlag (key : String) (value : Data) : ConfigError :=
  if value.isShowable then .notBoolean key value.display else .oversized

def readPolicy (entries : List (Data × Data)) : Except ConfigError MissingChild :=
  match entries.find? fun entry => entry.1.sameKey (.str policyKey) with
  | none => .ok .error
  | some (_, value) =>
    match policy? value with
    | some policy => .ok policy
    | none => .error (badPolicy value)

def readFlags (config : Config) : List (Data × Data) → Except ConfigError Config
  | [] => .ok config
  | (.str key, value) :: rest =>
    if key = policyKey then readFlags config rest
    else
      match value with
      | .bool flag => readFlags (config.setFlag key flag) rest
      | value => .error (badFlag key value)
  | _ :: rest => readFlags config rest

def ofEntries (entries : List (Data × Data)) : Except ConfigError Config :=
  match unknownKeys entries with
  | [] => do
    let missingChild ← readPolicy entries
    readFlags { missingChild } entries
  | unknown => .error (badKeys unknown)

def parseOptions (config : Config) : ParseOptions :=
  ⟨config.preserveWhitespaces, config.preserveLineEndings, config.collectComments⟩

end Config

end TemplateTree
