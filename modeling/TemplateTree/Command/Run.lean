import TemplateTree.Command.Arguments
import TemplateTree.Command.Report
import TemplateTree.Config.File
import TemplateTree.Format.Json
import TemplateTree.Format.Yaml

/-!
# Running a command

From arguments and files to what is printed. A problem of a template or of its
configuration is a message; faults that no message is made for end the program.
-/

namespace TemplateTree.Command

open Text (Chars)

inductive Entry where
  | directory
  | file (text : Chars)
  deriving DecidableEq, Repr

/-- Where a path leads in a directory that holds only the given files. -/
def Entry.find? (files : List (String × Chars)) (path : String) : Option Entry :=
  let parts := Text.splitAt '/' path.toList
  let names := parts.filter fun part => !(part.isEmpty || part == ['.'])
  if path.isEmpty then none
  else if names.all (· == ['.', '.']) then some .directory
  else if path.toList.head? == some '/' || parts.getLast?.any (!names.contains ·) then none
  else (files.lookup (String.ofList (['/'].intercalate names))).map .file

/-- Why the program ends without a message. -/
inductive Fault where
  | markup (error : Console.MarkupError)
  /-- The configuration is a directory. -/
  | directory
  /-- A key of the configuration is no text. -/
  | key
  /-- A value of the configuration is too long to be shown. -/
  | oversizedValue
  /-- A message holds half of a character. -/
  | halfCharacter
  | scalar (error : Yaml.YamlError)
  | oversizedInteger
  | endless
  deriving DecidableEq, Repr

def Fault.message : Fault → String
  | markup _ => "The text of the template holds console markup that cannot be shown"
  | directory => "The configuration is a directory"
  | key => "The configuration has a key that is no text"
  | oversizedValue => "The configuration has a value that is too long to be shown"
  | halfCharacter => "The configuration has a text that cannot be printed"
  | scalar _ => "The configuration has a scalar that does not fit its tag"
  | oversizedInteger => "An integer of the template has too many digits"
  | endless => "The tree of the template has no end"

inductive Outcome where
  | printed (output : Chars)
  | reported (output : Chars)
  | refused (error : UsageError)
  | failed (fault : Fault)
  deriving DecidableEq, Repr

namespace Outcome

def exitCode : Outcome → Nat
  | printed _ => 0
  | reported _ => 1
  | refused _ => 2
  | failed _ => 1

def output : Outcome → Chars
  | printed output => output
  | reported output => output
  | _ => []

def ofLines : Except Console.MarkupError (List Chars) → Outcome
  | .ok lines => printed (lines.flatMap (· ++ ['\n']))
  | .error error => failed (.markup error)

/-- Reports a message, shown as it is. -/
def ofMessage (message : String) : Outcome :=
  match Console.labelLines Console.lineWidth (styled "red" (Console.escape message.toList)) with
  | .ok lines => reported (lines.flatMap (· ++ ['\n']))
  | .error error => failed (.markup error)

def ofFileError : Config.FileError → Outcome
  | .config .keyNotText => failed .key
  | .config .oversized => failed .oversizedValue
  | .config error =>
    match error.message.chars? with
    | some message => ofMessage (String.ofList message)
    | none => failed .halfCharacter
  | .scalar error => failed (.scalar error)

def ofAnalysisError (file : String) : AnalysisError → Outcome
  | .template (.issues issues) => ofMessage (Issue.summary file issues)
  | .template .oversizedInteger => failed .oversizedInteger
  | .malformed kind field => ofMessage (malformedMessage kind field)
  | .endless => failed .endless

end Outcome

def loadConfig (find? : String → Option Entry) : Option String → Except Outcome Config
  | none => .ok {}
  | some path =>
    match find? path with
    | none => .error (.refused (.noSuchFile path))
    | some .directory => .error (.failed .directory)
    | some (.file text) =>
      match Config.ofFile path text with
      | .ok config => .ok config
      | .error error => .error (.ofFileError error)

def loadFile (find? : String → Option Entry) (path : String) : Except Outcome Chars :=
  match find? path with
  | some (.file text) => .ok (Text.universalLines text)
  | _ => .error (.refused (.noSuchFile path))

/-- Reads and analyzes a template. That a file is missing counts before everything
else. -/
def loadAnalysis (find? : String → Option Entry) (file : String) (config : Option String) :
    Except Outcome Analysis := do
  let text ← loadFile find? file
  let config ← loadConfig find? config
  match analyze text file config with
  | .ok analysis => return analysis
  | .error error => throw (.ofAnalysisError file error)

def showAnalysis (file : String) (analysis : Analysis) (format : OutputFormat) : Outcome :=
  let plain := analysis.graph.toPlain analysis.root
  match format, plain with
  | .tree, _ => .ofLines (templateTree file analysis).lines
  | .json, .ok plain => .printed (Format.Json.text plain ++ ['\n'])
  | .yaml, .ok plain => .printed (Format.Yaml.text plain ++ ['\n'])
  | _, .error _ => .failed .endless

def showComments (tokens : List CommentToken) : Outcome :=
  if tokens.isEmpty then
    .ofLines (Console.labelLines Console.lineWidth (styled "yellow" "No comments found.".toList))
  else .ofLines (commentTable tokens).lines

def versionText : String := "tplast, version 0.1.0\n"

def Request.run (find? : String → Option Entry) : Request → Outcome
  | version => .printed versionText.toList
  | keys => .ofLines keyTable.lines
  | parse file format config =>
    match loadAnalysis find? file config with
    | .ok analysis => showAnalysis file analysis format
    | .error outcome => outcome
  | comments file =>
    match loadAnalysis find? file none with
    | .ok analysis => showComments analysis.program.comments
    | .error outcome => outcome

def run (find? : String → Option Entry) (arguments : List String) : Outcome :=
  match Request.ofArguments arguments with
  | .ok request => request.run find?
  | .error error => .refused error

end TemplateTree.Command
