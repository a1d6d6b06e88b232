import TemplateTree.Text.Search

/-!
# Arguments

What is asked for on the command line. Options of the program stand before the
name of a command; options of a command may stand anywhere behind it. If an option
is repeated, its last value counts.
-/

namespace TemplateTree.Command

open Text (Chars)

inductive OutputFormat where
  | tree
  | json
  | yaml
  deriving DecidableEq, Repr

def OutputFormat.ofName? : String → Option OutputFormat
  | "tree" => some tree
  | "json" => some json
  | "yaml" => some yaml
  | _ => none

inductive Request where
  | version
  | parse (file : String) (format : OutputFormat) (config : Option String)
  | comments (file : String)
  | keys
  deriving DecidableEq, Repr

inductive UsageError where
  | missingCommand
  | unknownCommand (name : String)
  | unknownOption (name : String)
  | missingValue (option : String)
  | unexpectedValue (option : String)
  | missingFile
  | extraArgument (argument : String)
  | unknownFormat (name : String)
  | noSuchFile (path : String)
  deriving DecidableEq, Repr

def UsageError.message : UsageError → String
  | missingCommand => "Missing command."
  | unknownCommand name => "No such command '" ++ name ++ "'."
  | unknownOption name => "No such option: " ++ name
  | missingValue option => "Option '" ++ option ++ "' requires an argument."
  | unexpectedValue option => "Option '" ++ option ++ "' does not take a value."
  | missingFile => "Missing argument 'FILE'."
  | extraArgument argument => "Got unexpected extra argument (" ++ argument ++ ")"
  | unknownFormat name => "'" ++ name ++ "' is not one of 'tree', 'json', 'yaml'."
  | noSuchFile path => "File '" ++ path ++ "' does not exist."

structure OptionRule where
  name : String
  short : Option Char := none
  takesValue : Bool := false
  deriving DecidableEq, Repr

structure Given where
  options : List (String × String) := []
  others : List String := []
  deriving DecidableEq, Repr

/-- What one argument says: options with their values, and perhaps an option whose
value is the next argument. -/
structure Reading where
  options : List (String × String) := []
  open? : Option String := none
  deriving DecidableEq, Repr

/-- Reads a row of short options. The rest of the row is the value of the first
one that takes a value. -/
def readShort (rules : List OptionRule) : Chars → Except UsageError Reading
  | [] => .ok {}
  | c :: rest =>
    match rules.find? (·.short == some c) with
    | none => .error (.unknownOption (String.ofList ['-', c]))
    | some rule =>
      if rule.takesValue then
        if rest.isEmpty then .ok { open? := some rule.name }
        else .ok { options := [(rule.name, String.ofList rest)] }
      else do
        let more ← readShort rules rest
        return { more with options := (rule.name, "") :: more.options }

def readLong (rules : List OptionRule) (text : Chars) : Except UsageError Reading :=
  let (name, value) :=
    match Text.cutAt? ['='] text with
    | some (name, value) => (String.ofList name, some (String.ofList value))
    | none => (String.ofList text, none)
  match rules.find? (·.name == name), value with
  | none, _ => .error (.unknownOption ("--" ++ name))
  | some rule, some value =>
    if rule.takesValue then .ok { options := [(rule.name, value)] }
    else .error (.unexpectedValue ("--" ++ name))
  | some rule, none =>
    if rule.takesValue then .ok { open? := some rule.name }
    else .ok { options := [(rule.name, "")] }

def readOptions? (rules : List OptionRule) (argument : String) :
    Option (Except UsageError Reading) :=
  match argument.toList with
  | '-' :: '-' :: rest => some (readLong rules rest)
  | '-' :: c :: rest => some (readShort rules (c :: rest))
  | _ => none

/-- Sorts arguments. Behind two dashes there are no options; unless they are
`mixed` with other arguments, there are none behind the first of these either.
`open?` is the option that waits for its value. -/
def sortArguments (rules : List OptionRule) (mixed : Bool) (open? : Option String) :
    List String → Except UsageError Given
  | [] =>
    match open? with
    | some name => .error (.missingValue ("--" ++ name))
    | none => .ok {}
  | argument :: rest =>
    match open? with
    | some name => do
      let given ← sortArguments rules mixed none rest
      return { given with options := (name, argument) :: given.options }
    | none =>
      if argument == "--" then .ok { others := rest }
      else
        match readOptions? rules argument with
        | some reading => do
          let reading ← reading
          let given ← sortArguments rules mixed reading.open? rest
          return { given with options := reading.options ++ given.options }
        | none =>
          if mixed then do
            let given ← sortArguments rules mixed none rest
            return { given with others := argument :: given.others }
          else .ok { others := argument :: rest }

def Given.value? (given : Given) (name : String) : Option String :=
  given.options.reverse.lookup name

/-- The one other argument that a command takes. -/
def Given.file (given : Given) : Except UsageError String :=
  match given.others with
  | [] => .error .missingFile
  | [file] => .ok file
  | _ :: argument :: _ => .error (.extraArgument argument)

def programOptions : List OptionRule := [⟨"version", none, false⟩, ⟨"verbose", some 'v', false⟩]

def parseOptions : List OptionRule := [⟨"format", some 'f', true⟩, ⟨"config", some 'c', true⟩]

def Request.ofParse (arguments : List String) : Except UsageError Request := do
  let given ← sortArguments parseOptions true none arguments
  let file ← given.file
  let name := (given.value? "format").getD "tree"
  match OutputFormat.ofName? name with
  | some format => return .parse file format (given.value? "config")
  | none => throw (.unknownFormat name)

def Request.ofComments (arguments : List String) : Except UsageError Request := do
  let given ← sortArguments [] true none arguments
  return .comments (← given.file)

def Request.ofKeys (arguments : List String) : Except UsageError Request := do
  let given ← sortArguments [] true none arguments
  match given.others with
  | [] => return .keys
  | argument :: _ => throw (.extraArgument argument)

/-- The request that the arguments make. Asking for the version comes before any
command. -/
def Request.ofArguments (arguments : List String) : Except UsageError Request := do
  let given ← sortArguments programOptions false none arguments
  if (given.value? "version").isSome then return .version
  match given.others with
  | [] => throw .missingCommand
  | "parse" :: rest => ofParse rest
  | "comments" :: rest => ofComments rest
  | "keys" :: rest => ofKeys rest
  | name :: _ => throw (.unknownCommand name)

def Request.paths : Request → List String
  | parse file _ config => file :: config.toList
  | comments file => [file]
  | _ => []

end TemplateTree.Command
