import TemplateTree.Command.Run

/-!
# Command line

Reads the files that a request names, runs it and prints the result.
-/

namespace TemplateTree

open Command

def readEntry (path : String) : IO (Option Entry) := do
  try
    let text ← IO.FS.readFile path
    return some (.file text.toList)
  catch
  | .inappropriateType .. => return some .directory
  | _ => return none

def readEntries : List String → IO (List (String × Entry))
  | [] => return []
  | path :: rest => do
    let entry ← readEntry path
    let others ← readEntries rest
    return (entry.map fun entry => (path, entry)).toList ++ others

def requestedPaths (arguments : List String) : List String :=
  match Request.ofArguments arguments with
  | .ok request => request.paths
  | .error _ => []

end TemplateTree

open TemplateTree Command in
def main (arguments : List String) : IO UInt32 := do
  let entries ← readEntries (requestedPaths arguments)
  let outcome := run (entries.lookup ·) arguments
  IO.print (String.ofList outcome.output)
  match outcome with
  | .refused error => IO.eprintln ("Error: " ++ error.message)
  | .failed fault => IO.eprintln ("Error: " ++ fault.message)
  | _ => pure ()
  return UInt32.ofNat outcome.exitCode
