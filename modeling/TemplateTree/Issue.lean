import TemplateTree.Source.Basic

/-!
# Issues

An issue is a message that may point into the source. A list of issues is
reported in one summary.
-/

namespace TemplateTree

structure Issue where
  message : String
  span : Option Span
  deriving DecidableEq, Repr

namespace Issue

def describe (url : String) (issue : Issue) : String :=
  match issue.span with
  | none => issue.message
  | some span =>
    issue.message ++ " (" ++ url ++ "@" ++ toString (span.start.line + 1) ++ ":"
      ++ toString span.start.column ++ ")"

/-- One issue stands on the first line; any other number is listed below it. -/
def summary (url : String) : List Issue → String
  | [issue] => "Template parse error: " ++ issue.describe url
  | issues =>
    "\n".intercalate <|
      ("Template parse errors (" ++ toString issues.length ++ "):")
        :: issues.map fun issue => "  - " ++ issue.describe url

end Issue

end TemplateTree
