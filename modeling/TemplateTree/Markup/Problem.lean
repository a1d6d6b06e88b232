import TemplateTree.Issue
import TemplateTree.Expression.Binding

/-!
# Problems of a template

The causes that make a template unacceptable, each with the span it is about.
-/

namespace TemplateTree.Markup

open Text (Chars)

inductive Cause where
  | unclosedElement (name : Chars)
  | unexpectedClosingTag (name : Chars)
  | unterminatedComment
  | misplacedVariable
  | binding (error : Expression.BindingError)
  deriving DecidableEq, Repr

def Cause.message : Cause → String
  | unclosedElement name => "Unclosed element <" ++ String.ofList name ++ ">"
  | unexpectedClosingTag name => "Unexpected closing tag </" ++ String.ofList name ++ ">"
  | unterminatedComment => "Unterminated comment"
  | misplacedVariable => "\"let-\" is only supported on ng-template elements"
  | binding error => error.message

structure Problem where
  cause : Cause
  span : Span
  deriving DecidableEq, Repr

def Problem.toIssue (problem : Problem) : Issue := ⟨problem.cause.message, some problem.span⟩

end TemplateTree.Markup
