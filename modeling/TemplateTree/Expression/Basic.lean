import TemplateTree.Text.Class
import TemplateTree.Number.Binary64

/-!
# Expressions

Trees of the binding language. Every node carries the stretch of offsets it was
written at; a bare name reads a property of an implicit receiver that takes up
no text.
-/

namespace TemplateTree

open Text (Chars)

/-- Offsets from `start` up to `stop`; any integers, since a binding may be
placed at any offset. -/
structure OffsetSpan where
  start : Int
  stop : Int
  deriving DecidableEq, Repr

inductive BinaryOp where
  | or
  | and
  | identical
  | notIdentical
  | equal
  | notEqual
  | lessEqual
  | greaterEqual
  | less
  | greater
  | plus
  | minus
  | times
  | divide
  | modulo
  deriving DecidableEq, Repr

namespace BinaryOp

def symbol : BinaryOp → String
  | or => "||"
  | and => "&&"
  | identical => "==="
  | notIdentical => "!=="
  | equal => "=="
  | notEqual => "!="
  | lessEqual => "<="
  | greaterEqual => ">="
  | less => "<"
  | greater => ">"
  | plus => "+"
  | minus => "-"
  | times => "*"
  | divide => "/"
  | modulo => "%"

/-- How tightly an operator binds, from zero for the loosest. -/
def level : BinaryOp → Nat
  | or => 0
  | and => 1
  | identical | notIdentical | equal | notEqual => 2
  | lessEqual | greaterEqual | less | greater => 3
  | plus | minus => 4
  | times | divide | modulo => 5

/-- The level above all binary operators. -/
def topLevel : Nat := 6

theorem level_lt_topLevel (op : BinaryOp) : op.level < topLevel := by
  cases op <;> decide

end BinaryOp

inductive Literal where
  | null
  | bool (value : Bool)
  | int (value : Nat)
  | float (value : Binary64)
  | string (value : Chars)
  deriving DecidableEq, Repr

inductive Expr where
  | empty (span : OffsetSpan)
  | implicitReceiver (span : OffsetSpan)
  | thisReceiver (span : OffsetSpan)
  | literal (span : OffsetSpan) (value : Literal)
  | propertyRead (span : OffsetSpan) (receiver : Expr) (name : Chars)
  | keyedRead (span : OffsetSpan) (receiver key : Expr)
  | call (span : OffsetSpan) (receiver : Expr) (args : List Expr)
  | binary (span : OffsetSpan) (op : BinaryOp) (left right : Expr)
  | conditional (span : OffsetSpan) (condition whenTrue whenFalse : Expr)
  | not (span : OffsetSpan) (operand : Expr)
  | pipe (span : OffsetSpan) (operand : Expr) (name : Chars) (args : List Expr)
  deriving Repr

namespace Expr

def span : Expr → OffsetSpan
  | empty s | implicitReceiver s | thisReceiver s | literal s _ | propertyRead s _ _
  | keyedRead s _ _ | call s _ _ | binary s _ _ _ | conditional s _ _ _ | not s _
  | pipe s _ _ _ => s

def ofName (span : OffsetSpan) (name : Chars) : Expr :=
  match String.ofList name with
  | "true" => literal span (.bool true)
  | "false" => literal span (.bool false)
  | "null" | "undefined" => literal span .null
  | "this" => thisReceiver span
  | _ => propertyRead span (implicitReceiver ⟨span.start, span.start⟩) name

end Expr

end TemplateTree
