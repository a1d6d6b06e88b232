import TemplateTree.Source.Loc

/-!
# Comments

Markup has block comments only. The comments of a template are handed on as
tokens in source order.
-/

namespace TemplateTree

open Text (Chars)

structure Comment where
  value : Chars
  span : Span
  deriving DecidableEq, Repr

structure CommentToken where
  text : Chars
  loc : Loc
  start : Nat
  stop : Nat
  deriving DecidableEq, Repr

def Comment.toToken (comment : Comment) : CommentToken :=
  { text := comment.value
    loc := comment.span.toLoc
    start := comment.span.start.offset
    stop := comment.span.stop.offset }

/-- Tokens by start offset; those that start together keep their order. -/
def CommentToken.ofComments (comments : List Comment) : List CommentToken :=
  (comments.map Comment.toToken).mergeSort fun a b => a.start ≤ b.start

end TemplateTree
