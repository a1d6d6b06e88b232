import TemplateTree.Constant.Value
import TemplateTree.Text.Word

/-!
# Actions

A tag may name an action with arguments, which are constants.
-/

namespace TemplateTree.Console

open Text (Chars)

/-- The arguments of an action as a constant is written: what stands in parentheses
behind a name, an empty tuple behind a name alone, and anything else as a whole. -/
def actionArguments (parameters : Chars) : Chars :=
  let text := Text.trim parameters
  let behind := text.dropWhile fun c => Text.isWord c || c == '.'
  if behind.isEmpty then ['(', ')']
  else if behind.head? == some '(' && behind.getLast? == some ')' && !behind.contains '\n' then
    behind
  else text

def isAction (parameters : Chars) : Bool :=
  parameters.isEmpty || Constant.isConstant (actionArguments parameters)

end TemplateTree.Console
