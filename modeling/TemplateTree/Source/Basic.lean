import TemplateTree.Text.Class

/-!
# Sources, locations and spans

A source is a text together with the name it was read under and the offsets at
which its lines start. Any integer can be located in it: offsets outside the
text are moved to its nearer end.
-/

namespace TemplateTree

open Text (Chars)

/-- A place in a text; lines and columns count from zero. -/
structure Location where
  offset : Nat
  line : Nat
  column : Nat
  deriving DecidableEq, Repr

/-- The stretch of a text from `start` up to, but not including, `stop`. -/
structure Span where
  start : Location
  stop : Location
  deriving DecidableEq, Repr

def lineStartsFrom (offset : Nat) : Chars → List Nat
  | [] => []
  | c :: rest =>
    if c = '\n' then (offset + 1) :: lineStartsFrom (offset + 1) rest
    else lineStartsFrom (offset + 1) rest

structure Source where
  text : Chars
  url : String
  lineStarts : List Nat := 0 :: lineStartsFrom 0 text
  lineStarts_eq : lineStarts = 0 :: lineStartsFrom 0 text := by rfl

namespace Source

def ofText (text : Chars) (url : String) : Source := { text, url }

/-- The nearest offset inside the text. -/
def clamp (source : Source) (offset : Int) : Nat := min offset.toNat source.text.length

/-- The location of an offset, measured from the last line start at or before it. -/
def locate (source : Source) (offset : Int) : Location :=
  let inside := source.clamp offset
  let passed := source.lineStarts.takeWhile (· ≤ inside)
  { offset := inside, line := passed.length - 1, column := inside - passed.getLastD 0 }

def span (source : Source) (start stop : Int) : Span :=
  ⟨source.locate start, source.locate stop⟩

/-- The text that a span covers; empty for a reversed span. -/
def textOf (source : Source) (span : Span) : Chars :=
  (source.text.take span.stop.offset).drop span.start.offset

/-- How a place is named inside bindings: `url@line:column`. -/
def locationName (source : Source) (offset : Int) : String :=
  let place := source.locate offset
  source.url ++ "@" ++ toString place.line ++ ":" ++ toString place.column

@[simp] theorem locate_offset (source : Source) (offset : Int) :
    (source.locate offset).offset = source.clamp offset := rfl

end Source

end TemplateTree
