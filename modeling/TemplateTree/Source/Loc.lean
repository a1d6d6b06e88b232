import TemplateTree.Source.Basic

/-!
# Locations for readers

Analysis results count lines from one and columns from zero.
-/

namespace TemplateTree

structure Position where
  line : Nat := 0
  column : Nat := 0
  deriving DecidableEq, Repr

structure Loc where
  start : Position := {}
  stop : Position := {}
  deriving DecidableEq, Repr

def Location.toPosition (place : Location) : Position := ⟨place.line + 1, place.column⟩

def Span.toLoc (span : Span) : Loc := ⟨span.start.toPosition, span.stop.toPosition⟩

end TemplateTree
