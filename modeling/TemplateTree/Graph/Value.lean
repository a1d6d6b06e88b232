import TemplateTree.Number.Binary64

/-!
# Values of tree fields

Fields hold plain data or refer to records. Lists, tuples and dictionaries are
values; only records have an identity, given by their number.
-/

namespace TemplateTree

abbrev RecordId := Nat

inductive Value where
  | null
  | bool (value : Bool)
  | int (value : Int)
  | float (value : Binary64)
  | str (value : String)
  | bytes (value : List UInt8)
  | enum (type member : String) (value : Int)
  | list (items : List Value)
  | tuple (items : List Value)
  | dict (entries : List (Value × Value))
  | ref (id : RecordId)
  deriving Repr

namespace Value

def isNull : Value → Bool
  | null => true
  | _ => false

def str? : Value → Option String
  | str text => some text
  | _ => none

def items? : Value → Option (List Value)
  | list items => some items
  | tuple items => some items
  | _ => none

mutual

def mapRefs (f : RecordId → RecordId) : Value → Value
  | list items => list (mapRefsList f items)
  | tuple items => tuple (mapRefsList f items)
  | dict entries => dict (mapRefsEntries f entries)
  | ref id => ref (f id)
  | null => null
  | bool b => bool b
  | int i => int i
  | float x => float x
  | str s => str s
  | bytes b => bytes b
  | enum type member value => enum type member value

def mapRefsList (f : RecordId → RecordId) : List Value → List Value
  | [] => []
  | v :: rest => v.mapRefs f :: mapRefsList f rest

def mapRefsEntry (f : RecordId → RecordId) : Value × Value → Value × Value
  | (k, v) => (k.mapRefs f, v.mapRefs f)

def mapRefsEntries (f : RecordId → RecordId) : List (Value × Value) → List (Value × Value)
  | [] => []
  | e :: rest => mapRefsEntry f e :: mapRefsEntries f rest

end

end Value

end TemplateTree
