import TemplateTree.Text.Class

/-!
# Searching and cutting text

The first occurrence of a pattern cuts a text in two, and nothing of the text is
lost.
-/

namespace TemplateTree.Text

/-- What stands before and after the first occurrence of a pattern. -/
def cutAt? (pattern : Chars) : Chars → Option (Chars × Chars)
  | [] => if pattern.isEmpty then some ([], []) else none
  | c :: rest =>
    if pattern.isPrefixOf (c :: rest) then some ([], (c :: rest).drop pattern.length)
    else (cutAt? pattern rest).map fun (before, after) => (c :: before, after)

def contains (pattern text : Chars) : Bool := (cutAt? pattern text).isSome

theorem cutAt?_eq_some {pattern text before after : Chars}
    (h : cutAt? pattern text = some (before, after)) : text = before ++ pattern ++ after := by
  induction text generalizing before with
  | nil =>
    cases pattern <;> simp_all [cutAt?]
  | cons c rest ih =>
    by_cases hp : pattern.isPrefixOf (c :: rest)
    · obtain ⟨tail, ht⟩ := List.isPrefixOf_iff_prefix.mp hp
      simp only [cutAt?, hp, ↓reduceIte, Option.some.injEq, Prod.mk.injEq] at h
      simp [← h.1, ← h.2, ← ht]
    · simp only [cutAt?, hp, Bool.false_eq_true, ↓reduceIte, Option.map_eq_some_iff] at h
      obtain ⟨⟨b, a⟩, hc, he⟩ := h
      obtain ⟨rfl, rfl⟩ := Prod.mk.inj he
      simp [ih hc]

theorem length_after_cutAt? {pattern text before after : Chars}
    (h : cutAt? pattern text = some (before, after)) :
    before.length + pattern.length + after.length = text.length := by
  simp [cutAt?_eq_some h, Nat.add_assoc]

def splitAt (mark : Char) : Chars → List Chars
  | [] => [[]]
  | c :: rest =>
    if c == mark then [] :: splitAt mark rest
    else
      match splitAt mark rest with
      | first :: more => (c :: first) :: more
      | [] => [[c]]

/-- Every carriage return that a line feed follows is dropped. -/
def unixLines : Chars → Chars
  | '\r' :: '\n' :: rest => '\n' :: unixLines rest
  | c :: rest => c :: unixLines rest
  | [] => []

def universalLines : Chars → Chars
  | '\r' :: '\n' :: rest => '\n' :: universalLines rest
  | '\r' :: rest => '\n' :: universalLines rest
  | c :: rest => c :: universalLines rest
  | [] => []

end TemplateTree.Text
