import TemplateTree.Proofs.Acceptance
import TemplateTree.Proofs.Pieces

/-!
# Printed markup

Markup as a forest of items, and how it is printed. The scanner cuts a printed
forest at the borders at which it was put together, whatever stands inside
quotes and comments.
-/

namespace TemplateTree.Markup

open Text (Chars isBlank)
open Expression (isNameStart isNameStart_range takeWhile_append_stop)

inductive Item where
  | text (value : Chars)
  | comment (value : Chars)
  | element (name : Chars) (attributes : List (Chars × Chars)) (selfClosing : Bool)
      (children : List Item)
  deriving Repr

-- ---------------------------------------------------------------------------
-- Printing
-- ---------------------------------------------------------------------------

def printAttribute (attr : Chars × Chars) : Chars :=
  attr.1 ++ '=' :: '\x22' :: (attr.2 ++ ['\x22'])

def printAttributes (attributes : List (Chars × Chars)) : Chars :=
  attributes.flatMap fun attr => ' ' :: printAttribute attr

def printStartTag (name : Chars) (attributes : List (Chars × Chars)) (selfClosing : Bool) :
    Chars :=
  '<' :: (name ++ (printAttributes attributes ++ if selfClosing then ['/', '>'] else ['>']))

def printEndTag (name : Chars) : Chars := '<' :: '/' :: (name ++ ['>'])

mutual

/-- Void and self-closing elements are printed as their start tag. -/
def Item.print : Item → Chars
  | .text value => value
  | .comment value => commentOpening ++ value ++ commentClosing
  | .element name attributes selfClosing children =>
    printStartTag name attributes selfClosing ++
      if selfClosing || isVoid name then [] else Item.printAll children ++ printEndTag name

def Item.printAll : List Item → Chars
  | [] => []
  | item :: rest => item.print ++ Item.printAll rest

end

-- ---------------------------------------------------------------------------
-- What can be printed
-- ---------------------------------------------------------------------------

def Item.isText : Item → Bool
  | .text _ => true
  | _ => false

structure IsAttribute (attr : Chars × Chars) : Prop where
  name_ne_nil : attr.1 ≠ []
  name : ∀ c ∈ attr.1, isAttributeChar c = true
  value : '\x22' ∉ attr.2

mutual

/-- No item can be mistaken for another one once it is printed. -/
def Item.Formed : Item → Prop
  | .text value => value ≠ [] ∧ '<' ∉ value
  | .comment value => ¬ commentClosing <:+: value
  | .element name attributes selfClosing children =>
    IsTagName name ∧ (∀ attr ∈ attributes, IsAttribute attr) ∧
      ((selfClosing || isVoid name) = true → children = []) ∧ Item.AllFormed children

/-- No two texts stand side by side. -/
def Item.AllFormed : List Item → Prop
  | [] => True
  | item :: rest =>
    item.Formed ∧ (item.isText = true → rest.head?.any Item.isText = false) ∧ Item.AllFormed rest

end

mutual

def Item.Accepted : Item → Prop
  | .text value => ∀ s ∈ markers value, MarkerAccepted s
  | .comment _ => True
  | .element name attributes _ children =>
    (∀ attr ∈ attributes,
      (∀ s ∈ bindingSources attr.1 attr.2, Text.allBlank s = true ∨ TemplateTree.Accepted s) ∧
      (∀ s ∈ markerSources attr.1 attr.2, MarkerAccepted s) ∧
      (DeclaresVariable attr.1 → name = templateTag)) ∧ Item.AllAccepted children

def Item.AllAccepted : List Item → Prop
  | [] => True
  | item :: rest => item.Accepted ∧ Item.AllAccepted rest

end

-- Both conditions can be evaluated.

instance (name : Chars) : Decidable (IsTagName name) :=
  match name with
  | [] => inferInstanceAs (Decidable False)
  | c :: rest =>
    decidable_of_iff (c.isAlpha = true ∧ rest.all isTagChar = true)
      (and_congr_right fun _ => List.all_eq_true)

instance (attr : Chars × Chars) : Decidable (IsAttribute attr) :=
  decidable_of_iff
    (attr.1 ≠ [] ∧ attr.1.all isAttributeChar = true ∧ '\x22' ∉ attr.2)
    ⟨fun ⟨hne, hname, hvalue⟩ => ⟨hne, List.all_eq_true.mp hname, hvalue⟩,
      fun ⟨hne, hname, hvalue⟩ => ⟨hne, List.all_eq_true.mpr hname, hvalue⟩⟩

instance (source : Chars) : Decidable (TemplateTree.Accepted source) :=
  decidable_of_iff ((Expr.parse source 0).isOk = true)
    ⟨Expression.exists_ok_of_isOk, fun ⟨_, he⟩ => he ▸ rfl⟩

instance (source : Chars) : Decidable (MarkerAccepted source) :=
  inferInstanceAs (Decidable (Text.allBlank source = false ∧ TemplateTree.Accepted source))

instance (name : Chars) : Decidable (DeclaresVariable name) :=
  match h : Form.ofName name with
  | .letVariable v => isTrue ⟨v, h⟩
  | .twoWay _ | .property _ | .event _ | .directive _ | .reference _ | .plain =>
    isFalse fun ⟨_, hv⟩ => nomatch h.symm.trans hv

mutual

def Item.decideFormed : (item : Item) → Decidable item.Formed
  | .text value => inferInstanceAs (Decidable (value ≠ [] ∧ '<' ∉ value))
  | .comment value => inferInstanceAs (Decidable (¬ commentClosing <:+: value))
  | .element name attributes selfClosing children =>
    have := Item.decideAllFormed children
    inferInstanceAs (Decidable (IsTagName name ∧ (∀ attr ∈ attributes, IsAttribute attr) ∧
      ((selfClosing || isVoid name) = true → children = []) ∧ Item.AllFormed children))

def Item.decideAllFormed : (items : List Item) → Decidable (Item.AllFormed items)
  | [] => isTrue trivial
  | item :: rest =>
    have := item.decideFormed
    have := Item.decideAllFormed rest
    inferInstanceAs (Decidable (item.Formed ∧
      (item.isText = true → rest.head?.any Item.isText = false) ∧ Item.AllFormed rest))

end

mutual

def Item.decideAccepted : (item : Item) → Decidable item.Accepted
  | .text value => inferInstanceAs (Decidable (∀ s ∈ markers value, MarkerAccepted s))
  | .comment _ => isTrue trivial
  | .element name attributes _ children =>
    have := Item.decideAllAccepted children
    inferInstanceAs (Decidable ((∀ attr ∈ attributes,
      (∀ s ∈ bindingSources attr.1 attr.2, Text.allBlank s = true ∨ TemplateTree.Accepted s) ∧
      (∀ s ∈ markerSources attr.1 attr.2, MarkerAccepted s) ∧
      (DeclaresVariable attr.1 → name = templateTag)) ∧ Item.AllAccepted children))

def Item.decideAllAccepted : (items : List Item) → Decidable (Item.AllAccepted items)
  | [] => isTrue trivial
  | item :: rest =>
    have := item.decideAccepted
    have := Item.decideAllAccepted rest
    inferInstanceAs (Decidable (item.Accepted ∧ Item.AllAccepted rest))

end

instance (items : List Item) : Decidable (Item.AllFormed items) := Item.decideAllFormed items

instance (items : List Item) : Decidable (Item.AllAccepted items) := Item.decideAllAccepted items

-- ---------------------------------------------------------------------------
-- The pieces of printed items
-- ---------------------------------------------------------------------------

/-- An attribute as it is written: one blank before it, none inside, double quotes. -/
def printedAttribute (attr : Chars × Chars) : Attribute :=
  ⟨[' '], attr.1, some ⟨[], [], .double, attr.2⟩⟩

def printedTag (name : Chars) (attributes : List (Chars × Chars)) (selfClosing : Bool) :
    StartTag :=
  ⟨name, attributes.map printedAttribute, [], selfClosing⟩

@[simp] theorem written_printedAttribute (attr : Chars × Chars) :
    (printedAttribute attr).written = ' ' :: printAttribute attr := by
  simp [printedAttribute, Attribute.written, Assignment.written, Quoting.marks, printAttribute]

theorem writtenAttributes_printed (attributes : List (Chars × Chars)) :
    writtenAttributes (attributes.map printedAttribute) = printAttributes attributes := by
  induction attributes with
  | nil => rfl
  | cons attr rest ih =>
    simp [writtenAttributes, ih, printAttributes]

@[simp] theorem written_printedTag (name : Chars) (attributes : List (Chars × Chars))
    (selfClosing : Bool) :
    (printedTag name attributes selfClosing).written =
      printStartTag name attributes selfClosing := by
  simp only [printedTag, StartTag.written, writtenAttributes_printed, printStartTag,
    List.nil_append]
  rfl

mutual

def Item.pieces : Item → List Piece
  | .text value => [.text value]
  | .comment value => [.construct (.comment value)]
  | .element name attributes selfClosing children =>
    .construct (.startTag (printedTag name attributes selfClosing)) ::
      if selfClosing || isVoid name then []
      else Item.piecesOf children ++ [.construct (.endTag name [])]

def Item.piecesOf : List Item → List Piece
  | [] => []
  | item :: rest => item.pieces ++ Item.piecesOf rest

end

-- ---------------------------------------------------------------------------
-- Reading printed constructs
-- ---------------------------------------------------------------------------

section
variable {name value rest : Chars} {attributes : List (Chars × Chars)} {selfClosing : Bool}

/-- The end of a comment does not begin inside its value: the mark overlaps
itself nowhere. -/
theorem cutAt?_commentClosing (h : ¬ commentClosing <:+: value) :
    Text.cutAt? commentClosing (value ++ (commentClosing ++ rest)) = some (value, rest) := by
  induction value with
  | nil => simp [commentClosing, Text.cutAt?]
  | cons c value ih =>
    have htail : ¬ commentClosing <:+: value := fun hi => h (List.infix_cons hi)
    have hhere : commentClosing.isPrefixOf (c :: (value ++ (commentClosing ++ rest))) = false := by
      rw [Bool.eq_false_iff, ne_eq, List.isPrefixOf_iff_prefix]
      intro hp
      rcases value with - | ⟨d, - | ⟨e, value⟩⟩
      · simp [commentClosing] at hp
      · simp [commentClosing] at hp
      · refine h ⟨[], value, ?_⟩
        simp only [commentClosing, List.cons_append, List.cons_prefix_cons] at hp ⊢
        obtain ⟨rfl, rfl, rfl, -⟩ := hp
        rfl
    rw [List.cons_append, Text.cutAt?, hhere, ih htail]
    rfl

theorem read?_comment (h : ¬ commentClosing <:+: value) (rest : Chars) :
    Construct.read? ((Item.comment value).print ++ rest) = some (.comment value, rest) := by
  simp only [Item.print, commentOpening, List.cons_append, List.nil_append, List.append_assoc,
    Construct.read?, cutAt?_commentClosing h]
  rfl

theorem readTagName?_append (h : IsTagName name) (hr : ∀ c ∈ rest.head?, isTagChar c = false) :
    readTagName? (name ++ rest) = some (name, rest) := by
  cases name with
  | nil => cases h
  | cons c tail =>
    obtain ⟨hc, ht⟩ := h
    obtain ⟨htake, hdrop⟩ := takeWhile_append_stop ht hr
    simp [readTagName?, hc, htake, hdrop]

theorem read?_endTag (h : IsTagName name) (rest : Chars) :
    Construct.read? (printEndTag name ++ rest) = some (.endTag name [], rest) := by
  have hname : readTagName? (name ++ '>' :: rest) = some (name, '>' :: rest) :=
    readTagName?_append h (by simp; decide)
  have hblank : isBlank '>' = false := by decide
  simp only [printEndTag, List.cons_append, List.append_assoc, List.nil_append, Construct.read?,
    readEndTag?, hname, Option.bind_eq_bind, Option.bind_some]
  simp [hblank]

theorem readAttributes?_end (h : ∀ c ∈ rest.head?, isBlank c = false) :
    readAttributes? rest = some ([], rest) := by
  rw [readAttributes?]
  have hdrop : rest.dropWhile isBlank = rest := (takeWhile_append_stop (x := []) (by simp) h).2
  have htake : rest.takeWhile isBlank = [] := (takeWhile_append_stop (x := []) (by simp) h).1
  split
  · rfl
  · simp [htake]

theorem readAssignment?_printed (hq : '\x22' ∉ value) (rest : Chars) :
    readAssignment? ('=' :: '\x22' :: (value ++ '\x22' :: rest)) =
      some (some ⟨[], [], .double, value⟩, rest) := by
  have heq : isBlank '=' = false := by decide
  have hquote : isBlank '\x22' = false := by decide
  obtain ⟨htake, hdrop⟩ := takeWhile_append_stop (p := (· != '\x22')) (x := value)
    (y := '\x22' :: rest) (by intro c hc; simpa using ne_of_mem_of_not_mem hc hq)
    (by simp)
  simp [readAssignment?, heq, hquote, readValue?, readQuoted?, htake, hdrop]

theorem readAttributes?_step {text gap behind : Chars} {c : Char} {assigned : Option Assignment}
    (hgap : text.takeWhile isBlank = gap) (hne : gap ≠ [])
    (hb : text.dropWhile isBlank = c :: behind) (hc : isAttributeChar c = true)
    (ha : readAssignment? (behind.dropWhile isAttributeChar) = some (assigned, rest)) :
    readAttributes? text = (readAttributes? rest).map fun (more, rest) =>
      (⟨gap, c :: behind.takeWhile isAttributeChar, assigned⟩ :: more, rest) := by
  rw [readAttributes?]
  split
  · rename_i hnil
    rw [hnil] at hb
    cases hb
  · rename_i hcons
    rw [hcons] at hb
    cases hb
    subst hgap
    rw [dif_pos (by simp [hne, hc])]
    split
    · rename_i hnone
      rw [hnone] at ha
      cases ha
    · rename_i hsome
      rw [hsome] at ha
      cases ha
      rfl

theorem readAttributes?_printed (h : ∀ attr ∈ attributes, IsAttribute attr)
    (hr : ∀ c ∈ rest.head?, isBlank c = false) :
    readAttributes? (printAttributes attributes ++ rest) =
      some (attributes.map printedAttribute, rest) := by
  induction attributes with
  | nil => exact readAttributes?_end hr
  | cons attr more ih =>
    obtain ⟨hfirst, hmore⟩ := List.forall_mem_cons.mp h
    obtain ⟨name, value⟩ := attr
    obtain ⟨hne, hname, hvalue⟩ := hfirst
    obtain ⟨c, tail, rfl⟩ := List.exists_cons_of_ne_nil hne
    obtain ⟨hc, htail⟩ := List.forall_mem_cons.mp hname
    have hblank : isBlank c = false := by
      simp only [isAttributeChar, Bool.not_eq_true', Bool.or_eq_false_iff] at hc
      exact hc.1.1.1.1.1
    have hspace : isBlank ' ' = true := by decide
    have hsign : isAttributeChar '=' = false := by decide
    have htext : printAttributes ((c :: tail, value) :: more) ++ rest =
        ' ' :: c ::
          (tail ++ '=' :: '\x22' :: (value ++ '\x22' :: (printAttributes more ++ rest))) := by
      simp [printAttributes, printAttribute]
    obtain ⟨htake, hdrop⟩ := takeWhile_append_stop (p := isAttributeChar)
      (y := '=' :: '\x22' :: (value ++ '\x22' :: (printAttributes more ++ rest))) htail
      (by simp [hsign])
    have hread := readAssignment?_printed hvalue (printAttributes more ++ rest)
    rw [← hdrop] at hread
    rw [htext]
    generalize tail ++ '=' :: '\x22' :: (value ++ '\x22' :: (printAttributes more ++ rest)) = behind
      at htake hread ⊢
    have hbehind : (' ' :: c :: behind).dropWhile isBlank = c :: behind := by
      simp [hspace, hblank]
    have hgap : (' ' :: c :: behind).takeWhile isBlank = [' '] := by
      simp [hspace, hblank]
    rw [readAttributes?_step hgap (by simp) hbehind hc hread, ih hmore, htake]
    rfl

theorem readTagEnd?_printed (selfClosing : Bool) (rest : Chars) :
    readTagEnd? ((if selfClosing then ['/', '>'] else ['>']) ++ rest) =
      some ([], selfClosing, rest) := by
  have hslash : isBlank '/' = false := by decide
  have hclose : isBlank '>' = false := by decide
  cases selfClosing <;> simp [readTagEnd?, hslash, hclose]

theorem read?_startTag (h : IsTagName name) (ha : ∀ attr ∈ attributes, IsAttribute attr)
    (selfClosing : Bool) (rest : Chars) :
    Construct.read? (printStartTag name attributes selfClosing ++ rest) =
      some (.startTag (printedTag name attributes selfClosing), rest) := by
  -- Neither the attributes nor the end of the tag can be taken for more of the name.
  have hbehind : ∀ c ∈ (printAttributes attributes ++
      ((if selfClosing then ['/', '>'] else ['>']) ++ rest)).head?, isTagChar c = false := by
    intro c hc
    have hcases : c = ' ' ∨ c = '/' ∨ c = '>' := by
      cases attributes with
      | nil => cases selfClosing <;> simp_all [printAttributes, eq_comm]
      | cons attr more => simp_all [printAttributes, eq_comm]
    rcases hcases with rfl | rfl | rfl <;> decide
  have hend : ∀ c ∈ ((if selfClosing then ['/', '>'] else ['>']) ++ rest).head?,
      isBlank c = false := by
    cases selfClosing <;> simp <;> decide
  have hread : readStartTag? (name ++ (printAttributes attributes ++
      ((if selfClosing then ['/', '>'] else ['>']) ++ rest))) =
        some (printedTag name attributes selfClosing, rest) := by
    simp only [readStartTag?, readTagName?_append h hbehind, Option.bind_eq_bind,
      Option.bind_some, readAttributes?_printed ha hend, readTagEnd?_printed]
    rfl
  obtain ⟨c, tail, rfl⟩ : ∃ c tail, name = c :: tail := by
    cases name with
    | nil => cases h
    | cons c tail => exact ⟨c, tail, rfl⟩
  have halpha : c.isAlpha = true := h.1
  have hc := isNameStart_range (show isNameStart c = true by simp [isNameStart, halpha])
  simp only [printStartTag, List.cons_append, List.append_assoc] at hread ⊢
  rw [Construct.read?]
  · rw [hread]
    rfl
  · intro _ hslash
    obtain ⟨rfl, -⟩ := List.cons.inj hslash
    revert hc
    decide
  · intro _ hmark
    obtain ⟨rfl, -⟩ := List.cons.inj hmark
    revert hc
    decide

end

-- ---------------------------------------------------------------------------
-- Scanning printed items
-- ---------------------------------------------------------------------------

section
variable {before value text rest : Chars} {construct : Construct}

theorem piecesFrom_construct (h : Construct.read? text = some (construct, rest)) :
    piecesFrom before text =
      textPiece before.reverse ++ .construct construct :: piecesFrom [] rest := by
  rw [piecesFrom]
  split
  · rename_i hread
    rw [h] at hread
    cases hread
    rfl
  · rename_i hread
    rw [h] at hread
    cases hread

theorem piecesFrom_nil : piecesFrom before [] = textPiece before.reverse := by
  rw [piecesFrom]
  split
  · rename_i hread
    cases hread
  · rfl

theorem piecesFrom_text (h : '<' ∉ value) :
    piecesFrom before (value ++ rest) = piecesFrom (value.reverse ++ before) rest := by
  induction value generalizing before with
  | nil => rfl
  | cons c value ih =>
    rw [List.mem_cons, not_or] at h
    have hread : Construct.read? (c :: (value ++ rest)) = none := by
      unfold Construct.read?
      split
      · rename_i heq
        exact absurd (List.cons.inj heq).1 (Ne.symm h.1)
      · rename_i heq
        exact absurd (List.cons.inj heq).1 (Ne.symm h.1)
      · rename_i heq
        exact absurd (List.cons.inj heq).1 (Ne.symm h.1)
      · rfl
    rw [List.cons_append, piecesFrom]
    split
    · rename_i hsome
      rw [hread] at hsome
      cases hsome
    · show piecesFrom (c :: before) (value ++ rest) = _
      rw [ih h.2, List.reverse_cons, List.append_assoc]
      rfl

def AtBorder (text : Chars) : Prop :=
  text = [] ∨ ∃ construct rest, Construct.read? text = some (construct, rest)

theorem piecesFrom_border (h : AtBorder text) :
    piecesFrom before text = textPiece before.reverse ++ piecesFrom [] text := by
  rcases h with rfl | ⟨construct, rest, h⟩
  · rw [piecesFrom_nil, piecesFrom_nil]
    simp [textPiece]
  · rw [piecesFrom_construct h, piecesFrom_construct h]
    simp [textPiece]

theorem Item.Formed.atBorder {item : Item} (h : item.Formed) (ht : item.isText = false)
    (rest : Chars) : AtBorder (item.print ++ rest) := by
  cases item with
  | text value => cases ht
  | comment value => exact .inr ⟨_, _, read?_comment h rest⟩
  | element name attributes selfClosing children =>
    rw [Item.print, List.append_assoc]
    exact .inr ⟨_, _, read?_startTag h.1 h.2.1 selfClosing _⟩

theorem Item.AllFormed.atBorder {items : List Item} (h : AllFormed items)
    (ht : items.head?.any isText = false) (hr : AtBorder rest) :
    AtBorder (printAll items ++ rest) := by
  cases items with
  | nil => exact hr
  | cons item more =>
    rw [printAll, List.append_assoc]
    exact h.1.atBorder (by simpa using ht) _

end

mutual

theorem Item.piecesFrom_print (item : Item) (h : item.Formed) {rest : Chars}
    (hr : item.isText = true → AtBorder rest) :
    piecesFrom [] (item.print ++ rest) = item.pieces ++ piecesFrom [] rest := by
  match item with
  | .text value =>
    rw [Item.print, piecesFrom_text h.2, piecesFrom_border (hr rfl)]
    simp [textPiece, h.1, Item.pieces]
  | .comment value =>
    rw [piecesFrom_construct (read?_comment h rest)]
    simp [textPiece, Item.pieces]
  | .element name attributes selfClosing children =>
    obtain ⟨hname, hattrs, -, hchildren⟩ := h
    rw [Item.print, Item.pieces, List.append_assoc,
      piecesFrom_construct (read?_startTag hname hattrs selfClosing _)]
    split
    · simp [textPiece]
    · have hend := read?_endTag hname rest
      rw [List.append_assoc, Item.piecesFrom_printAll children hchildren (.inr ⟨_, _, hend⟩),
        piecesFrom_construct hend]
      simp [textPiece]

theorem Item.piecesFrom_printAll (items : List Item) (h : Item.AllFormed items) {rest : Chars}
    (hr : AtBorder rest) :
    piecesFrom [] (Item.printAll items ++ rest) = Item.piecesOf items ++ piecesFrom [] rest := by
  match items with
  | [] => rfl
  | item :: more =>
    obtain ⟨hitem, hnext, hmore⟩ := h
    rw [Item.printAll, Item.piecesOf, List.append_assoc, List.append_assoc,
      Item.piecesFrom_print item hitem fun ht => hmore.atBorder (hnext ht) hr,
      Item.piecesFrom_printAll more hmore hr]

end

theorem pieces_printAll {items : List Item} (h : Item.AllFormed items) :
    pieces (Item.printAll items) = Item.piecesOf items := by
  have hall := Item.piecesFrom_printAll items h (.inl rfl)
  rw [piecesFrom_nil, List.append_nil] at hall
  simpa [textPiece, pieces] using hall

end TemplateTree.Markup
