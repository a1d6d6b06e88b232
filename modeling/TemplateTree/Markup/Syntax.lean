import TemplateTree.Text.Blank
import TemplateTree.Text.Word
import TemplateTree.Text.Search

/-!
# Written markup

Comments, end tags and start tags as they are written, with every blank and
quote kept, so that a construct can be written back. `Construct.read?` finds the
construct in front of a text; `Construct.read?_written` says that it loses
nothing.
-/

namespace TemplateTree.Markup

open Text (Chars isBlank)

inductive Quoting where
  | double
  | single
  | bare
  deriving DecidableEq, Repr

def Quoting.marks : Quoting → Chars
  | double => ['\x22']
  | single => ['\x27']
  | bare => []

structure Assignment where
  beforeSign : Chars
  afterSign : Chars
  quoting : Quoting
  text : Chars
  deriving DecidableEq, Repr

structure Attribute where
  gap : Chars
  name : Chars
  value : Option Assignment
  deriving DecidableEq, Repr

structure StartTag where
  name : Chars
  attributes : List Attribute
  tail : Chars
  selfClosing : Bool
  deriving DecidableEq, Repr

inductive Construct where
  | comment (value : Chars)
  | endTag (name tail : Chars)
  | startTag (tag : StartTag)
  deriving DecidableEq, Repr

def Assignment.written (a : Assignment) : Chars :=
  a.beforeSign ++ '=' :: (a.afterSign ++ (a.quoting.marks ++ (a.text ++ a.quoting.marks)))

def Attribute.written (a : Attribute) : Chars :=
  a.gap ++ (a.name ++ (a.value.map Assignment.written).getD [])

def writtenAttributes : List Attribute → Chars
  | [] => []
  | a :: rest => a.written ++ writtenAttributes rest

def StartTag.written (tag : StartTag) : Chars :=
  '<' :: (tag.name ++ (writtenAttributes tag.attributes
    ++ (tag.tail ++ if tag.selfClosing then ['/', '>'] else ['>'])))

def commentOpening : Chars := ['<', '!', '-', '-']

def commentClosing : Chars := ['-', '-', '>']

def Construct.written : Construct → Chars
  | comment value => commentOpening ++ value ++ commentClosing
  | endTag name tail => '<' :: '/' :: (name ++ (tail ++ ['>']))
  | startTag tag => tag.written

def isTagStart (c : Char) : Bool := c.isAlpha

def isTagChar (c : Char) : Bool := Text.isWord c || c == ':' || c == '.' || c == '-'

def isAttributeChar (c : Char) : Bool :=
  !(isBlank c || c == '\x22' || c == '\x27' || c == '>' || c == '/' || c == '=')

def isBareChar (c : Char) : Bool :=
  !(isBlank c || c == '\x22' || c == '\x27' || c == '=' || c == '<' || c == '>' || c == '\x60')

def readQuoted? (quote : Char) (text : Chars) : Option (Chars × Chars) :=
  match text.dropWhile (· != quote) with
  | [] => none
  | _ :: rest => some (text.takeWhile (· != quote), rest)

def readValue? : Chars → Option (Quoting × Chars × Chars)
  | [] => none
  | c :: rest =>
    if c = '\x22' then (readQuoted? c rest).map fun (value, rest) => (.double, value, rest)
    else if c = '\x27' then (readQuoted? c rest).map fun (value, rest) => (.single, value, rest)
    else if isBareChar c then
      some (.bare, c :: rest.takeWhile isBareChar, rest.dropWhile isBareChar)
    else none

/-- The assignment behind a name, if there is an equals sign. An equals sign
without a value is no attribute at all. -/
def readAssignment? (text : Chars) : Option (Option Assignment × Chars) :=
  match text.dropWhile isBlank with
  | '=' :: behind =>
    match readValue? (behind.dropWhile isBlank) with
    | none => none
    | some (quoting, value, rest) =>
      some (some ⟨text.takeWhile isBlank, behind.takeWhile isBlank, quoting, value⟩, rest)
  | _ => some (none, text)

theorem readQuoted?_written {quote : Char} {text value rest : Chars}
    (h : readQuoted? quote text = some (value, rest)) : value ++ quote :: rest = text := by
  have hs := List.takeWhile_append_dropWhile (p := (· != quote)) (l := text)
  unfold readQuoted? at h
  split at h
  · simp at h
  · rename_i c tail hd
    have hc : c = quote := by
      have := List.head?_dropWhile_not (· != quote) text
      simpa [hd] using this
    obtain ⟨rfl, rfl⟩ := Prod.mk.inj (Option.some.inj h)
    rw [hd, hc] at hs
    exact hs

theorem readValue?_written {text value rest : Chars} {quoting : Quoting}
    (h : readValue? text = some (quoting, value, rest)) :
    quoting.marks ++ (value ++ (quoting.marks ++ rest)) = text := by
  unfold readValue? at h
  split at h
  · simp at h
  · rename_i c tail
    split at h
    · rename_i hc
      obtain ⟨⟨v, r⟩, hq, he⟩ := Option.map_eq_some_iff.mp h
      simp only [Prod.mk.injEq] at he
      obtain ⟨rfl, rfl, rfl⟩ := he
      subst hc
      simp [Quoting.marks, readQuoted?_written hq]
    · split at h
      · rename_i hc
        obtain ⟨⟨v, r⟩, hq, he⟩ := Option.map_eq_some_iff.mp h
        simp only [Prod.mk.injEq] at he
        obtain ⟨rfl, rfl, rfl⟩ := he
        subst hc
        simp [Quoting.marks, readQuoted?_written hq]
      · split at h
        · simp only [Option.some.injEq, Prod.mk.injEq] at h
          obtain ⟨rfl, rfl, rfl⟩ := h
          simp [Quoting.marks]
        · simp at h

theorem readAssignment?_written {text rest : Chars} {value : Option Assignment}
    (h : readAssignment? text = some (value, rest)) :
    (value.map Assignment.written).getD [] ++ rest = text := by
  have hs := List.takeWhile_append_dropWhile (p := isBlank) (l := text)
  unfold readAssignment? at h
  split at h
  · rename_i behind hb
    split at h
    · simp at h
    · rename_i quoting v r hv
      obtain ⟨rfl, rfl⟩ := Prod.mk.inj (Option.some.inj h)
      have hw := readValue?_written hv
      have hb' := List.takeWhile_append_dropWhile (p := isBlank) (l := behind)
      rw [hb] at hs
      rw [← hw] at hb'
      simp only [Option.map_some, Option.getD_some, Assignment.written, List.append_assoc,
        List.cons_append]
      rw [hb']
      exact hs
  · obtain ⟨rfl, rfl⟩ := Prod.mk.inj (Option.some.inj h)
    simp

theorem length_le_of_append {α : Type} {xs ys zs : List α} (h : xs ++ ys = zs) :
    ys.length ≤ zs.length := by
  simp [← h]

/-- The attributes in front of a text: each needs a blank before its name. -/
def readAttributes? (text : Chars) : Option (List Attribute × Chars) :=
  let gap := text.takeWhile isBlank
  match _h : text.dropWhile isBlank with
  | [] => some ([], text)
  | c :: behind =>
    if _hc : !gap.isEmpty && isAttributeChar c then
      match _ha : readAssignment? (behind.dropWhile isAttributeChar) with
      | none => none
      | some (value, rest) =>
        (readAttributes? rest).map fun (more, rest) =>
          (⟨gap, c :: behind.takeWhile isAttributeChar, value⟩ :: more, rest)
    else some ([], text)
termination_by text.length
decreasing_by
  have h₁ := length_le_of_append (readAssignment?_written _ha)
  have h₂ := (List.dropWhile_sublist (p := isAttributeChar) (l := behind)).length_le
  have h₃ := (List.dropWhile_sublist (p := isBlank) (l := text)).length_le
  rw [_h, List.length_cons] at h₃
  omega

theorem readAttributes?_written {text rest : Chars} {attributes : List Attribute}
    (h : readAttributes? text = some (attributes, rest)) :
    writtenAttributes attributes ++ rest = text := by
  fun_induction readAttributes? text generalizing attributes rest with
  | case1 text hb =>
    obtain ⟨rfl, rfl⟩ := Prod.mk.inj (Option.some.inj h)
    rfl
  | case2 => simp at h
  | case3 text gap c behind hb hc value after ha =>
    rename_i ih
    obtain ⟨⟨more, r⟩, hm, he⟩ := Option.map_eq_some_iff.mp h
    obtain ⟨rfl, rfl⟩ := Prod.mk.inj he
    have hr := ih hm
    have hw := readAssignment?_written ha
    have hs := List.takeWhile_append_dropWhile (p := isBlank) (l := text)
    have hn := List.takeWhile_append_dropWhile (p := isAttributeChar) (l := behind)
    rw [hb] at hs
    rw [← hw, ← hr] at hn
    simp only [writtenAttributes, Attribute.written, List.append_assoc, List.cons_append]
    rw [hn]
    exact hs
  | case4 =>
    obtain ⟨rfl, rfl⟩ := Prod.mk.inj (Option.some.inj h)
    rfl

def readTagName? : Chars → Option (Chars × Chars)
  | [] => none
  | c :: rest =>
    if isTagStart c then some (c :: rest.takeWhile isTagChar, rest.dropWhile isTagChar) else none

def readTagEnd? (text : Chars) : Option (Chars × Bool × Chars) :=
  match text.dropWhile isBlank with
  | '/' :: '>' :: rest => some (text.takeWhile isBlank, true, rest)
  | '>' :: rest => some (text.takeWhile isBlank, false, rest)
  | _ => none

def readStartTag? (text : Chars) : Option (StartTag × Chars) := do
  let (name, behindName) ← readTagName? text
  let (attributes, behindAttributes) ← readAttributes? behindName
  let (tail, selfClosing, rest) ← readTagEnd? behindAttributes
  return (⟨name, attributes, tail, selfClosing⟩, rest)

def readEndTag? (text : Chars) : Option (Construct × Chars) := do
  let (name, behind) ← readTagName? text
  match behind.dropWhile isBlank with
  | '>' :: rest => some (.endTag name (behind.takeWhile isBlank), rest)
  | _ => none

def Construct.read? : Chars → Option (Construct × Chars)
  | '<' :: '!' :: '-' :: '-' :: rest =>
    (Text.cutAt? commentClosing rest).map fun (value, rest) => (.comment value, rest)
  | '<' :: '/' :: rest => readEndTag? rest
  | '<' :: rest => (readStartTag? rest).map fun (tag, rest) => (.startTag tag, rest)
  | _ => none

theorem readTagName?_written {text name rest : Chars}
    (h : readTagName? text = some (name, rest)) : name ++ rest = text := by
  unfold readTagName? at h
  split at h
  · simp at h
  · split at h
    · obtain ⟨rfl, rfl⟩ := Prod.mk.inj (Option.some.inj h)
      simp
    · simp at h

theorem readTagEnd?_written {text tail rest : Chars} {selfClosing : Bool}
    (h : readTagEnd? text = some (tail, selfClosing, rest)) :
    (tail ++ if selfClosing then ['/', '>'] else ['>']) ++ rest = text := by
  have hs := List.takeWhile_append_dropWhile (p := isBlank) (l := text)
  unfold readTagEnd? at h
  split at h
  · rename_i r hb
    simp only [Option.some.injEq, Prod.mk.injEq] at h
    obtain ⟨rfl, rfl, rfl⟩ := h
    simpa [hb] using hs
  · rename_i r hb
    simp only [Option.some.injEq, Prod.mk.injEq] at h
    obtain ⟨rfl, rfl, rfl⟩ := h
    simpa [hb] using hs
  · simp at h

theorem readStartTag?_written {text rest : Chars} {tag : StartTag}
    (h : readStartTag? text = some (tag, rest)) : tag.written ++ rest = '<' :: text := by
  simp only [readStartTag?, Option.bind_eq_bind, Option.bind_eq_some_iff, Option.pure_def,
    Option.some.injEq, Prod.mk.injEq, Prod.exists] at h
  obtain ⟨name, behindName, hn, attributes, behindAttributes, ha, tail, selfClosing, r, ht,
    rfl, rfl⟩ := h
  have h₁ := readTagName?_written hn
  have h₂ := readAttributes?_written ha
  have h₃ := readTagEnd?_written ht
  simp only [StartTag.written, List.cons_append, List.append_assoc, List.cons.injEq, true_and]
  rw [List.append_assoc] at h₃
  rw [h₃, h₂, h₁]

theorem readEndTag?_written {text rest : Chars} {construct : Construct}
    (h : readEndTag? text = some (construct, rest)) :
    construct.written ++ rest = '<' :: '/' :: text := by
  simp only [readEndTag?, Option.bind_eq_bind, Option.bind_eq_some_iff, Prod.exists] at h
  obtain ⟨name, behind, hn, h⟩ := h
  have h₁ := readTagName?_written hn
  have hs := List.takeWhile_append_dropWhile (p := isBlank) (l := behind)
  split at h
  · rename_i r hb
    obtain ⟨rfl, rfl⟩ := Prod.mk.inj (Option.some.inj h)
    rw [hb] at hs
    simp [Construct.written, hs, h₁]
  · simp at h

theorem Construct.read?_written {text rest : Chars} {construct : Construct}
    (h : Construct.read? text = some (construct, rest)) : construct.written ++ rest = text := by
  unfold Construct.read? at h
  split at h
  · obtain ⟨⟨value, r⟩, hc, he⟩ := Option.map_eq_some_iff.mp h
    obtain ⟨rfl, rfl⟩ := Prod.mk.inj he
    simp [Construct.written, commentOpening, Text.cutAt?_eq_some hc]
  · exact readEndTag?_written h
  · obtain ⟨⟨tag, r⟩, ht, he⟩ := Option.map_eq_some_iff.mp h
    obtain ⟨rfl, rfl⟩ := Prod.mk.inj he
    exact readStartTag?_written ht
  · simp at h

theorem Construct.written_ne_nil (construct : Construct) : construct.written ≠ [] := by
  cases construct <;> simp [Construct.written, StartTag.written, commentOpening]

theorem Construct.read?_shorter {text rest : Chars} {construct : Construct}
    (h : Construct.read? text = some (construct, rest)) : rest.length < text.length := by
  have hw := congrArg List.length (Construct.read?_written h)
  have hp := List.length_pos_iff.mpr construct.written_ne_nil
  rw [List.length_append] at hw
  omega

inductive Piece where
  | text (value : Chars)
  | construct (construct : Construct)
  deriving DecidableEq, Repr

def Piece.written : Piece → Chars
  | text value => value
  | construct c => c.written

/-- A text piece, unless it would be empty. -/
def textPiece (value : Chars) : List Piece := if value.isEmpty then [] else [.text value]

/-- The pieces of a template from left to right. `before` holds the plain text
passed since the last construct, backwards. -/
def piecesFrom (before : Chars) (text : Chars) : List Piece :=
  match _h : Construct.read? text with
  | some (construct, rest) =>
    textPiece before.reverse ++ .construct construct :: piecesFrom [] rest
  | none =>
    match text with
    | [] => textPiece before.reverse
    | c :: rest => piecesFrom (c :: before) rest
termination_by text.length
decreasing_by
  · exact Construct.read?_shorter _h
  · simp

def pieces (text : Chars) : List Piece := piecesFrom [] text

end TemplateTree.Markup
